import SwitchdSai.Model.L3
import SwitchdSai.Verify.Links
import SwitchdSai.Verify.RouterIntf

/-!
# Local routes name existing router interfaces

A bundle records the prefixes of the local routes through its router interface, and removes them
before it gives the interface up. `LocalRoutesOk` relates the route table, the interfaces of the
hardware and the records of all bundles; every operation keeps it, whatever calls into the hardware
fail (`VrfCall.run_localsOk`).
-/

namespace SwitchdSai

open Exec OfprotoSai

/-- The router interface of a bundle that has created one. -/
def OfbundleSai.rif (bundle : OfbundleSai) : Option Nat :=
  if bundle.routerIntf.created then some bundle.routerIntf.rifid else none

namespace OfprotoSai

def rif (o : OfprotoSai) (b : BundlePtr) : Option Nat := (o.bundles.lookup b).bind (·.rif)

/-- The prefixes that a bundle has recorded. -/
def localRoutes (o : OfprotoSai) (b : BundlePtr) : List String :=
  ((o.bundles.lookup b).map (·.localRoutes)).getD []

end OfprotoSai

section
variable [OvsLib]

/-- The invariant of local routes: they name existing interfaces; the interfaces of bundles exist
and differ; and a route through the interface of a bundle is recorded there. -/
structure LocalRoutesOk (o : OfprotoSai) : Prop where
  routes : ∀ vrid pfx rif, o.hw.routes vrid pfx = some (.local rif) → rif ∈ o.hw.routerIntfs
  exists_rif : ∀ b rif, o.rif b = some rif → rif ∈ o.hw.routerIntfs
  distinct : ∀ b b' rif, o.rif b = some rif → o.rif b' = some rif → b = b'
  recorded : ∀ b rif vrid pfx, o.rif b = some rif → o.hw.routes vrid pfx = some (.local rif) →
    vrid = o.vrid ∧ ∃ str ∈ o.localRoutes b, opsSaiCommonIpPrefixToSxIpPrefix str = some pfx

/-! ## What adds no local route -/

/-- No local route has been added and no interface removed. -/
def Hw.LocalsShrink (hw hw' : Hw) : Prop :=
  (∀ vrid pfx rif, hw'.routes vrid pfx = some (.local rif) →
    hw.routes vrid pfx = some (.local rif)) ∧
  ∀ r ∈ hw.routerIntfs, r ∈ hw'.routerIntfs

/-- Moreover no bundle has an interface it did not have, or has dropped a record. -/
structure LocalsShrink (o o' : OfprotoSai) : Prop where
  vrid : o'.vrid = o.vrid
  hw : o.hw.LocalsShrink o'.hw
  bundles : ∀ b rif, o'.rif b = some rif →
    o.rif b = some rif ∧ ∀ str ∈ o.localRoutes b, str ∈ o'.localRoutes b

omit [OvsLib] in
instance : IsPreorder OfprotoSai LocalsShrink where
  refl _ := ⟨rfl, ⟨fun _ _ _ => id, fun _ => id⟩, fun _ _ h => ⟨h, fun _ => id⟩⟩
  trans _ _ _ h h' := by
    refine ⟨h'.vrid.trans h.vrid, ⟨fun vrid pfx rif hr => ?_, fun r hr => ?_⟩, fun b rif hb => ?_⟩
    · exact h.hw.1 vrid pfx rif (h'.hw.1 vrid pfx rif hr)
    · exact h'.hw.2 r (h.hw.2 r hr)
    · obtain ⟨hb₁, hl₁⟩ := h'.bundles b rif hb
      obtain ⟨hb₂, hl₂⟩ := h.bundles b rif hb₁
      exact ⟨hb₂, fun str hs => hl₁ str (hl₂ str hs)⟩

variable {o o' : OfprotoSai} {b : BundlePtr} {p : OfpPort} {s : OfprotoBundleSettings} {st : Int}

theorem LocalsShrink.ok (h : LocalsShrink o o') (hok : LocalRoutesOk o) : LocalRoutesOk o' where
  routes vrid pfx rif hr := h.hw.2 rif (hok.routes vrid pfx rif (h.hw.1 vrid pfx rif hr))
  exists_rif b rif hb := h.hw.2 rif (hok.exists_rif b rif (h.bundles b rif hb).1)
  distinct b b' rif hb hb' := hok.distinct b b' rif (h.bundles b rif hb).1 (h.bundles b' rif hb').1
  recorded b rif vrid pfx hb hr := by
    obtain ⟨hb₁, hl⟩ := h.bundles b rif hb
    obtain ⟨hv, str, hs, hp⟩ := hok.recorded b rif vrid pfx hb₁ (h.hw.1 vrid pfx rif hr)
    exact ⟨hv.trans h.vrid.symm, str, hl str hs, hp⟩

theorem localsShrink_keeps {α : Type} {m : Exec OfprotoSai α} (h : Rel LocalsShrink m) :
    Keeps LocalRoutesOk m := h.mono fun _ _ => LocalsShrink.ok

omit [OvsLib] in
theorem rif_bundlesBy : o.rif b = (o.bundlesBy (·.rif) b).join := by
  unfold OfprotoSai.rif bundlesBy
  cases o.bundles.lookup b <;> rfl

omit [OvsLib] in
theorem localsShrink_of_eq (hv : o'.vrid = o.vrid) (hhw : o.hw.LocalsShrink o'.hw)
    (hr : o'.bundlesBy (·.rif) = o.bundlesBy (·.rif))
    (hl : o'.bundlesBy (·.localRoutes) = o.bundlesBy (·.localRoutes)) : LocalsShrink o o' := by
  have hloc : ∀ o : OfprotoSai, ∀ b, o.localRoutes b = (o.bundlesBy (·.localRoutes) b).getD [] :=
    fun _ _ => rfl
  refine ⟨hv, hhw, fun b rif hb => ?_⟩
  rw [rif_bundlesBy, hr, ← rif_bundlesBy] at hb
  refine ⟨hb, fun str hs => ?_⟩
  rwa [hloc, hl, ← hloc]

omit [OvsLib] in
theorem SameButVlan.localsShrink (h : SameButVlan o o') : LocalsShrink o o' := by
  have hroutes : o'.hw.routes = o.hw.routes := congrArg Hw.L3.routes h.hw.1
  have hintfs : o'.hw.routerIntfs = o.hw.routerIntfs := congrArg Hw.L3.routerIntfs h.hw.1
  refine localsShrink_of_eq h.vrid ⟨fun _ _ _ hr => hroutes ▸ hr, fun _ hr => hintfs ▸ hr⟩ ?_ ?_
  · exact bundlesBy_of (k := (·.rif)) h.bundles fun _ => rfl
  · exact bundlesBy_of (k := (·.localRoutes)) h.bundles fun _ => rfl

omit [OvsLib] in
theorem NoLocalAdded.localsShrink {hw hw' : Hw} (h : Hw.NoLocalAdded hw hw') :
    hw.LocalsShrink hw' := by
  have hintfs : hw'.routerIntfs = hw.routerIntfs := congrArg Hw.ButRoutes.routerIntfs h.same.1
  exact ⟨h.locals, fun _ hr => hintfs ▸ hr⟩

omit [OvsLib] in
theorem SameButIp.localsShrink (h : SameButIp o o') : LocalsShrink o o' := by
  refine localsShrink_of_eq h.vrid (NoLocalAdded.localsShrink h.hw) ?_ ?_
  · exact bundlesBy_of (k := (·.rif)) h.bundles fun _ => rfl
  · exact bundlesBy_of (k := (·.localRoutes)) h.bundles fun _ => rfl

omit [OvsLib] in
theorem RifsKept.localsShrink {hw hw' : Hw} (h : hw.RifsKept (fun _ => False) hw') :
    hw.LocalsShrink hw' :=
  ⟨fun _ _ _ hr => h.1 ▸ hr, fun r hr => h.2 r not_false hr⟩

omit [OvsLib] in
theorem onHw_localsShrink {α : Type} {m : Exec Hw α} (h : Rel Hw.LocalsShrink m) :
    Rel LocalsShrink (onHw m) :=
  onHw_rel fun _ a hw hm => localsShrink_of_eq rfl (h _ a hw hm) rfl rfl

theorem LocalRoutesOk.setHw {hw : Hw} (hok : LocalRoutesOk o) (h : o.hw.LocalsShrink hw) :
    LocalRoutesOk { o with hw := hw } :=
  (show LocalsShrink o { o with hw := hw } from localsShrink_of_eq rfl h rfl rfl).ok hok

omit [OvsLib] in
theorem choose_localsShrink : Rel LocalsShrink (onHw Hw.choose) :=
  onHw_localsShrink (Hw.choose_noLocalAdded.mono fun _ _ => NoLocalAdded.localsShrink)

/-! ## The ports of bundles -/

omit [OvsLib] in
theorem ite_vlans_localsShrink {c : Prop} [Decidable c] {m : Exec Hw Int} {hw : Hw}
    (hm : Rel (Hw.Same Hw.l3) m) (h : (if c then m else pure 0) o.hw = .ok (st, hw)) :
    o.hw.LocalsShrink hw := by
  obtain ⟨hl3, -⟩ := Rel.ite hm (Rel.pure 0) _ _ _ h
  have hroutes : hw.routes = o.hw.routes := congrArg Hw.L3.routes hl3
  have hintfs : hw.routerIntfs = o.hw.routerIntfs := congrArg Hw.L3.routerIntfs hl3
  exact ⟨fun _ _ _ hr => hroutes ▸ hr, fun _ hr => hintfs ▸ hr⟩

omit [OvsLib] in
theorem ofbundlePortDel_localsShrink : Rel LocalsShrink (ofbundlePortDel p) := by
  intro o st o' h
  obtain ⟨port, b, bundle, hw, -, -, hb, hvlans, rfl⟩ := ofbundlePortDel_ok h
  exact localsShrink_of_eq rfl (ite_vlans_localsShrink portVlansLeave_l3 hvlans)
    (setBundle_bundlesBy hb rfl) (setBundle_bundlesBy hb rfl)

omit [OvsLib] in
theorem erase_localsShrink : LocalsShrink o { o with bundles := o.bundles.erase b } := by
  refine ⟨rfl, ⟨fun _ _ _ => id, fun _ => id⟩, fun b' rif hb => ?_⟩
  simp only [OfprotoSai.rif, OfprotoSai.localRoutes, lookup_erase] at hb ⊢
  split at hb
  next => cases hb
  next hne => exact ⟨hb, fun str hs => by rwa [if_neg hne]⟩

/-! ## Removing a route -/

section
variable [Build]

omit [OvsLib] [Build] in
theorem setBundle_rif {b' : BundlePtr} (bundle : OfbundleSai) :
    (o.setBundle b bundle).rif b' = if b' = b then bundle.rif else o.rif b' := by
  simp only [OfprotoSai.rif, setBundle_lookup]
  split <;> rfl

omit [OvsLib] [Build] in
theorem setBundle_localRoutes {b' : BundlePtr} (bundle : OfbundleSai) :
    (o.setBundle b bundle).localRoutes b' =
      if b' = b then bundle.localRoutes else o.localRoutes b' := by
  simp only [OfprotoSai.localRoutes, setBundle_lookup]
  split <;> rfl

omit [OvsLib] [Build] in
theorem rif_of_lookup {bundle : OfbundleSai} (hb : o.bundles.lookup b = some bundle) :
    o.rif b = bundle.rif := by
  rw [OfprotoSai.rif, hb]
  rfl

omit [OvsLib] [Build] in
theorem localRoutes_of_lookup {bundle : OfbundleSai} (hb : o.bundles.lookup b = some bundle) :
    o.localRoutes b = bundle.localRoutes := by
  rw [OfprotoSai.localRoutes, hb]
  rfl

omit [Build] in
/-- Once the route of a record is deleted, the record can go. -/
theorem LocalRoutesOk.forget {bundle : OfbundleSai} {str : String} {pfx : SxIpPrefix}
    (hok : LocalRoutesOk o) (hb : o.bundles.lookup b = some bundle)
    (hstr : opsSaiCommonIpPrefixToSxIpPrefix str = some pfx) :
    LocalRoutesOk ({ o with hw := o.hw.tick.setRoute o.vrid pfx none }.setBundle b
      { bundle with localRoutes := bundle.localRoutes.erase str }) := by
  have hroute : ∀ vrid pfx' rif,
      (o.hw.tick.setRoute o.vrid pfx none).routes vrid pfx' = some (.local rif) →
      o.hw.routes vrid pfx' = some (.local rif) ∧ ¬(vrid = o.vrid ∧ pfx' = pfx) := by
    intro vrid pfx' rif hr
    rw [Hw.setRoute_routes] at hr
    split at hr
    next => cases hr
    next hne => exact ⟨hr, hne⟩
  have hrif : ∀ b', OfprotoSai.rif ({ o with hw := o.hw.tick.setRoute o.vrid pfx none }.setBundle b
      { bundle with localRoutes := bundle.localRoutes.erase str }) b' = o.rif b' := by
    intro b'
    rw [setBundle_rif]
    split
    next hbb => exact hbb ▸ (rif_of_lookup hb).symm
    next => rfl
  refine ⟨fun vrid pfx' rif hr => ?_, fun b' rif hb' => ?_, fun b₁ b₂ rif h₁ h₂ => ?_,
    fun b' rif vrid pfx' hb' hr => ?_⟩
  · exact hok.routes vrid pfx' rif (hroute vrid pfx' rif hr).1
  · exact hok.exists_rif b' rif (hrif b' ▸ hb')
  · exact hok.distinct b₁ b₂ rif (hrif b₁ ▸ h₁) (hrif b₂ ▸ h₂)
  · obtain ⟨hr, hne⟩ := hroute vrid pfx' rif hr
    obtain ⟨hv, str', hs, hp⟩ := hok.recorded b' rif vrid pfx' (hrif b' ▸ hb') hr
    refine ⟨hv, str', ?_, hp⟩
    have hstr' : str' ≠ str := by
      rintro rfl
      exact hne ⟨hv, Option.some.inj (hp.symm.trans hstr)⟩
    rw [setBundle_localRoutes]
    split
    next hbb =>
      rw [hbb, localRoutes_of_lookup hb] at hs
      exact (List.mem_erase_of_ne hstr').mpr hs
    next => exact hs

/-- Remove a route and its record: the body of the loop of `__ofbundle_router_intf_remove`. -/
theorem forgetRoute_ok {str : String} (hok : LocalRoutesOk o)
    (h : ((onHw (opsSaiRouteRemove o.vrid str)).thenOk do
      modifyBundle b fun bundle => { bundle with localRoutes := bundle.localRoutes.erase str }
      return 0) o = .ok (st, o')) :
    LocalRoutesOk o' ∧ o'.vrid = o.vrid ∧
      (st = 0 → o'.localRoutes b = (o.localRoutes b).erase str) := by
  rcases thenOk_ok.mp h with ⟨hfail, h0⟩ | ⟨o₁, hremove, hend⟩
  · have hshrink := onHw_localsShrink (routeRemove_noLocalAdded.mono
      fun _ _ => NoLocalAdded.localsShrink) _ _ _ hfail
    obtain ⟨hw, -, rfl⟩ := onHw_ok.mp hfail
    exact ⟨hshrink.ok hok, rfl, fun h => absurd h h0⟩
  · obtain ⟨hw, hhw, rfl⟩ := onHw_ok.mp hremove
    obtain ⟨pfx, hstr, rfl⟩ := opsSaiRouteRemove_ok hhw
    obtain ⟨bundle, hb, hend⟩ := modifyBundle_bind.mp hend
    cases hend
    have hb' : o.bundles.lookup b = some bundle := hb
    refine ⟨hok.forget hb hstr, rfl, fun _ => ?_⟩
    rw [setBundle_localRoutes, if_pos rfl, localRoutes_of_lookup hb']

/-- The first loop of `__ofbundle_router_intf_remove`: when it succeeds no record is left. -/
theorem localRoutesRemove_ok (hok : LocalRoutesOk o) (h : localRoutesRemove b o = .ok (st, o')) :
    LocalRoutesOk o' ∧ (st = 0 → o'.localRoutes b = []) := by
  obtain ⟨bundle, hb, h⟩ := ofbundle_bind.mp h
  rw [gets_bind] at h
  obtain ⟨addrs, o₁, hwalk, hloop⟩ := bind_ok.mp h
  obtain ⟨hperm, cs, rfl⟩ := walkTable_ok hwalk
  -- before every turn the records left are the addresses to come
  have hloop := forEach_ok (Q := LocalRoutesOk)
    (P := fun addrs o₁ => LocalRoutesOk o₁ ∧ o₁.vrid = o.vrid ∧ (o₁.localRoutes b).Perm addrs)
    (fun str addrs o₁ st o₂ hP hturn => ?_) hloop ⟨?_, rfl, ?_⟩
  · by_cases h0 : st = 0
    · obtain ⟨hok', -, hnil⟩ := hloop.1 h0
      exact ⟨hok', fun _ => hnil.eq_nil⟩
    · exact ⟨hloop.2 h0, fun h => absurd h h0⟩
  · obtain ⟨hok₁, hvrid, hleft⟩ := hP
    rw [← hvrid] at hturn
    obtain ⟨hok₂, hvrid₂, hloc⟩ := forgetRoute_ok hok₁ hturn
    refine ⟨fun h0 => ⟨hok₂, hvrid₂.trans hvrid, ?_⟩, fun _ => hok₂⟩
    rw [hloc h0]
    simpa using hleft.erase str
  · exact hok.setHw ⟨fun _ _ _ => id, fun _ => id⟩
  · have hb : OfprotoSai.localRoutes { o with hw := { o.hw with choices := cs } } b =
        bundle.localRoutes := localRoutes_of_lookup hb
    rw [hb]
    exact hperm.symm

/-! ## Giving up and creating a router interface -/

omit [OvsLib] [Build] in
theorem localsShrink_of_frame (h : (o'.vrid, o'.bundles, o'.hw) = (o.vrid, o.bundles, o.hw)) :
    LocalsShrink o o' := by
  simp only [Prod.mk.injEq] at h
  obtain ⟨hv, hb, hhw⟩ := h
  refine localsShrink_of_eq hv ?_ ?_ ?_
  · rw [hhw]
    exact ⟨fun _ _ _ => id, fun _ => id⟩
  · unfold bundlesBy
    rw [hb]
  · unfold bundlesBy
    rw [hb]

omit [Build] in
/-- A bundle without records can give up its interface: no route goes through it. -/
theorem LocalRoutesOk.giveUp {bundle : OfbundleSai} {hw : Hw} (hok : LocalRoutesOk o)
    (hb : o.bundles.lookup b = some bundle) (hc : bundle.routerIntf.created = true)
    (hnil : bundle.localRoutes = []) (hkept : o.hw.RifsKept (· = bundle.routerIntf.rifid) hw) :
    LocalRoutesOk (OfprotoSai.setBundle b { bundle with routerIntf := .zero }
      { o with hw := hw }) := by
  obtain ⟨hroutes, hintfs⟩ := hkept
  have hrif : o.rif b = some bundle.routerIntf.rifid := by
    rw [rif_of_lookup hb, OfbundleSai.rif, if_pos hc]
  have hother : ∀ b' rif, OfprotoSai.rif (OfprotoSai.setBundle b { bundle with routerIntf := .zero }
      { o with hw := hw }) b' = some rif → b' ≠ b ∧ o.rif b' = some rif := by
    intro b' rif hb'
    rw [setBundle_rif] at hb'
    split at hb'
    next => cases hb'
    next hne => exact ⟨hne, hb'⟩
  refine ⟨fun vrid pfx rif hr => ?_, fun b' rif hb' => ?_, fun b₁ b₂ rif h₁ h₂ => ?_,
    fun b' rif vrid pfx hb' hr => ?_⟩
  · have hr : o.hw.routes vrid pfx = some (.local rif) := hroutes ▸ hr
    refine hintfs rif ?_ (hok.routes vrid pfx rif hr)
    rintro rfl
    obtain ⟨-, str, hs, -⟩ := hok.recorded b _ vrid pfx hrif hr
    rw [localRoutes_of_lookup hb, hnil] at hs
    cases hs
  · obtain ⟨hne, hb'⟩ := hother b' rif hb'
    refine hintfs rif ?_ (hok.exists_rif b' rif hb')
    rintro rfl
    exact hne (hok.distinct b' b _ hb' hrif)
  · exact hok.distinct b₁ b₂ rif (hother b₁ rif h₁).2 (hother b₂ rif h₂).2
  · obtain ⟨hne, hb'⟩ := hother b' rif hb'
    have hr : o.hw.routes vrid pfx = some (.local rif) := hroutes ▸ hr
    rw [setBundle_localRoutes, if_neg hne]
    exact hok.recorded b' rif vrid pfx hb' hr

omit [Build] in
/-- A bundle can take a new interface: no route goes through it yet. -/
theorem LocalRoutesOk.take {bundle : OfbundleSai} {hw : Hw} {rifid : Nat} (hok : LocalRoutesOk o)
    (hnew : rifid ∉ o.hw.routerIntfs) (hin : rifid ∈ hw.routerIntfs)
    (hrif : bundle.rif = some rifid) (hkept : o.hw.RifsKept (fun _ => False) hw) :
    LocalRoutesOk (OfprotoSai.setBundle b bundle { o with hw := hw }) := by
  obtain ⟨hroutes, hintfs⟩ := hkept
  have hcases : ∀ b' rif, OfprotoSai.rif (OfprotoSai.setBundle b bundle { o with hw := hw }) b' =
      some rif → b' = b ∧ rif = rifid ∨ b' ≠ b ∧ o.rif b' = some rif := by
    intro b' rif hb'
    rw [setBundle_rif] at hb'
    split at hb'
    next hbb => exact .inl ⟨hbb, Option.some.inj (hb'.symm.trans hrif)⟩
    next hne => exact .inr ⟨hne, hb'⟩
  refine ⟨fun vrid pfx rif hr => ?_, fun b' rif hb' => ?_, fun b₁ b₂ rif h₁ h₂ => ?_,
    fun b' rif vrid pfx hb' hr => ?_⟩
  · exact hintfs rif not_false (hok.routes vrid pfx rif (hroutes ▸ hr))
  · rcases hcases b' rif hb' with ⟨-, rfl⟩ | ⟨-, hb'⟩
    · exact hin
    · exact hintfs rif not_false (hok.exists_rif b' rif hb')
  · rcases hcases b₁ rif h₁ with ⟨e₁, rfl⟩ | ⟨-, h₁⟩ <;>
      rcases hcases b₂ _ h₂ with ⟨e₂, hrif₂⟩ | ⟨-, h₂⟩
    · exact e₁.trans e₂.symm
    · exact absurd (hok.exists_rif b₂ _ h₂) hnew
    · exact absurd (hrif₂ ▸ hok.exists_rif b₁ _ h₁) hnew
    · exact hok.distinct b₁ b₂ rif h₁ h₂
  · have hr : o.hw.routes vrid pfx = some (.local rif) := hroutes ▸ hr
    rcases hcases b' rif hb' with ⟨-, rfl⟩ | ⟨hne, hb'⟩
    · exact absurd (hok.routes vrid pfx _ hr) hnew
    · rw [setBundle_localRoutes, if_neg hne]
      exact hok.recorded b' rif vrid pfx hb' hr

omit [OvsLib] [Build] in
theorem setRouterIntfHandles_localsShrink {h : Option BundlePtr} {ports : List OfpPort} :
    Rel LocalsShrink (forEach ports fun p => netdevSaiSetRouterIntfHandle p h) :=
  Rel.forEach fun _ => setRouterIntfHandle_frame.mono fun _ _ => localsShrink_of_frame

theorem ofbundleRouterIntfRemove_localsOk : Keeps LocalRoutesOk (ofbundleRouterIntfRemove b) := by
  intro o st o' h hok
  rcases ofbundleRouterIntfRemove_ok h with ⟨hfail, -⟩ | ⟨o₁, bundle, hlocal, hb, hrest⟩
  · exact (localRoutesRemove_ok hok hfail).1
  obtain ⟨hok₁, hnil⟩ := localRoutesRemove_ok hok hlocal
  rw [localRoutes_of_lookup hb] at hnil
  rcases hrest with ⟨-, -, rfl⟩ | ⟨hc, o₂, hw, hclear, hhw, hend⟩
  · exact hok₁
  have hok₂ := (setRouterIntfHandles_localsShrink _ _ _ hclear).ok hok₁
  obtain ⟨hkept, hfailed⟩ := opsSaiRouterIntfRemove_kept hhw
  rcases hend with ⟨h0, rfl⟩ | ⟨-, rfl⟩
  · exact hok₂.setHw (RifsKept.localsShrink (hfailed h0))
  · have hframe : Frame (fun o => (o.vrid, o.bundles, o.hw)) (forEach bundle.ports fun p =>
        netdevSaiSetRouterIntfHandle p none) := Rel.forEach fun _ => setRouterIntfHandle_frame
    have hbundles : o₂.bundles = o₁.bundles := congrArg (fun t => t.2.1) (hframe _ _ _ hclear)
    exact hok₂.giveUp (hbundles ▸ hb) hc (hnil rfl) hkept

omit [Build] in
theorem routerIntfCreate_localsOk {rifType : RouterIntfType} {handle : Nat} :
    Keeps LocalRoutesOk (routerIntfCreate b rifType handle) := by
  intro o st o' h hok
  obtain ⟨bundle, rifid, hw, hb, hhw, hend⟩ := routerIntfCreate_ok h
  have hkept := opsSaiRouterIntfCreate_kept (S := fun _ => False) _ _ _ hhw
  rcases hend with ⟨-, rfl⟩ | ⟨h0, hset⟩
  · exact hok.setHw (RifsKept.localsShrink hkept)
  · obtain ⟨hnew, hin⟩ := (opsSaiRouterIntfCreate_ok hhw).1 h0
    exact (setRouterIntfHandles_localsShrink _ _ _ hset).ok (hok.take hnew hin rfl hkept)

omit [OvsLib] [Build] in
/-- Changing a bundle but not its interface or records. -/
theorem modifyBundle_localsShrink {f : OfbundleSai → OfbundleSai} (hr : ∀ x, (f x).rif = x.rif)
    (hl : ∀ x, (f x).localRoutes = x.localRoutes) : Rel LocalsShrink (modifyBundle b f) :=
  modifyBundle_rel fun _ bundle hb => localsShrink_of_eq rfl ⟨fun _ _ _ => id, fun _ => id⟩
    (setBundle_bundlesBy hb (hr bundle)) (setBundle_bundlesBy hb (hl bundle))

omit [OvsLib] [Build] in
theorem routerIntfEnable_localsShrink {enable : Bool} :
    Rel LocalsShrink (routerIntfEnable b enable) :=
  routerIntfEnable_rel (fun _ => onHw_localsShrink
    (opsSaiRouterIntfSetState_kept.mono fun _ _ => RifsKept.localsShrink))
    (modifyBundle_localsShrink (fun _ => rfl) fun _ => rfl)

theorem ofbundleRouterIntfReconfigure_localsOk :
    Keeps LocalRoutesOk (ofbundleRouterIntfReconfigure b s) :=
  ofbundleRouterIntfReconfigure_rel
    (fun _ _ => routerIntfApply_rel ofbundleRouterIntfRemove_localsOk routerIntfCreate_localsOk
      (localsShrink_keeps routerIntfEnable_localsShrink))
    (localsShrink_keeps (modifyBundle_localsShrink (fun _ => rfl) fun _ => rfl))

/-! ## The operations on bundles -/

omit [Build] in
theorem ofbundlePortDel_localsOk : Keeps LocalRoutesOk (ofbundlePortDel p) :=
  localsShrink_keeps ofbundlePortDel_localsShrink

theorem ofbundleDestroy_localsOk : Keeps LocalRoutesOk (ofbundleDestroy b) :=
  ofbundleDestroy_rel
    (localsShrink_keeps (ofbundleIpRemove_sameButIp.mono fun _ _ => SameButIp.localsShrink))
    ofbundleRouterIntfRemove_localsOk (fun _ => ofbundlePortDel_localsOk)
    fun _ hok => erase_localsShrink.ok hok

theorem bundleRemove_localsOk : Keeps LocalRoutesOk (bundleRemove p) :=
  bundleRemove_rel (fun _ => ofbundlePortDel_localsOk) fun _ => ofbundleDestroy_localsOk

theorem ofbundlePortAdd_localsOk {sPort : Option OfpPort} :
    Keeps LocalRoutesOk (ofbundlePortAdd b sPort) := by
  intro o st o' h hok
  obtain ⟨p, port, o₁, port₁, bundle, hw, -, -, hremove, -, hb, hvlans, rfl⟩ :=
    ofbundlePortAdd_ok h
  refine LocalsShrink.ok ?_ (bundleRemove_localsOk _ _ _ hremove hok)
  exact localsShrink_of_eq rfl (ite_vlans_localsShrink portVlansJoin_l3 hvlans)
    (setBundle_bundlesBy hb rfl) (setBundle_bundlesBy hb rfl)

theorem ofbundlePortsReconfigure_localsOk :
    Keeps LocalRoutesOk (ofbundlePortsReconfigure b s) :=
  ofbundlePortsReconfigure_rel (fun _ => ofbundlePortDel_localsOk)
    (localsShrink_keeps (vlanReconfigure_sameButVlan.mono fun _ _ => SameButVlan.localsShrink))
    fun _ => ofbundlePortAdd_localsOk

theorem bundleApply_localsOk : Keeps LocalRoutesOk (bundleApply b s) :=
  bundleApply_rel ofbundlePortsReconfigure_localsOk ofbundleRouterIntfReconfigure_localsOk
    (localsShrink_keeps (ofbundleIpReconfigure_sameButIp.mono fun _ _ => SameButIp.localsShrink))

omit [Build] in
theorem ofbundleLookupOrCreate_localsOk {aux : Nat} :
    Keeps LocalRoutesOk (ofbundleLookupOrCreate aux s) := by
  refine localsShrink_keeps (ofbundleLookupOrCreate_rel fun o b cs _ => ?_)
  refine ⟨rfl, ⟨fun _ _ _ => id, fun _ => id⟩, fun b' rif hb' => ?_⟩
  rw [setBundle_rif] at hb'
  rw [setBundle_localRoutes]
  split at hb'
  next => cases hb'
  next hne =>
    rw [if_neg hne]
    exact ⟨hb', fun _ => id⟩

/-! ## The operations on routes -/

omit [Build] in
/-- A local route that is added is recorded. -/
theorem LocalRoutesOk.record {bundle : OfbundleSai} {str : String} {pfx : SxIpPrefix}
    (hok : LocalRoutesOk o) (hb : o.bundles.lookup b = some bundle)
    (hc : bundle.routerIntf.created = true)
    (hstr : opsSaiCommonIpPrefixToSxIpPrefix str = some pfx) :
    LocalRoutesOk (OfprotoSai.setBundle b { bundle with localRoutes := str :: bundle.localRoutes }
      { o with
        hw := o.hw.tick.setRoute o.vrid pfx (some (.local bundle.routerIntf.rifid)) }) := by
  have hrifb : o.rif b = some bundle.routerIntf.rifid := by
    rw [rif_of_lookup hb, OfbundleSai.rif, if_pos hc]
  generalize ho₁ : OfprotoSai.setBundle b { bundle with localRoutes := str :: bundle.localRoutes } _
    = o₁
  have hrif : ∀ b', o₁.rif b' = o.rif b' := by
    intro b'
    rw [← ho₁, setBundle_rif]
    split
    next hbb => exact hbb ▸ (rif_of_lookup hb).symm
    next => rfl
  have hlocal : ∀ b' str', str' ∈ o.localRoutes b' ∨ b' = b ∧ str' = str →
      str' ∈ o₁.localRoutes b' := by
    intro b' str' hs
    rw [← ho₁, setBundle_localRoutes]
    split
    next hbb =>
      rw [hbb, localRoutes_of_lookup hb] at hs
      exact List.mem_cons.mpr (hs.symm.imp And.right id)
    next hne => exact hs.resolve_right fun h => hne h.1
  have hroute : ∀ vrid pfx' rif, o₁.hw.routes vrid pfx' = some (.local rif) →
      o.hw.routes vrid pfx' = some (.local rif) ∨
        vrid = o.vrid ∧ pfx' = pfx ∧ rif = bundle.routerIntf.rifid := by
    intro vrid pfx' rif hr
    rw [← ho₁, setBundle_hw, Hw.setRoute_routes] at hr
    split at hr
    next h =>
      cases hr
      exact .inr ⟨h.1, h.2, rfl⟩
    next => exact .inl hr
  have hintfs : o₁.hw.routerIntfs = o.hw.routerIntfs := by
    rw [← ho₁]
    rfl
  have hvrid : o₁.vrid = o.vrid := by
    rw [← ho₁]
    rfl
  refine ⟨fun vrid pfx' rif hr => ?_, fun b' rif hb' => ?_, fun b₁ b₂ rif h₁ h₂ => ?_,
    fun b' rif vrid pfx' hb' hr => ?_⟩
  · rw [hintfs]
    rcases hroute vrid pfx' rif hr with hr | ⟨-, -, rfl⟩
    · exact hok.routes vrid pfx' rif hr
    · exact hok.exists_rif b _ hrifb
  · exact hintfs ▸ hok.exists_rif b' rif (hrif b' ▸ hb')
  · exact hok.distinct b₁ b₂ rif (hrif b₁ ▸ h₁) (hrif b₂ ▸ h₂)
  · rw [hrif] at hb'
    rw [hvrid]
    rcases hroute vrid pfx' rif hr with hr | ⟨hv, rfl, rfl⟩
    · obtain ⟨hv, str', hs, hp⟩ := hok.recorded b' rif vrid pfx' hb' hr
      exact ⟨hv, str', hlocal b' str' (.inl hs), hp⟩
    · have hbb : b' = b := hok.distinct b' b _ hb' hrifb
      exact ⟨hv, str, hlocal b' str (.inr ⟨hbb, rfl⟩), hstr⟩

omit [Build] in
/-- A local route is recorded whether or not the hardware took it. -/
theorem l3LocalRouteAdd_ok {pfx : String} (h : l3LocalRouteAdd b pfx o = .ok (st, o')) :
    ∃ bundle hw, o.bundles.lookup b = some bundle ∧ bundle.routerIntf.created = true ∧
      opsSaiRouteLocalAdd o.vrid pfx bundle.routerIntf.rifid o.hw = .ok (st, hw) ∧
      o' = OfprotoSai.setBundle b { bundle with localRoutes := pfx :: bundle.localRoutes }
        { o with hw := hw } := by
  obtain ⟨bundle, hb, h⟩ := ofbundle_bind.mp h
  obtain ⟨hc, h⟩ := require_bind.mp h
  rw [gets_bind] at h
  obtain ⟨st₁, o₁, h₁, h⟩ := bind_ok.mp h
  obtain ⟨hw, hadd, rfl⟩ := onHw_ok.mp h₁
  obtain ⟨bundle₁, hb₁, hend⟩ := modifyBundle_bind.mp h
  cases hend
  have hb₂ : o.bundles.lookup b = some bundle₁ := hb₁
  obtain rfl : bundle₁ = bundle := Option.some.inj (hb₂.symm.trans hb)
  exact ⟨bundle₁, hw, hb, hc, hadd, rfl⟩

omit [Build] in
theorem l3LocalRouteAdd_localsOk {pfx : String} : Keeps LocalRoutesOk (l3LocalRouteAdd b pfx) := by
  intro o st o' h hok
  obtain ⟨bundle, hw, hb, hc, hadd, rfl⟩ := l3LocalRouteAdd_ok h
  rcases opsSaiRouteLocalAdd_cases hadd with ⟨sxPrefix, hpfx, -, -, rfl⟩ | ⟨-, -, hroutes, hintfs⟩
  · exact hok.record hb hc hpfx
  · refine LocalsShrink.ok (o := o) ⟨rfl, ⟨fun _ _ _ hr => hroutes ▸ hr, fun _ hr => hintfs ▸ hr⟩,
      fun b' rif hb' => ?_⟩ hok
    rw [setBundle_rif] at hb'
    rw [setBundle_localRoutes]
    split at hb'
    next hbb =>
      rw [hbb, if_pos rfl, rif_of_lookup hb, localRoutes_of_lookup hb]
      exact ⟨hb', fun _ => List.mem_cons_of_mem _⟩
    next hne =>
      rw [if_neg hne]
      exact ⟨hb', fun _ => id⟩

theorem l3LocalRouteDelete_localsOk {pfx : String} :
    Keeps LocalRoutesOk (l3LocalRouteDelete b pfx) := by
  intro o st o' h hok
  obtain ⟨bundle, hb, h⟩ := ofbundle_bind.mp h
  rw [gets_bind] at h
  split at h
  next => exact (forgetRoute_ok hok h).1
  next =>
    cases h
    exact hok

omit [Build] in
theorem onHw_localsOk {α : Type} {m : Exec Hw α} (h : Rel Hw.NoLocalAdded m) :
    Keeps LocalRoutesOk (onHw m) :=
  localsShrink_keeps (onHw_localsShrink (h.mono fun _ _ => NoLocalAdded.localsShrink))

/-! ### How a relation passes through them -/

section
variable {R : OfprotoSai → OfprotoSai → Prop} [IsPreorder OfprotoSai R]
  {action : OfprotoRouteAction}

theorem l3RemoteRouteAction_rel {pfx : String} {nextHops : List String}
    (hroutes : ∀ {m : Exec Hw Int}, Rel Hw.NoLocalAdded m → Rel R (onHw m)) :
    Rel R (l3RemoteRouteAction action pfx nextHops) := by
  refine (Rel.gets _).bind fun vrid => ?_
  cases action with
  | add =>
    refine hroutes ((Rel.require _ _).bind fun _ => (Rel.require _ _).bind fun _ => ?_)
    exact routeRemoteAction_noLocalAdded.bind fun _ => Rel.pure _
  | deleteNh => exact hroutes (routeRemoteAction_noLocalAdded.bind fun _ => Rel.pure _)
  | delete => exact hroutes routeRemove_noLocalAdded
  | unknown => exact Rel.pure _

theorem l3LocalRouteAction_rel {pfx egressIntf : String} (hchoose : Rel R (onHw Hw.choose))
    (hadd : ∀ b, Rel R (l3LocalRouteAdd b pfx)) (hdelete : ∀ b, Rel R (l3LocalRouteDelete b pfx)) :
    Rel R (l3LocalRouteAction action pfx egressIntf) := by
  have hlookup : Rel R (ofbundleLookupByNetdevName egressIntf) :=
    Rel.bind (hchoose.bind fun _ => Rel.gets _) fun _ => (Rel.gets _).bind fun _ => Rel.pure _
  refine hlookup.bind fun found => ?_
  cases found with
  | none =>
    cases action with
    | add => exact Rel.halt _
    | delete | deleteNh | unknown => exact Rel.pure _
  | some b =>
    refine (ofbundle_rel b).bind fun bundle => (Rel.pure _).ite ?_
    cases action with
    | add => exact hadd b
    | delete | deleteNh => exact hdelete b
    | unknown => exact Rel.pure _

theorem l3RouteAction_rel {routep : OfprotoRoute}
    (hroutes : ∀ {m : Exec Hw Int}, Rel Hw.NoLocalAdded m → Rel R (onHw m))
    (hchoose : Rel R (onHw Hw.choose)) (hadd : ∀ b pfx, Rel R (l3LocalRouteAdd b pfx))
    (hdelete : ∀ b pfx, Rel R (l3LocalRouteDelete b pfx)) :
    Rel R (l3RouteAction action routep) := by
  refine (Rel.pure _).ite ?_
  split
  next => exact (Rel.require _ _).bind fun _ => l3RemoteRouteAction_rel hroutes
  next =>
    exact l3LocalRouteAction_rel hchoose (fun b => hadd b routep.pfx) fun b => hdelete b routep.pfx
  next => exact Rel.pure _
  next => exact Rel.halt _

end

theorem l3RouteAction_localsOk {action : OfprotoRouteAction} {routep : OfprotoRoute} :
    Keeps LocalRoutesOk (l3RouteAction action routep) :=
  l3RouteAction_rel onHw_localsOk (localsShrink_keeps choose_localsShrink)
    (fun _ _ => l3LocalRouteAdd_localsOk) fun _ _ => l3LocalRouteDelete_localsOk

/-! ## Runs -/

/-- A call on a VRF: of `__bundle_set` or `__bundle_remove`, or of `__l3_route_action`. -/
inductive VrfCall where
  | bundle (c : BundleCall)
  | route (action : OfprotoRouteAction) (routep : OfprotoRoute)

section
variable [OpenswitchIdl]

def VrfCall.run : VrfCall → Exec OfprotoSai Int
  | .bundle c => c.run
  | .route action routep => l3RouteAction action routep

theorem BundleCall.run_localsOk {c : BundleCall} : Keeps LocalRoutesOk c.run :=
  BundleCall.run_rel (fun _ _ _ => ofbundleLookupOrCreate_localsOk)
    (fun _ _ _ _ => bundleApply_localsOk) (fun _ => ofbundleDestroy_localsOk)
    fun _ => bundleRemove_localsOk

theorem VrfCall.run_localsOk {c : VrfCall} : Keeps LocalRoutesOk c.run := by
  cases c with
  | bundle c => exact BundleCall.run_localsOk
  | route action routep => exact l3RouteAction_localsOk

omit [Build] [OpenswitchIdl] in
theorem new_localsOk {type : OfprotoType} {vrid : Nat} {ofports : OfpPort → Option OfportSai}
    {hw : Hw} (hempty : ∀ vrid pfx, hw.routes vrid pfx = none) :
    LocalRoutesOk (.new type vrid ofports hw) := by
  have hrif : ∀ b, (OfprotoSai.new type vrid ofports hw).rif b = none := fun _ => rfl
  refine ⟨fun v pfx rif hr => ?_, fun b rif hb => ?_, fun b b' rif hb => ?_,
    fun b rif v pfx hb => ?_⟩
  · cases (hempty v pfx).symm.trans hr
  all_goals cases (hrif b).symm.trans hb

/-- **A local route names a router interface that exists**, in every state of a run of bundle and
route calls that starts without bundles and routes, whatever the outcomes of the hardware calls. -/
theorem localRoutes_exist {type : OfprotoType} {vrid : Nat}
    {ofports : OfpPort → Option OfportSai} {hw : Hw}
    (hempty : ∀ vrid pfx, hw.routes vrid pfx = none)
    (H : Reaches (fun _ _ => True) VrfCall.run (.new type vrid ofports hw) o) {v rif : Nat}
    {pfx : SxIpPrefix} (hroute : o.hw.routes v pfx = some (.local rif)) :
    rif ∈ o.hw.routerIntfs := by
  have hok := H.invariant (fun _ _ _ _ _ => VrfCall.run_localsOk _ _ _) (new_localsOk hempty)
  exact hok.routes v pfx rif hroute

end

end

end

section
attribute [local instance] sampleOvs sampleBuild sampleIdl

/-- The prefix 10.1.0.0/16. -/
def samplePrefix : SxIpPrefix := ⟨.ipv4, [0x0a010000], [0xffff0000]⟩

/-- A local route through the interface of port 1. -/
theorem localRoutes_exist_sample :
    ∃ o rif, Reaches (fun _ _ => True) VrfCall.run (.new .vrf 0 samplePorts .reset) o ∧
      o.hw.routes 0 samplePrefix = some (.local rif) ∧ rif ∈ o.hw.routerIntfs := by
  obtain ⟨o, hrun⟩ := result_eq_some.mp (show result (do
    let st ← VrfCall.run (.bundle (.set 1 (some (accessSettings 2))))
    let st' ← VrfCall.run (.route .add ⟨"10.1.0.0/16", [.port "1"]⟩)
    let r ← gets fun o => o.hw.routes 0 samplePrefix
    pure (st, st', r)) (.new .vrf 0 samplePorts .reset) = some (0, 0, some (.local 0)) by
      decide +kernel)
  obtain ⟨st, o₁, hset, hrun⟩ := bind_ok.mp hrun
  obtain ⟨st', o₂, hadd, hend⟩ := bind_ok.mp hrun
  rw [gets_bind, pure_apply] at hend
  simp only [Except.ok.injEq, Prod.mk.injEq] at hend
  obtain ⟨⟨-, -, hroute⟩, -⟩ := hend
  have H : Reaches (fun _ _ => True) VrfCall.run (.new .vrf 0 samplePorts .reset) o₂ :=
    .tail (.tail .refl ⟨_, st, trivial, hset⟩) ⟨_, st', trivial, hadd⟩
  exact ⟨o₂, 0, H, hroute, localRoutes_exist (fun _ _ => rfl) H hroute⟩

end

end SwitchdSai
