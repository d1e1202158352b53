import SwitchdSai.Lib.Run
import SwitchdSai.Verify.LocalRoutes
import SwitchdSai.Verify.Neighbors

/-!
# Records and local routes agree

`__l3_route_action` records a local route on every add, whatever the hardware answered and whatever
is recorded already, and drops one record on a delete. The records of a bundle agree with the local
routes through its interface exactly as long as every add is taken by the hardware and is of a
prefix without a record (`localRoutes_exact_iff`).
-/

namespace SwitchdSai

open Exec OfprotoSai

section
variable [OvsLib]

/-- The prefixes that a bundle has recorded; `none` stands for a text that is no prefix. -/
def OfprotoSai.recorded (o : OfprotoSai) (b : BundlePtr) : List (Option SxIpPrefix) :=
  (o.localRoutes b).map opsSaiCommonIpPrefixToSxIpPrefix

/-- A bundle with an interface has recorded every prefix exactly once that the hardware has a local
route for through this interface, and nothing else. -/
def LocalsExact (o : OfprotoSai) : Prop :=
  ∀ b rif, o.rif b = some rif → none ∉ o.recorded b ∧
    ∀ pfx, (o.recorded b).count (some pfx) =
      if o.hw.routes o.vrid pfx = some (.local rif) then 1 else 0

/-- Records and routes agree, interfaces of bundles differ, and a local route through a bundle is of
a prefix that `own` assigns to it. -/
structure LocalsState (own : SxIpPrefix → BundlePtr) (o : OfprotoSai) : Prop where
  exact : LocalsExact o
  distinct : ∀ b b' rif, o.rif b = some rif → o.rif b' = some rif → b = b'
  owned : ∀ b rif pfx, o.rif b = some rif → o.hw.routes o.vrid pfx = some (.local rif) →
    own pfx = b

variable {own : SxIpPrefix → BundlePtr} {o o' : OfprotoSai} {b : BundlePtr} {bundle : OfbundleSai}
  {pfx : SxIpPrefix} {str : String} {st : Int}

/-! ## One bundle and one prefix -/

theorem recorded_of_lookup (hb : o.bundles.lookup b = some bundle) :
    o.recorded b = bundle.localRoutes.map opsSaiCommonIpPrefixToSxIpPrefix := by
  rw [OfprotoSai.recorded, localRoutes_of_lookup hb]

theorem setBundle_recorded {b' : BundlePtr} :
    (o.setBundle b bundle).recorded b' =
      if b' = b then bundle.localRoutes.map opsSaiCommonIpPrefixToSxIpPrefix
      else o.recorded b' := by
  unfold OfprotoSai.recorded
  rw [setBundle_localRoutes]
  split <;> rfl

/-- Change the records of a bundle and the route of a prefix that belongs to it. It is enough that
they agree again for this bundle. -/
theorem LocalsState.change {l : List String} {hw : Hw} {route : Option HwRoute}
    (h : LocalsState own o) (hb : o.bundles.lookup b = some bundle) (hown : own pfx = b)
    (hroutes : ∀ pfx', hw.routes o.vrid pfx' =
      if pfx' = pfx then route else o.hw.routes o.vrid pfx')
    (hroute : ∀ rif, route = some (.local rif) → bundle.rif = some rif)
    (hexact : ∀ rif, bundle.rif = some rif →
      none ∉ l.map opsSaiCommonIpPrefixToSxIpPrefix ∧
      ∀ pfx', (l.map opsSaiCommonIpPrefixToSxIpPrefix).count (some pfx') =
        if hw.routes o.vrid pfx' = some (.local rif) then 1 else 0) :
    LocalsState own
      (OfprotoSai.setBundle b { bundle with localRoutes := l } { o with hw := hw }) := by
  generalize ho₁ : OfprotoSai.setBundle b { bundle with localRoutes := l } { o with hw := hw } = o₁
  have hvrid : o₁.vrid = o.vrid := by subst ho₁; rfl
  have hhw : o₁.hw = hw := by subst ho₁; rfl
  have hrif : ∀ b', o₁.rif b' = o.rif b' := by
    intro b'
    rw [← ho₁, setBundle_rif]
    split
    next hbb => exact hbb ▸ (rif_of_lookup hb).symm
    next => rfl
  -- through another bundle there is no route of the prefix, before and after
  have hother : ∀ b' rif, b' ≠ b → o.rif b' = some rif →
      o.hw.routes o.vrid pfx ≠ some (.local rif) ∧ route ≠ some (.local rif) := by
    intro b' rif hne hb'
    refine ⟨fun hr => hne ((h.owned b' rif pfx hb' hr).symm.trans hown), fun hr => hne ?_⟩
    exact h.distinct b' b rif hb' ((rif_of_lookup hb).trans (hroute rif hr))
  refine ⟨fun b' rif hb' => ?_, fun b₁ b₂ rif h₁ h₂ => ?_, fun b' rif pfx' hb' hr => ?_⟩
  · rw [hrif] at hb'
    rw [hvrid, hhw, ← ho₁, setBundle_recorded]
    by_cases hbb : b' = b
    · subst hbb
      rw [if_pos rfl]
      exact hexact rif ((rif_of_lookup hb).symm.trans hb')
    · rw [if_neg hbb]
      obtain ⟨hnone, hcount⟩ := h.exact b' rif hb'
      refine ⟨hnone, fun pfx' => ?_⟩
      rw [hroutes]
      refine (hcount pfx').trans ?_
      obtain ⟨hbefore, hafter⟩ := hother b' rif hbb hb'
      by_cases hp : pfx' = pfx
      · subst hp
        rw [if_pos rfl, if_neg hbefore, if_neg hafter]
      · rw [if_neg hp]
  · exact h.distinct b₁ b₂ rif (hrif b₁ ▸ h₁) (hrif b₂ ▸ h₂)
  · rw [hrif] at hb'
    rw [hvrid, hhw, hroutes] at hr
    split at hr
    next hp =>
      subst hp
      exact hown.trans (h.distinct b b' rif ((rif_of_lookup hb).trans (hroute rif hr)) hb')
    next => exact h.owned b' rif pfx' hb' hr

theorem LocalsState.setHw {hw : Hw} (h : LocalsState own o) (hroutes : hw.routes = o.hw.routes) :
    LocalsState own { o with hw := hw } := by
  refine ⟨fun b rif hb => ?_, h.distinct, fun b rif pfx hb hr => ?_⟩
  · obtain ⟨hnone, hcount⟩ := h.exact b rif hb
    exact ⟨hnone, fun pfx => (hcount pfx).trans (by rw [hroutes])⟩
  · exact h.owned b rif pfx hb (hroutes ▸ hr)

/-- A local route that the hardware has taken and that had no record. -/
theorem LocalsState.record (h : LocalsState own o) (hb : o.bundles.lookup b = some bundle)
    (hc : bundle.routerIntf.created = true)
    (hpfx : opsSaiCommonIpPrefixToSxIpPrefix str = some pfx) (hown : own pfx = b)
    (hnew : some pfx ∉ o.recorded b) :
    LocalsState own (OfprotoSai.setBundle b { bundle with localRoutes := str :: bundle.localRoutes }
      { o with
        hw := o.hw.tick.setRoute o.vrid pfx (some (.local bundle.routerIntf.rifid)) }) := by
  have hrif : bundle.rif = some bundle.routerIntf.rifid := if_pos hc
  have hroutes : ∀ pfx', (o.hw.tick.setRoute o.vrid pfx
      (some (.local bundle.routerIntf.rifid))).routes o.vrid pfx' =
      if pfx' = pfx then some (.local bundle.routerIntf.rifid) else o.hw.routes o.vrid pfx' := by
    intro pfx'
    rw [Hw.setRoute_routes]
    simp only [true_and]
    rfl
  refine h.change hb hown hroutes (fun rif hr => ?_) fun rif hr => ?_
  · cases hr
    exact hrif
  · obtain rfl : bundle.routerIntf.rifid = rif := Option.some.inj (hrif.symm.trans hr)
    obtain ⟨hnone, hcount⟩ := h.exact b _ ((rif_of_lookup hb).trans hrif)
    rw [recorded_of_lookup hb] at hnone hcount hnew
    rw [List.map_cons, hpfx]
    refine ⟨fun hmem => ?_, fun pfx' => ?_⟩
    · rcases List.mem_cons.mp hmem with he | hmem
      · cases he
      · exact hnone hmem
    · rw [hroutes, List.count_cons]
      by_cases hp : pfx' = pfx
      · subst hp
        rw [List.count_eq_zero.mpr hnew]
        simp
      · rw [if_neg hp, hcount pfx']
        simp [Ne.symm hp]

/-- A local route that is deleted with its record. -/
theorem LocalsState.forget (h : LocalsState own o) (hb : o.bundles.lookup b = some bundle)
    (hmem : str ∈ bundle.localRoutes)
    (hpfx : opsSaiCommonIpPrefixToSxIpPrefix str = some pfx) (hown : own pfx = b) :
    LocalsState own (OfprotoSai.setBundle b
      { bundle with localRoutes := bundle.localRoutes.erase str }
      { o with hw := o.hw.tick.setRoute o.vrid pfx none }) := by
  have hroutes : ∀ pfx', (o.hw.tick.setRoute o.vrid pfx none).routes o.vrid pfx' =
      if pfx' = pfx then none else o.hw.routes o.vrid pfx' := by
    intro pfx'
    rw [Hw.setRoute_routes]
    simp only [true_and]
    rfl
  refine h.change hb hown hroutes (fun rif hr => by cases hr) fun rif hr => ?_
  obtain ⟨hnone, hcount⟩ := h.exact b _ ((rif_of_lookup hb).trans hr)
  rw [recorded_of_lookup hb] at hnone hcount
  refine ⟨fun hn => hnone (List.map_subset _ List.erase_subset hn), fun pfx' => ?_⟩
  have hperm := ((List.perm_cons_erase hmem).map opsSaiCommonIpPrefixToSxIpPrefix).count_eq
    (some pfx')
  rw [hcount pfx', List.map_cons, hpfx, List.count_cons] at hperm
  rw [hroutes]
  by_cases hp : pfx' = pfx
  · subst hp
    rw [beq_self_eq_true, if_pos rfl] at hperm
    rw [if_pos rfl, if_neg (by simp)]
    split at hperm <;> omega
  · rw [if_neg hp]
    simpa [Ne.symm hp] using hperm.symm

/-! ## Giving up the interface -/

variable [Build]

omit [OvsLib] [Build] in
/-- The ofproto with hardware on which every call to come succeeds. -/
def OfprotoSai.willing (o : OfprotoSai) : OfprotoSai :=
  { o with hw := { o.hw with outcomes := [] } }

theorem opsSaiRouteRemove_willing {hw : Hw} {vrid : Nat} (hwill : hw.Willing)
    (hpfx : opsSaiCommonIpPrefixToSxIpPrefix str = some pfx)
    (hroute : (hw.routes vrid pfx).isSome) :
    ∃ hw', opsSaiRouteRemove vrid str hw = .ok (0, hw') ∧ hw'.Willing ∧
      ∀ pfx', pfx' ≠ pfx → hw'.routes vrid pfx' = hw.routes vrid pfx' := by
  have hnext : hw.nextOutcome = .success := Hw.accepts_zero.mp (hwill.accepts 0)
  have hcall : ∀ effect, Hw.callIf (fun hw => (hw.routes vrid pfx).isSome) effect hw =
      .ok (.success, effect hw.tick) := by
    intro effect
    unfold Hw.callIf
    rw [if_pos hnext, if_pos hroute]
  have hend : ∃ hw', opsSaiRouteRemove vrid str hw = .ok (0, hw') := by
    unfold opsSaiRouteRemove routeRemoteAction
    simp only [hpfx, List.take_nil, List.mapM_nil, List.length_nil, Nat.not_lt_zero, if_false,
      Option.pure_def, sxUcRouteSet]
    exact ⟨_, bind_of_ok (hcall _)⟩
  obtain ⟨hw', h⟩ := hend
  refine ⟨hw', h, hwill.of_suffix (routeRemove_noLocalAdded _ _ _ h).same.2, fun pfx' hne => ?_⟩
  obtain ⟨pfx₁, hpfx₁, rfl⟩ := opsSaiRouteRemove_ok h
  obtain rfl : pfx = pfx₁ := Option.some.inj (hpfx.symm.trans hpfx₁)
  rw [Hw.setRoute_routes, if_neg fun h => hne h.2]
  rfl

/-- Routes of different prefixes that the hardware has can be removed one after the other. -/
theorem forgetRoutes_willing (vrid : Nat) {l : List String} (hwill : o.hw.Willing)
    (hb : (o.bundles.lookup b).isSome) (hnodup : (l.map opsSaiCommonIpPrefixToSxIpPrefix).Nodup)
    (hroutes : ∀ str ∈ l, ∃ pfx, opsSaiCommonIpPrefixToSxIpPrefix str = some pfx ∧
      (o.hw.routes vrid pfx).isSome) :
    ∃ o', forEach l (fun addr => (onHw (opsSaiRouteRemove vrid addr)).thenOk do
      modifyBundle b fun bundle => { bundle with localRoutes := bundle.localRoutes.erase addr }
      return 0) o = .ok (0, o') := by
  induction l generalizing o with
  | nil => exact ⟨o, rfl⟩
  | cons str l ih =>
    obtain ⟨hnew, hnodup⟩ := List.nodup_cons.mp hnodup
    obtain ⟨pfx, hpfx, hroute⟩ := hroutes str (List.mem_cons_self ..)
    obtain ⟨hw, hremove, hwill', hsame⟩ := opsSaiRouteRemove_willing hwill hpfx hroute
    obtain ⟨bundle, hb⟩ := Option.isSome_iff_exists.mp hb
    generalize ho₁ : OfprotoSai.setBundle b
      { bundle with localRoutes := bundle.localRoutes.erase str } { o with hw := hw } = o₁
    have hhw : o₁.hw = hw := by subst ho₁; rfl
    have hturn : ((onHw (opsSaiRouteRemove vrid str)).thenOk do
        modifyBundle b fun bundle => { bundle with localRoutes := bundle.localRoutes.erase str }
        return 0) o = .ok (0, o₁) := by
      refine thenOk_zero.mpr ⟨_, onHw_ok.mpr ⟨hw, hremove, rfl⟩, ?_⟩
      exact modifyBundle_bind.mpr ⟨bundle, hb, by rw [ho₁]; rfl⟩
    have hrest : ∃ o', forEach l (fun addr => (onHw (opsSaiRouteRemove vrid addr)).thenOk do
        modifyBundle b fun bundle => { bundle with localRoutes := bundle.localRoutes.erase addr }
        return 0) o₁ = .ok (0, o') := by
      refine ih (hhw ▸ hwill') ?_ hnodup fun str' hs => ?_
      · rw [← ho₁, setBundle_lookup, if_pos rfl]
        rfl
      · obtain ⟨pfx', hpfx', hroute'⟩ := hroutes str' (List.mem_cons_of_mem _ hs)
        refine ⟨pfx', hpfx', ?_⟩
        rw [hhw, hsame pfx' ?_]
        · exact hroute'
        · rintro rfl
          exact hnew (List.mem_map.mpr ⟨str', hs, hpfx'.trans hpfx.symm⟩)
    obtain ⟨o', hrest⟩ := hrest
    exact ⟨o', thenOk_zero.mpr ⟨o₁, hturn, hrest⟩⟩

/-- As long as records and routes agree, `__ofbundle_router_intf_remove` asks for no route to be
removed that the hardware does not have: with hardware that lets every valid call succeed, every
route is removed. -/
theorem LocalsExact.localRoutesRemove (h : LocalsExact o) {rif : Nat} (hrif : o.rif b = some rif) :
    ∃ o', localRoutesRemove b o.willing = .ok (0, o') := by
  obtain ⟨bundle, hb, -⟩ := Option.bind_eq_some_iff.mp hrif
  obtain ⟨hnone, hcount⟩ := h b rif hrif
  rw [recorded_of_lookup hb] at hnone hcount
  unfold SwitchdSai.localRoutesRemove
  generalize hwalk : walkTable bundle.localRoutes o.willing = r
  cases r with
  | error e => cases hwalk
  | ok r =>
    obtain ⟨addrs, o₁⟩ := r
    obtain ⟨hperm, cs, rfl⟩ := walkTable_ok hwalk
    have hmap := hperm.map opsSaiCommonIpPrefixToSxIpPrefix
    have hend := forgetRoutes_willing o.vrid (b := b) (l := addrs)
      (o := { o.willing with hw := { o.willing.hw with choices := cs } }) rfl
      (Option.isSome_of_eq_some hb) ?_ ?_
    · obtain ⟨o', hend⟩ := hend
      refine ⟨o', ofbundle_bind.mpr ⟨bundle, hb, ?_⟩⟩
      rw [gets_bind]
      exact bind_ok.mpr ⟨_, _, hwalk, hend⟩
    · rw [hmap.nodup_iff, List.nodup_iff_count_le_one]
      rintro (_ | pfx)
      · rw [List.count_eq_zero.mpr hnone]
        omega
      · rw [hcount pfx]
        split <;> omega
    · intro str hs
      have hmem := List.mem_map_of_mem (f := opsSaiCommonIpPrefixToSxIpPrefix)
        (hperm.mem_iff.mp hs)
      cases hpfx : opsSaiCommonIpPrefixToSxIpPrefix str with
      | none => exact absurd (hpfx ▸ hmem) hnone
      | some pfx =>
        have hpos := List.count_pos_iff.mpr (hpfx ▸ hmem)
        rw [hcount pfx] at hpos
        split at hpos
        next hroute => exact ⟨pfx, rfl, Option.isSome_of_eq_some hroute⟩
        next => omega

/-! ## The calls -/

/-- A call of `__l3_route_action` whose next hops are all ports. -/
structure LocalRouteCall where
  action : OfprotoRouteAction
  pfx : String
  egressIntf : List String

def LocalRouteCall.run (c : LocalRouteCall) : Exec OfprotoSai Int :=
  l3RouteAction c.action ⟨c.pfx, c.egressIntf.map .port⟩

omit [OvsLib] [Build] in
/-- The call is on the bundle `b`. -/
def LocalRouteCall.On (c : LocalRouteCall) (o : OfprotoSai) (b : BundlePtr) : Prop :=
  ∃ name o₁, c.egressIntf = [name] ∧ ofbundleLookupByNetdevName name o = .ok (some b, o₁)

omit [Build] in
/-- The prefix of the call belongs to the bundle it is on. -/
def LocalRouteCall.Owned (own : SxIpPrefix → BundlePtr) (o : OfprotoSai) (c : LocalRouteCall) :
    Prop :=
  ∀ b pfx, c.On o b → opsSaiCommonIpPrefixToSxIpPrefix c.pfx = some pfx → own pfx = b

omit [Build] in
/-- An add is taken by the hardware, and its prefix has no record yet. -/
def LocalRouteCall.Safe (o : OfprotoSai) (c : LocalRouteCall) : Prop :=
  ∀ b bundle, c.action = .add → c.On o b → o.bundles.lookup b = some bundle →
    bundle.routerIntf.isLoopback = false →
    ∃ pfx, opsSaiCommonIpPrefixToSxIpPrefix c.pfx = some pfx ∧ o.hw.Accepts 0 ∧
      some pfx ∉ o.recorded b

variable {c : LocalRouteCall}

omit [OvsLib] [Build] in
theorem ofbundleLookupByNetdevName_ok {name : String} {found : Option BundlePtr}
    (h : ofbundleLookupByNetdevName name o = .ok (found, o')) :
    ∃ cs, o' = { o with hw := { o.hw with choices := cs } } := by
  obtain ⟨l, o₁, h₁, hend⟩ := bind_ok.mp h
  obtain ⟨seed, o₂, h₂, h₁⟩ := bind_ok.mp h₁
  obtain ⟨hw, hchoose, rfl⟩ := onHw_ok.mp h₂
  cases hchoose
  cases h₁
  cases hend
  exact ⟨_, rfl⟩

/-- A call with several egress interfaces stops. -/
theorem LocalRouteCall.run_several {name name' : String} {names : List String}
    (hc : c.egressIntf = name :: name' :: names) :
    c.run o = .error (.assertion "lnh_count == 1") := by
  simp [LocalRouteCall.run, l3RouteAction, hc, OfprotoRoute.split]

/-- What a call on a bundle does. -/
theorem LocalRouteCall.run_on (hon : c.On o b) (hb : o.bundles.lookup b = some bundle) :
    ∃ cs, c.run o = (if bundle.routerIntf.isLoopback then pure 0 else
      match c.action with
      | .add => l3LocalRouteAdd b c.pfx
      | .delete | .deleteNh => l3LocalRouteDelete b c.pfx
      | .unknown => pure (-1)) { o with hw := { o.hw with choices := cs } } := by
  obtain ⟨action, str, egressIntf⟩ := c
  obtain ⟨name, o₁, rfl, hlookup⟩ := hon
  obtain ⟨cs, rfl⟩ := ofbundleLookupByNetdevName_ok hlookup
  refine ⟨cs, ?_⟩
  have hrun : LocalRouteCall.run ⟨action, str, [name]⟩ = l3LocalRouteAction action str name := rfl
  rw [hrun]
  unfold l3LocalRouteAction
  rw [bind_of_ok hlookup]
  have hread : ∀ (k : OfbundleSai → Exec OfprotoSai Int),
      (ofbundle b >>= k) { o with hw := { o.hw with choices := cs } } =
        k bundle { o with hw := { o.hw with choices := cs } } := by
    intro k
    refine bind_of_ok ?_
    rw [ofbundle, gets_bind]
    exact need_ok.mpr ⟨bundle, hb, rfl⟩
  exact hread _

/-- A call that is on no bundle changes nothing. -/
theorem LocalRouteCall.run_off (hoff : ∀ b bundle, c.On o b → o.bundles.lookup b ≠ some bundle)
    (h : c.run o = .ok (st, o')) :
    ∃ cs, o' = { o with hw := { o.hw with choices := cs } } := by
  obtain ⟨action, str, egressIntf⟩ := c
  match egressIntf, hoff, h with
  | [], _, h =>
    cases h
    exact ⟨_, rfl⟩
  | [name], hoff, h =>
    have h : l3LocalRouteAction action str name o = .ok (st, o') := h
    obtain ⟨found, o₁, hlookup, h⟩ := bind_ok.mp h
    obtain ⟨cs, rfl⟩ := ofbundleLookupByNetdevName_ok hlookup
    cases found with
    | none =>
      refine ⟨cs, ?_⟩
      cases action <;> cases h <;> rfl
    | some b =>
      obtain ⟨bundle, hb, -⟩ := ofbundle_bind.mp h
      exact absurd hb (hoff b bundle ⟨name, _, rfl, hlookup⟩)
  | _ :: _ :: _, _, h => cases h.symm.trans (run_several rfl)

omit [Build] in
/-- An add is safe if it leaves records and routes in agreement. -/
theorem l3LocalRouteAdd_safe (hexact : LocalsExact o) (h : l3LocalRouteAdd b str o = .ok (st, o'))
    (hexact' : LocalsExact o') : ∃ pfx, opsSaiCommonIpPrefixToSxIpPrefix str = some pfx ∧
      o.hw.Accepts 0 ∧ some pfx ∉ o.recorded b := by
  obtain ⟨bundle, hw, hb, hc, hhw, rfl⟩ := l3LocalRouteAdd_ok h
  have hrif : bundle.rif = some bundle.routerIntf.rifid := if_pos hc
  obtain ⟨-, hcount⟩ := hexact b _ ((rif_of_lookup hb).trans hrif)
  have hrif' : OfprotoSai.rif (OfprotoSai.setBundle b
      { bundle with localRoutes := str :: bundle.localRoutes } { o with hw := hw }) b =
      some bundle.routerIntf.rifid := by
    rw [setBundle_rif, if_pos rfl]
    exact hrif
  obtain ⟨hnone, hcount'⟩ := hexact' b _ hrif'
  have hrec : OfprotoSai.recorded (OfprotoSai.setBundle b
      { bundle with localRoutes := str :: bundle.localRoutes } { o with hw := hw }) b =
      opsSaiCommonIpPrefixToSxIpPrefix str :: o.recorded b := by
    rw [setBundle_recorded, if_pos rfl, recorded_of_lookup hb]
    rfl
  rw [hrec] at hnone hcount'
  cases hpfx : opsSaiCommonIpPrefixToSxIpPrefix str with
  | none => exact absurd (hpfx ▸ List.mem_cons_self ..) hnone
  | some pfx =>
    have hcount' : (o.recorded b).count (some pfx) + 1 =
        if hw.routes o.vrid pfx = some (.local bundle.routerIntf.rifid) then 1 else 0 := by
      have h := hcount' pfx
      rwa [hpfx, List.count_cons_self] at h
    have hzero : (o.recorded b).count (some pfx) = 0 := by
      split at hcount' <;> omega
    refine ⟨pfx, rfl, ?_, List.count_eq_zero.mp hzero⟩
    rcases opsSaiRouteLocalAdd_cases hhw with ⟨-, -, haccept, -⟩ | ⟨-, -, hroutes, -⟩
    · exact haccept
    · -- the hardware has refused: it already had the route, which then had a record
      rw [hroutes, ← hcount pfx, hzero] at hcount'
      omega

omit [Build] in
theorem l3LocalRouteAdd_state (hown : own pfx = b) (hs : LocalsState own o)
    (hpfx : opsSaiCommonIpPrefixToSxIpPrefix str = some pfx) (haccept : o.hw.Accepts 0)
    (hnew : some pfx ∉ o.recorded b) (h : l3LocalRouteAdd b str o = .ok (st, o')) :
    LocalsState own o' := by
  obtain ⟨bundle, hw, hb, hc, hhw, rfl⟩ := l3LocalRouteAdd_ok h
  rcases opsSaiRouteLocalAdd_cases hhw with ⟨pfx₁, hpfx₁, -, -, rfl⟩ | ⟨-, hna, -⟩
  · obtain rfl : pfx = pfx₁ := Option.some.inj (hpfx.symm.trans hpfx₁)
    exact hs.record hb hc hpfx hown hnew
  · exact absurd haccept (hna pfx hpfx)

theorem l3LocalRouteDelete_state
    (hown : ∀ pfx, opsSaiCommonIpPrefixToSxIpPrefix str = some pfx → own pfx = b)
    (hs : LocalsState own o) (h : l3LocalRouteDelete b str o = .ok (st, o')) :
    LocalsState own o' := by
  obtain ⟨bundle, hb, h⟩ := ofbundle_bind.mp h
  rw [gets_bind] at h
  split at h
  next hmem =>
    rcases thenOk_ok.mp h with ⟨hfail, h0⟩ | ⟨o₁, hremove, hend⟩
    · obtain ⟨hw, hhw, rfl⟩ := onHw_ok.mp hfail
      exact hs.setHw (opsSaiRouteRemove_failed hhw h0)
    · obtain ⟨hw, hhw, rfl⟩ := onHw_ok.mp hremove
      obtain ⟨pfx, hpfx, rfl⟩ := opsSaiRouteRemove_ok hhw
      obtain ⟨bundle₁, hb₁, hend⟩ := modifyBundle_bind.mp hend
      cases hend
      obtain rfl : bundle = bundle₁ := Option.some.inj (hb.symm.trans hb₁)
      exact hs.forget hb (by simpa using hmem) hpfx (hown pfx hpfx)
  next =>
    cases h
    exact hs

theorem LocalRouteCall.run_state (hown : c.Owned own o) (hsafe : c.Safe o)
    (h : c.run o = .ok (st, o')) (hs : LocalsState own o) : LocalsState own o' := by
  by_cases hon : ∃ b bundle, c.On o b ∧ o.bundles.lookup b = some bundle
  · obtain ⟨b, bundle, hon, hb⟩ := hon
    obtain ⟨cs, hrun⟩ := run_on hon hb
    have hs₁ : LocalsState own { o with hw := { o.hw with choices := cs } } := hs.setHw rfl
    have h := hrun.symm.trans h
    split at h
    next =>
      cases h
      exact hs₁
    next hloop =>
      cases haction : c.action with
      | add =>
        rw [haction] at h
        obtain ⟨pfx, hpfx, haccept, hnew⟩ := hsafe b bundle haction hon hb (by simpa using hloop)
        exact l3LocalRouteAdd_state (hown b pfx hon hpfx) hs₁ hpfx haccept hnew h
      | delete | deleteNh =>
        rw [haction] at h
        exact l3LocalRouteDelete_state (fun pfx => hown b pfx hon) hs₁ h
      | unknown =>
        rw [haction] at h
        cases h
        exact hs₁
  · obtain ⟨cs, rfl⟩ := run_off (fun b bundle hon' hb => hon ⟨b, bundle, hon', hb⟩) h
    exact hs.setHw rfl

/-- An add on a bundle is safe if it leaves records and routes in agreement. -/
theorem LocalRouteCall.safe_of_exact (hexact : LocalsExact o) (h : c.run o = .ok (st, o'))
    (hexact' : LocalsExact o') : c.Safe o := by
  intro b bundle hadd hon hb hloop
  obtain ⟨cs, hrun⟩ := run_on hon hb
  rw [hloop, hadd] at hrun
  exact l3LocalRouteAdd_safe (o := { o with hw := { o.hw with choices := cs } }) hexact
    (hrun.symm.trans h) hexact'

/-! ## Runs -/

/-- **The recorded local routes of a bundle are exactly its hardware local routes** in every state
of a run, so that no route is asked to be removed that the hardware does not have, if and only if
every add of the run is safe. -/
theorem localRoutes_exact_iff {o₀ : OfprotoSai} {es : List (Event OfprotoSai LocalRouteCall Int)}
    (hstart : LocalsState own o₀) (H : Trace LocalRouteCall.run o₀ es o)
    (hown : ∀ e ∈ es, e.call.Owned own e.before) :
    (∀ e ∈ es, LocalsExact e.after ∧ ∀ b rif, e.after.rif b = some rif →
      ∃ o', localRoutesRemove b e.after.willing = .ok (0, o')) ↔
    ∀ e ∈ es, e.call.Safe e.before := by
  refine Trace.forall_iff (I := fun _ o => LocalsState own o)
    (L := fun es : List (Event OfprotoSai LocalRouteCall Int) => ∀ e ∈ es,
      e.call.Owned own e.before)
    (fun _ _ h => (List.forall_mem_cons.mp h).2)
    (fun es e hs hown h => ⟨fun hsafe => ?_, fun hQ => ?_⟩) hstart H hown
  · have hs' := LocalRouteCall.run_state (List.forall_mem_cons.mp hown).1 hsafe h hs
    exact ⟨⟨hs'.exact, fun b rif hrif => hs'.exact.localRoutesRemove hrif⟩, hs'⟩
  · exact LocalRouteCall.safe_of_exact hs.exact h hQ.1

end

section
attribute [local instance] sampleOvs sampleBuild

/-- The bundle 1 alone, with an interface and without routes. -/
theorem rifOfproto_localsState : LocalsState (fun _ => 1) rifOfproto := by
  have hb : ∀ b rif, rifOfproto.rif b = some rif → b = 1 := by
    intro b rif h
    by_contra hne
    rw [rifOfproto, setBundle_rif, if_neg hne] at h
    cases h
  refine ⟨fun b rif h => ?_, fun b b' rif h h' => (hb b rif h).trans (hb b' rif h').symm,
    fun b rif pfx h hr => by cases hr⟩
  obtain rfl := hb b rif h
  exact ⟨List.not_mem_nil, fun pfx => rfl⟩

/-- A call on the interface of port 1. -/
def sampleLocal (action : OfprotoRouteAction) : LocalRouteCall := ⟨action, "10.1.0.0/16", ["1"]⟩

theorem sampleLocal_owned {action : OfprotoRouteAction} {o : OfprotoSai}
    (hb : ∀ b, (sampleLocal action).On o b → b = 1) :
    (sampleLocal action).Owned (fun _ => 1) o := fun b _ hon _ => (hb b hon).symm

/-- A prefix is added and deleted. -/
theorem localRoutes_exact_iff_add : ∃ o : OfprotoSai,
    LocalRouteCall.run (sampleLocal .add) rifOfproto = .ok (0, o) ∧
      o.hw.routes 0 samplePrefix = some (.local 0) ∧ LocalsExact o := by
  obtain ⟨o, hrun⟩ := result_eq_some.mp (show result (do
    let st ← LocalRouteCall.run (sampleLocal .add)
    let r ← gets fun o => o.hw.routes 0 samplePrefix
    pure (st, r)) rifOfproto = some (0, some (.local 0)) by decide)
  obtain ⟨st, o₁, hadd, hend⟩ := bind_ok.mp hrun
  rw [gets_bind, pure_apply] at hend
  simp only [Except.ok.injEq, Prod.mk.injEq] at hend
  obtain ⟨⟨rfl, hr⟩, -⟩ := hend
  have hon : ∀ b, (sampleLocal .add).On rifOfproto b → b = 1 := by
    rintro b ⟨name, o₂, hname, hlookup⟩
    cases hname
    cases hlookup
    rfl
  have H : Trace LocalRouteCall.run rifOfproto [⟨rifOfproto, sampleLocal .add, 0, o₁⟩] o₁ :=
    .snoc .nil hadd
  have hiff := localRoutes_exact_iff rifOfproto_localsState H fun e he => by
    obtain rfl := List.mem_singleton.mp he
    exact sampleLocal_owned hon
  have hsafe : LocalRouteCall.Safe rifOfproto (sampleLocal .add) := by
    intro b bundle _ hb _ _
    obtain rfl := hon b hb
    exact ⟨samplePrefix, by decide, rfl, List.not_mem_nil⟩
  have hexact := hiff.mpr fun e he => by
    obtain rfl := List.mem_singleton.mp he
    exact hsafe
  exact ⟨o₁, hadd, hr, (hexact _ (List.mem_singleton_self _)).1⟩

/-- A prefix is added twice and recorded twice. The interface cannot be given up: the second record
asks for a route to be removed that is gone. -/
theorem localRoutes_added_twice :
    ∃ (o o' : OfprotoSai) (es : List (Event OfprotoSai LocalRouteCall Int)),
      LocalsState (fun _ => 1) rifOfproto ∧ Trace LocalRouteCall.run rifOfproto es o ∧
      (∀ e ∈ es, e.call = sampleLocal .add ∧ e.result = 0 ∧
        e.call.Owned (fun _ => 1) e.before) ∧
      o.rif 1 = some 0 ∧ o.hw.routes 0 samplePrefix = some (.local 0) ∧
      (o.recorded 1).count (some samplePrefix) = 2 ∧
      localRoutesRemove 1 o.willing = .ok (-1, o') := by
  obtain ⟨o, hrun⟩ := result_eq_some.mp (show result (do
    let st₁ ← LocalRouteCall.run (sampleLocal .add)
    let st₂ ← LocalRouteCall.run (sampleLocal .add)
    let r ← gets fun o => decide (o.rif 1 = some 0 ∧
      o.hw.routes 0 samplePrefix = some (.local 0) ∧
      (o.recorded 1).count (some samplePrefix) = 2)
    modify OfprotoSai.willing
    let st ← localRoutesRemove 1
    pure (st₁, st₂, r, st)) rifOfproto = some (0, 0, true, -1) by decide)
  obtain ⟨st₁, o₁, h₁, hrun⟩ := bind_ok.mp hrun
  obtain ⟨st₂, o₂, h₂, hrun⟩ := bind_ok.mp hrun
  rw [gets_bind, modify_bind] at hrun
  obtain ⟨st, o₃, h₃, hend⟩ := bind_ok.mp hrun
  simp only [pure_apply, Except.ok.injEq, Prod.mk.injEq] at hend
  obtain ⟨⟨rfl, rfl, hr, rfl⟩, -⟩ := hend
  obtain ⟨hrif, hroute, hcount⟩ := of_decide_eq_true hr
  -- the second add is on the bundle 1 as well
  obtain ⟨o₄, hrun⟩ := result_eq_some.mp (show result (do
    let _ ← LocalRouteCall.run (sampleLocal .add)
    ofbundleLookupByNetdevName "1") rifOfproto = some (some 1) by decide)
  obtain ⟨st₁, o₅, h₅, hlookup⟩ := bind_ok.mp hrun
  cases h₁.symm.trans h₅
  have hon : ∀ b, (sampleLocal .add).On o₁ b → b = 1 := by
    rintro b ⟨name, o₂, hname, hlookup'⟩
    cases hname
    cases hlookup.symm.trans hlookup'
    rfl
  have hon₀ : ∀ b, (sampleLocal .add).On rifOfproto b → b = 1 := by
    rintro b ⟨name, o₂, hname, hlookup⟩
    cases hname
    cases hlookup
    rfl
  refine ⟨o₂, o₃, _, rifOfproto_localsState, .snoc (.snoc .nil h₁) h₂, ?_, hrif, hroute, hcount, h₃⟩
  rintro e (_ | ⟨_, _ | ⟨_, he⟩⟩)
  · exact ⟨rfl, rfl, sampleLocal_owned hon⟩
  · exact ⟨rfl, rfl, sampleLocal_owned hon₀⟩
  · cases he

end

end SwitchdSai
