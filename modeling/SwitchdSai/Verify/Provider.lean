import SwitchdSai.Model.Provider
import SwitchdSai.Verify.Isolation

/-!
# VRFs do not interfere

In a run of the provider ofprotos are created and destroyed, and calls are made on their bundles,
routes and host entries in any order, with any pattern of failing calls into the hardware. Every
router interface and every virtual router belongs to at most one ofproto (`ProviderInv`), so that a
call on one VRF changes nothing that another one forwards with.
-/

namespace SwitchdSai

open Exec Provider

variable {s s' : Provider} {p q : OfprotoPtr} {record : OfprotoRecord} {st : Int}

/-! ## Inversion -/

theorem provider_onHw_ok {α : Type} {m : Exec Hw α} {a : α} :
    Provider.onHw m s = .ok (a, s') ↔ ∃ hw, m s.hw = .ok (a, hw) ∧ s' = { s with hw := hw } :=
  zoom_ok

theorem ofproto_bind {β : Type} {k : OfprotoRecord → Exec Provider β} {r : β × Provider} :
    (ofproto p >>= k) s = .ok r ↔ ∃ record, s.ofprotos.lookup p = some record ∧
      k record s = .ok r := by
  rw [ofproto, bind_ok]
  simp only [gets_bind, need_ok]
  constructor
  · rintro ⟨record, s₁, ⟨_, h, heq⟩, hk⟩
    cases heq
    exact ⟨record, h, hk⟩
  · rintro ⟨record, h, hk⟩
    exact ⟨record, s, ⟨record, h, rfl⟩, hk⟩

theorem onOfproto_ok {α : Type} {m : Exec OfprotoSai α} {a : α}
    (h : onOfproto p m s = .ok (a, s')) : ∃ record o', s.ofprotos.lookup p = some record ∧
      m (record.on s.hw) = .ok (a, o') ∧
      s' = { s.setOfproto p (record.after o') with hw := o'.hw } := by
  obtain ⟨record, hp, h⟩ := ofproto_bind.1 h
  obtain ⟨o', ho, rfl⟩ := zoom_ok.mp h
  exact ⟨record, o', hp, ho, rfl⟩

theorem setOfproto_lookup (record : OfprotoRecord) (s : Provider) :
    (s.setOfproto p record).ofprotos.lookup q =
      if q = p then some record else s.ofprotos.lookup q := by
  split
  next h => subst h; exact AList.lookup_insert _
  next h => exact AList.lookup_insert_ne h

/-- The tables of the hardware are as they were. -/
def Hw.Idle (hw hw' : Hw) : Prop := hw'.l3 = hw.l3 ∧ hw'.ports = hw.ports

instance : IsPreorder Hw Hw.Idle where
  refl _ := ⟨rfl, rfl⟩
  trans _ _ _ h h' := ⟨h'.1.trans h.1, h'.2.trans h.2⟩

theorem choose_idle : Rel Hw.Idle Hw.choose := fun _ _ _ h => by
  cases h
  exact ⟨rfl, rfl⟩

theorem sxCall_idle : Rel Hw.Idle sxCall :=
  Hw.callIf_rel (fun _ => ⟨rfl, rfl⟩) fun _ => ⟨rfl, rfl⟩

/-- Creating a virtual router. -/
theorem opsSaiRouterCreate_ok {handle vrid : Nat}
    (h : opsSaiRouterCreate handle s = .ok ((st, vrid), s')) :
    ∃ hw, s.hw.Idle hw ∧
      ((st ≠ 0 ∧ s' = { s with hw := hw }) ∨
        st = 0 ∧ vrid ∉ s.routers ∧ s' = { s with routers := vrid :: s.routers, hw := hw }) := by
  obtain ⟨⟨status, v⟩, s₁, hadd, h⟩ := bind_ok.mp h
  obtain ⟨n, s₂, hchoose, hadd⟩ := bind_ok.mp hadd
  obtain ⟨hw₂, hhw₂, rfl⟩ := provider_onHw_ok.1 hchoose
  rw [gets_bind] at hadd
  obtain ⟨status', s₃, hcall, hadd⟩ := bind_ok.mp hadd
  obtain ⟨hw₃, hhw₃, rfl⟩ := provider_onHw_ok.1 hcall
  have hidle : s.hw.Idle hw₃ := trans_of _ (choose_idle _ _ _ hhw₂) (sxCall_idle _ _ _ hhw₃)
  have hfresh := fresh_notMem n s.routers
  dsimp only at h
  split at hadd
  next hs =>
    cases hadd
    rw [if_neg (not_not.mpr hs)] at h
    cases h
    exact ⟨hw₃, hidle, .inr ⟨rfl, hfresh, rfl⟩⟩
  next hs =>
    cases hadd
    rw [if_pos hs] at h
    cases h
    exact ⟨hw₃, hidle, .inl ⟨sxError2Errno_ne_zero hs, rfl⟩⟩

/-- Removing a virtual router: it is gone with its routes, or nothing has changed. -/
theorem opsSaiRouterRemove_ok {vrid : Nat} (h : opsSaiRouterRemove vrid s = .ok (st, s')) :
    ∃ hw, s.hw.Idle hw ∧
      ((st ≠ 0 ∧ s' = { s with hw := hw }) ∨
        st = 0 ∧ (∀ rif intf, s.hw.routerIntfs.lookup rif = some intf → intf.vrid ≠ vrid) ∧
        s' = { s with
          routers := s.routers.erase vrid
          hw := { hw with routes := Function.update hw.routes vrid fun _ => none } }) := by
  obtain ⟨status, s₁, hdel, hend⟩ := bind_ok.mp h
  cases hend
  rw [sxRouterDelete, gets_bind] at hdel
  obtain ⟨status', s₂, hcall, hdel⟩ := bind_ok.mp hdel
  obtain ⟨hw, hhw, rfl⟩ := provider_onHw_ok.1 hcall
  rcases Hw.callIf_cases hhw with ⟨rfl, hvalid, rfl⟩ | ⟨hs, rfl⟩
  · rw [if_pos rfl] at hdel
    cases hdel
    rw [Bool.and_eq_true, List.all_eq_true] at hvalid
    refine ⟨s.hw.tick, ⟨rfl, rfl⟩, .inr ⟨rfl, fun rif intf hi => ?_, rfl⟩⟩
    exact of_decide_eq_true (hvalid.2 ⟨rif, intf⟩ (AList.mem_lookup_iff.mp hi))
  · rw [if_neg hs] at hdel
    cases hdel
    exact ⟨s.hw.tick, ⟨rfl, rfl⟩, .inl ⟨sxError2Errno_ne_zero hs, rfl⟩⟩

theorem erase_ofproto_lookup (t : AList fun _ : OfprotoPtr => OfprotoRecord) :
    (t.erase p).lookup q = if q = p then none else t.lookup q := by
  split
  next h => subst h; exact AList.lookup_erase _ _
  next h => exact AList.lookup_erase_ne h

/-- An ofproto is created under a new address, and when its construction fails it is gone. -/
theorem ofprotoCreate_ok {name : String} {type : OfprotoType} {ofports : OfpPort → Option OfportSai}
    (h : ofprotoCreate name type ofports s = .ok (st, s')) :
    ∃ p, s.ofprotos.lookup p = none ∧ s.hw.Idle s'.hw ∧
      ((st ≠ 0 ∧ s'.routers = s.routers ∧ ∀ q, s'.ofprotos.lookup q = s.ofprotos.lookup q) ∨
        st = 0 ∧ ∃ vrid, (type = .vrf → vrid ∉ s.routers) ∧
          s'.routers = (if type = .vrf then vrid :: s.routers else s.routers) ∧
          ∀ q, s'.ofprotos.lookup q =
            if q = p then some ⟨name, type, vrid, ofports, ∅⟩ else s.ofprotos.lookup q) := by
  obtain ⟨p, s₁, halloc, h⟩ := bind_ok.mp h
  obtain ⟨n, s₂, hchoose, halloc⟩ := bind_ok.mp halloc
  obtain ⟨hw₂, hhw₂, rfl⟩ := provider_onHw_ok.1 hchoose
  have hidle₂ := choose_idle _ _ _ hhw₂
  rw [gets_bind, modify_bind] at halloc
  cases halloc
  have hnone := AList.lookup_eq_none.mpr (fresh_notMem n s.ofprotos.keys)
  dsimp only at h
  generalize fresh n s.ofprotos.keys = p at h hnone
  refine ⟨p, hnone, ?_⟩
  obtain ⟨error, s₃, hcons, h⟩ := bind_ok.mp h
  obtain ⟨record, hrecord, hcons⟩ := ofproto_bind.1 hcons
  rw [setOfproto_lookup, if_pos rfl] at hrecord
  cases hrecord
  split at hcons
  next htype =>
    obtain ⟨⟨error', vrid⟩, s₄, hrouter, hcons⟩ := bind_ok.mp hcons
    cases hcons
    obtain ⟨hw, hidle, ⟨h0, rfl⟩ | ⟨rfl, hnew, rfl⟩⟩ := opsSaiRouterCreate_ok hrouter
    · rw [if_pos h0] at h
      cases h
      refine ⟨trans_of _ hidle₂ hidle, .inl ⟨h0, rfl, fun q => ?_⟩⟩
      rw [erase_ofproto_lookup, setOfproto_lookup]
      split
      next hq => rw [hq, hnone]
      next hq =>
        exact (setOfproto_lookup _ _).trans (if_neg hq)
    · rw [if_neg (not_not.mpr rfl)] at h
      cases h
      refine ⟨trans_of _ hidle₂ hidle, .inr ⟨rfl, vrid, fun _ => hnew, (if_pos htype).symm,
        fun q => ?_⟩⟩
      rw [setOfproto_lookup]
      split
      next => rfl
      next hq => exact (setOfproto_lookup _ _).trans (if_neg hq)
  next htype =>
    cases hcons
    rw [if_neg (not_not.mpr rfl)] at h
    cases h
    exact ⟨hidle₂, .inr ⟨rfl, 0, fun h => absurd h htype, (if_neg htype).symm,
      fun q => setOfproto_lookup _ _⟩⟩

theorem ofprotoDestroy_ok (h : ofprotoDestroy p s = .ok ((), s')) :
    ∃ record hw, s.ofprotos.lookup p = some record ∧ s.hw.Idle hw ∧
      (∀ q, s'.ofprotos.lookup q = if q = p then none else s.ofprotos.lookup q) ∧
      ((s'.routers = s.routers ∧ s'.hw = hw) ∨ record.type = .vrf ∧
        (∀ rif intf, s.hw.routerIntfs.lookup rif = some intf → intf.vrid ≠ record.vrid) ∧
        s'.routers = s.routers.erase record.vrid ∧
        s'.hw = { hw with routes := Function.update hw.routes record.vrid fun _ => none }) := by
  obtain ⟨_, s₁, hdes, hend⟩ := bind_ok.mp h
  cases hend
  obtain ⟨record, hp, hdes⟩ := ofproto_bind.1 hdes
  split at hdes
  next htype =>
    obtain ⟨st, s₂, hrouter, hdes⟩ := bind_ok.mp hdes
    cases hdes
    obtain ⟨hw, hidle, ⟨-, rfl⟩ | ⟨-, hunused, rfl⟩⟩ := opsSaiRouterRemove_ok hrouter
    · exact ⟨record, hw, hp, hidle, fun q => erase_ofproto_lookup _, .inl ⟨rfl, rfl⟩⟩
    · exact ⟨record, hw, hp, hidle, fun q => erase_ofproto_lookup _,
        .inr ⟨htype, hunused, rfl, rfl⟩⟩
  next =>
    cases hdes
    exact ⟨record, s.hw, hp, refl_of _ _, fun q => erase_ofproto_lookup _, .inl ⟨rfl, rfl⟩⟩

/-! ## Outcomes that are taken -/

/-- At most some outcomes of the hardware have been taken. -/
def Provider.Takes (s s' : Provider) : Prop := s'.hw.outcomes <:+ s.hw.outcomes

instance : IsPreorder Provider Provider.Takes where
  refl _ := List.suffix_rfl
  trans _ _ _ h h' := h'.trans h

theorem onHw_takes {α : Type} {m : Exec Hw α} (h : Rel (Hw.Same fun _ => ()) m) :
    Rel Provider.Takes (Provider.onHw m) := Rel.zoom fun _ a hw hm => (h _ a hw hm).2

theorem ofproto_takes : Rel Provider.Takes (ofproto p) :=
  (Rel.gets _).bind fun _ => Rel.need _ _

theorem modify_takes {f : Provider → Provider} (h : ∀ s, (f s).hw.outcomes = s.hw.outcomes) :
    Rel Provider.Takes (modify f) := Rel.modify fun s => by
  unfold Provider.Takes
  rw [h]

theorem choose_takes : Rel Provider.Takes (Provider.onHw Hw.choose) :=
  onHw_takes (Hw.choose_same fun _ _ => rfl)

theorem opsSaiRouterCreate_takes {handle : Nat} :
    Rel Provider.Takes (opsSaiRouterCreate handle) := by
  have hadd : Rel Provider.Takes sxRouterAdd := by
    refine Rel.bind choose_takes fun _ => (Rel.gets _).bind fun _ =>
      Rel.bind (onHw_takes ?_) fun _ =>
      Rel.ite (Rel.bind (modify_takes fun _ => rfl) fun _ => Rel.pure _) (Rel.pure _)
    exact Hw.callIf_same (fun _ => rfl) fun _ => ⟨rfl, rfl⟩
  exact hadd.bind fun _ => Rel.ite (Rel.pure _) (Rel.pure _)

theorem opsSaiRouterRemove_takes {handle : Nat} :
    Rel Provider.Takes (opsSaiRouterRemove handle) := by
  refine Rel.bind ?_ fun _ => Rel.pure _
  refine (Rel.gets _).bind fun _ => Rel.bind (onHw_takes ?_) fun _ =>
    Rel.ite (Rel.bind (modify_takes fun _ => rfl) fun _ => Rel.pure _) (Rel.pure _)
  exact Hw.callIf_same (fun _ => rfl) fun _ => ⟨rfl, rfl⟩

theorem ofprotoCreate_takes {name : String} {type : OfprotoType}
    {ofports : OfpPort → Option OfportSai} :
    Rel Provider.Takes (ofprotoCreate name type ofports) := by
  have hdealloc : ∀ p, Rel Provider.Takes (ofprotoDealloc p) := fun _ => modify_takes fun _ => rfl
  refine Rel.bind ?_ fun p => Rel.bind ?_ fun _ =>
    Rel.ite ((hdealloc p).bind fun _ => Rel.pure _) (Rel.pure _)
  · exact Rel.bind choose_takes fun _ => (Rel.gets _).bind fun _ =>
      Rel.bind (modify_takes fun _ => rfl) fun _ => Rel.pure _
  · refine Rel.bind ofproto_takes fun record =>
      Rel.ite (Rel.bind opsSaiRouterCreate_takes ?_) (Rel.pure _)
    rintro ⟨error, vrid⟩
    exact Rel.bind (modify_takes fun _ => rfl) fun _ => Rel.pure _

theorem ofprotoDestroy_takes : Rel Provider.Takes (ofprotoDestroy p) := by
  refine Rel.bind ?_ fun _ => modify_takes fun _ => rfl
  exact Rel.bind ofproto_takes fun _ =>
    Rel.ite (Rel.bind opsSaiRouterRemove_takes fun _ => Rel.pure _) (Rel.pure _)

/-! ## Local routes and virtual routers -/

/-- A local route goes through an interface of the virtual router it belongs to. -/
def Hw.Inside (hw : Hw) : Prop := ∀ v pfx rif, hw.routes v pfx = some (.local rif) →
  ∃ intf, hw.routerIntfs.lookup rif = some intf ∧ intf.vrid = v

section
variable {o o' : OfprotoSai}

/-- The interfaces of an ofproto are interfaces of its virtual router. -/
def OfprotoSai.OwnVrids (o : OfprotoSai) : Prop := ∀ rif intf, o.Owns (.rif rif) →
  o.hw.routerIntfs.lookup rif = some intf → intf.vrid = o.vrid

theorem lookup_of_content {hw hw' : Hw} {rif : Nat}
    (h : hw'.content (.rif rif) = hw.content (.rif rif)) :
    hw'.routerIntfs.lookup rif = hw.routerIntfs.lookup rif := by
  simp only [Hw.content] at h
  cases hi : hw.routerIntfs.lookup rif <;> cases hi' : hw'.routerIntfs.lookup rif <;>
    simp_all

theorem Within.lookup_foreign (h : Within o o') {rif : Nat} (hin : rif ∈ o.hw.routerIntfs)
    (hown : ¬o.Owns (.rif rif)) :
    o'.hw.routerIntfs.lookup rif = o.hw.routerIntfs.lookup rif :=
  lookup_of_content (h.tenant.others _ (content_rif_isSome.mpr hin) hown)

theorem mem_of_lookup {hw : Hw} {rif : Nat} {intf : HwRouterIntf}
    (h : hw.routerIntfs.lookup rif = some intf) : rif ∈ hw.routerIntfs :=
  AList.lookup_isSome.mp (Option.isSome_of_eq_some h)

theorem Within.ownVrids (h : Within o o') (hv : o.OwnVrids) : o'.OwnVrids := by
  intro rif intf hown hi
  rw [h.setup.vrid]
  rcases h.vrids rif intf hi with hvrid | ⟨old, ho, hvrid⟩
  · exact hvrid
  · rw [← hvrid]
    rcases h.tenant.taken _ hown with hown₀ | hnone
    · exact hv rif old hown₀ ho
    · have hsome := content_rif_isSome.mpr (mem_of_lookup ho)
      rw [hnone] at hsome
      cases hsome

section
variable [OvsLib]

/-- A route through an interface that a call has added stays inside the virtual router. -/
theorem Within.inside (h : Within o o') (hok : LocalRoutesOk o) (hok' : LocalRoutesOk o')
    (hv : o.OwnVrids) (hin : o.hw.Inside) : o'.hw.Inside := by
  intro v pfx rif hr
  obtain ⟨intf, hi⟩ := Option.isSome_iff_exists.mp
    (AList.lookup_isSome.mpr (hok'.routes v pfx rif hr))
  refine ⟨intf, hi, ?_⟩
  by_cases hvrid : v = o.vrid
  · subst hvrid
    rcases h.vrids rif intf hi with hvrid | ⟨old, ho, hvrid⟩
    · exact hvrid
    · rw [← hvrid]
      rcases h.locals pfx rif hr with hr₀ | hown | hnot
      · obtain ⟨intf₀, hi₀, hv₀⟩ := hin _ pfx rif hr₀
        cases hi₀.symm.trans ho
        exact hv₀
      · exact hv rif old hown ho
      · exact absurd (mem_of_lookup ho) hnot
  · have hroutes : o'.hw.content (.router v) = o.hw.content (.router v) :=
      h.tenant.others _ rfl hvrid
    have hroutes : o'.hw.routes v = o.hw.routes v := by
      simpa only [Hw.content, Option.some.injEq, ResourceContent.router.injEq] using hroutes
    rw [hroutes] at hr
    obtain ⟨intf₀, hi₀, hv₀⟩ := hin v pfx rif hr
    have hown : ¬o.Owns (.rif rif) := by
      rintro ⟨b, hb⟩
      exact hvrid (hok.recorded b rif v pfx hb hr).1
    rw [h.lookup_foreign (mem_of_lookup hi₀) hown, hi₀] at hi
    cases hi
    exact hv₀

/-- A call on another ofproto keeps what is known of the local routes of this one. -/
theorem LocalRoutesOk.foreign {q : OfprotoSai} (hq : LocalRoutesOk q) (hhw : q.hw = o.hw)
    (h : Within o o') (hok' : LocalRoutesOk o')
    (hdistinct : ∀ rif, q.Owns (.rif rif) → ¬o.Owns (.rif rif)) :
    LocalRoutesOk { q with hw := o'.hw } where
  routes := hok'.routes
  exists_rif b rif hb := by
    have hin : rif ∈ o.hw.routerIntfs := hhw ▸ hq.exists_rif b rif hb
    exact (h.foreign hin (hdistinct rif ⟨b, hb⟩)).1
  distinct := hq.distinct
  recorded b rif v pfx hb hr := by
    have hown := hdistinct rif ⟨b, hb⟩
    have hin : rif ∈ o.hw.routerIntfs := hhw ▸ hq.exists_rif b rif hb
    refine hq.recorded b rif v pfx hb (hhw ▸ ?_)
    by_cases hvrid : v = o.vrid
    · subst hvrid
      rcases h.locals pfx rif hr with hr₀ | hown' | hnot
      · exact hr₀
      · exact absurd hown' hown
      · exact absurd hin hnot
    · have hroutes : o'.hw.content (.router v) = o.hw.content (.router v) :=
        h.tenant.others _ rfl hvrid
      simp only [Hw.content, Option.some.injEq, ResourceContent.router.injEq] at hroutes
      exact hroutes ▸ hr

end

end

/-! ## What belongs to whom -/

/-- The router interfaces of the bundles, and the virtual router of a VRF. -/
def OfprotoRecord.Owns (record : OfprotoRecord) : Resource → Prop
  | .rif rifid => (record.on .reset).Owns (.rif rifid)
  | .router vrid => record.type = .vrf ∧ vrid = record.vrid

def Provider.owns (s : Provider) (p : OfprotoPtr) (r : Resource) : Prop :=
  ∃ record, s.ofprotos.lookup p = some record ∧ record.Owns r

def Provider.content (s : Provider) : Resource → Option ResourceContent
  | .rif rifid => s.hw.content (.rif rifid)
  | .router vrid => if vrid ∈ s.routers then s.hw.content (.router vrid) else none

theorem provider_content_rif {rif : Nat} : s.content (.rif rif) = s.hw.content (.rif rif) := rfl

theorem provider_content_router {v : Nat} :
    s.content (.router v) = if v ∈ s.routers then s.hw.content (.router v) else none := rfl

section
variable [OvsLib]

/-- What is known of one ofproto. -/
structure OfprotoRecord.Ok (hw : Hw) (record : OfprotoRecord) : Prop where
  locals : LocalRoutesOk (record.on hw)
  vrids : (record.on hw).OwnVrids
  bridging : record.type = .system → (record.on hw).Bridging

structure ProviderInv (s : Provider) : Prop where
  tenants : Tenants s.owns s.content
  ofprotos : ∀ p record, s.ofprotos.lookup p = some record → record.Ok s.hw
  inside : s.hw.Inside

omit [OvsLib] in
/-- A virtual router is alive while an ofproto has it. -/
theorem router_mem (h : Tenants s.owns s.content) {v : Nat}
    (hown : s.owns p (.router v)) : v ∈ s.routers := by
  by_contra hv
  have hsome := h.exist p _ hown
  rw [Provider.content, if_neg hv] at hsome
  cases hsome

omit [OvsLib] in
theorem content_idle {hw hw' : Hw} (h : hw.Idle hw') : hw'.content = hw.content := by
  obtain ⟨hl3, -⟩ := h
  simp only [Hw.l3, Hw.L3.mk.injEq] at hl3
  obtain ⟨-, hintfs, -, hroutes, hneighbors, hentries⟩ := hl3
  funext r
  cases r with
  | rif rifid =>
    refine content_rif_of_eq (by rw [hintfs]) (by rw [hneighbors]) ?_
    unfold Hw.routerIntfEntryFind
    rw [hentries]
  | router vrid => exact content_router_of_eq (by rw [hroutes])

/-! ## One call -/

/-- A call that served the ofproto at `p` alone. -/
structure Served (p : OfprotoPtr) (s s' : Provider) : Prop where
  others : ∀ q, q ≠ p → s'.ofprotos.lookup q = s.ofprotos.lookup q
  tenant : Tenant (s.owns p) (s'.owns p) s.content s'.content

omit [OvsLib] in
theorem Served.owns (h : Served p s s') (hq : q ≠ p) : s'.owns q = s.owns q := by
  funext r
  simp only [Provider.owns, h.others q hq]

omit [OvsLib] in
theorem owns_eq (hp : s.ofprotos.lookup p = some record) : s.owns p = record.Owns := by
  funext r
  simp [Provider.owns, hp]

/-- The state after a call on the ofproto at `p`. -/
structure OnOfproto (p : OfprotoPtr) (record : OfprotoRecord) (o' : OfprotoSai)
    (s s' : Provider) : Prop where
  lookup : ∀ q, s'.ofprotos.lookup q =
    if q = p then some (record.after o') else s.ofprotos.lookup q
  hw : s'.hw = o'.hw
  routers : s'.routers = s.routers

omit [OvsLib] in
theorem onOfproto_after {m : Exec OfprotoSai Int} (h : onOfproto p m s = .ok (st, s')) :
    ∃ record o', s.ofprotos.lookup p = some record ∧ m (record.on s.hw) = .ok (st, o') ∧
      OnOfproto p record o' s s' := by
  obtain ⟨record, o', hp, hm, rfl⟩ := onOfproto_ok h
  exact ⟨record, o', hp, hm, fun q => setOfproto_lookup _ _, rfl, rfl⟩

omit [OvsLib] in
theorem OnOfproto.served {o' : OfprotoSai} (h : OnOfproto p record o' s s')
    (hp : s.ofprotos.lookup p = some record) (hw : Within (record.on s.hw) o')
    (hquiet : record.type = .system → o'.hw.l3 = s.hw.l3) : Served p s s' := by
  have htype : o'.type = record.type := hw.setup.type
  have hvrid : o'.vrid = record.vrid := hw.setup.vrid
  have hp' : s'.ofprotos.lookup p = some (record.after o') := by rw [h.lookup, if_pos rfl]
  refine ⟨fun q hq => by rw [h.lookup, if_neg hq], ?_⟩
  rw [owns_eq hp, owns_eq hp']
  refine ⟨fun r hsome hown => ?_, fun r hown => ?_⟩
  · cases r with
    | rif rifid =>
      rw [provider_content_rif, h.hw]
      exact hw.tenant.others _ hsome hown
    | router v =>
      rw [provider_content_router, provider_content_router, h.routers, h.hw]
      congr 1
      by_cases hv : v = record.vrid
      · -- the virtual router has the number that an ofproto without one carries
        have hsystem : record.type = .system := by
          cases ht : record.type with
          | system => rfl
          | vrf => exact absurd ⟨ht, hv⟩ hown
        exact content_router_of_eq (congrFun (congrArg Hw.L3.routes (hquiet hsystem)) v)
      · exact hw.tenant.others (.router v) rfl hv
  · cases r with
    | rif rifid => exact hw.tenant.taken (.rif rifid) hown
    | router v => exact .inl ⟨htype ▸ hown.1, hown.2.trans hvrid⟩

theorem OnOfproto.inv {o' : OfprotoSai} (h : OnOfproto p record o' s s') (hinv : ProviderInv s)
    (hp : s.ofprotos.lookup p = some record) (hw : Within (record.on s.hw) o')
    (hok' : LocalRoutesOk o') (hquiet : record.type = .system → Quiet (record.on s.hw) o') :
    ProviderInv s' := by
  have hok := hinv.ofprotos p record hp
  have hserved := h.served hp hw fun ht => (hquiet ht (hok.bridging ht)).2
  have hp' : s'.ofprotos.lookup p = some (record.after o') := by rw [h.lookup, if_pos rfl]
  have hon : (record.after o').on s'.hw = o' := by
    rw [h.hw]
    rfl
  refine ⟨hinv.tenants.step hserved.tenant (fun q hq => hserved.owns hq) fun r hown => ?_,
    fun q record' hq => ?_, ?_⟩
  · rw [owns_eq hp'] at hown
    cases r with
    | rif rifid =>
      obtain ⟨b, hb⟩ := hown
      rw [provider_content_rif, h.hw]
      exact content_rif_isSome.mpr (hok'.exists_rif b rifid hb)
    | router v =>
      have hv : s.owns p (.router v) := by
        rw [owns_eq hp]
        exact ⟨hw.setup.type.symm.trans hown.1, hown.2.trans hw.setup.vrid⟩
      rw [provider_content_router, h.routers, if_pos (router_mem hinv.tenants hv)]
      rfl
  · rw [h.lookup] at hq
    split at hq
    next =>
      cases hq
      refine ⟨hon ▸ hok', hon ▸ hw.ownVrids hok.vrids, fun ht => ?_⟩
      rw [hon]
      have ht : record.type = .system := hw.setup.type.symm.trans ht
      exact (hquiet ht (hok.bridging ht)).1
    next hqp =>
      have hq₀ := hinv.ofprotos q record' hq
      have hdistinct : ∀ rif, record'.Owns (.rif rif) → ¬record.Owns (.rif rif) := fun rif hr hr' =>
        hqp (hinv.tenants.distinct q p (.rif rif) ⟨record', hq, hr⟩ ⟨record, hp, hr'⟩)
      rw [h.hw]
      refine ⟨hq₀.locals.foreign (o := record.on s.hw) rfl hw hok' hdistinct, ?_, fun ht => ?_⟩
      · rintro rif intf ⟨b, hb⟩ hi
        have hforeign := hw.lookup_foreign (hq₀.locals.exists_rif b rif hb)
          (hdistinct rif ⟨b, hb⟩)
        exact hq₀.vrids rif intf ⟨b, hb⟩ (hforeign ▸ hi)
      · obtain ⟨htype, hfree⟩ := hq₀.bridging ht
        exact ⟨htype, hfree⟩
  · rw [h.hw]
    exact hw.inside hok.locals hok' hok.vrids hinv.inside

/-- Interfaces stay and local routes are at most deleted. -/
structure Hw.Fades (hw hw' : Hw) : Prop where
  routerIntfs : hw'.routerIntfs = hw.routerIntfs
  locals : ∀ v pfx rif, hw'.routes v pfx = some (.local rif) → hw.routes v pfx = some (.local rif)

omit [OvsLib] in
theorem Hw.Fades.inside {hw hw' : Hw} (h : hw.Fades hw') (hin : hw.Inside) : hw'.Inside :=
  fun v pfx rif hr => h.routerIntfs ▸ hin v pfx rif (h.locals v pfx rif hr)

theorem OfprotoRecord.Ok.fades {hw hw' : Hw} (h : record.Ok hw) (hf : hw.Fades hw') :
    record.Ok hw' where
  locals := h.locals.setHw ⟨hf.locals, fun _ hr => by rw [hf.routerIntfs]; exact hr⟩
  vrids rif intf hown hi := h.vrids rif intf hown (hf.routerIntfs ▸ hi)
  bridging ht := ⟨(h.bridging ht).type, (h.bridging ht).free⟩

/-- An ofproto without bundles. -/
theorem OfprotoRecord.Ok.new {hw : Hw} (hin : hw.Inside) {name : String} {type : OfprotoType}
    {vrid : Nat} {ofports : OfpPort → Option OfportSai} :
    OfprotoRecord.Ok hw ⟨name, type, vrid, ofports, ∅⟩ := by
  refine ⟨⟨fun v pfx rif hr => ?_, fun b rif hb => ?_, fun b b' rif hb => ?_,
    fun b rif v pfx hb => ?_⟩, ?_, fun ht => ⟨ht, fun b bundle hb => ?_⟩⟩
  · obtain ⟨intf, hi, -⟩ := hin v pfx rif hr
    exact mem_of_lookup hi
  · cases hb
  · cases hb
  · cases hb
  · rintro rif intf ⟨b, hb⟩
    cases hb
  · cases hb

omit [OvsLib] in
theorem Hw.Idle.fades {hw hw' : Hw} (h : hw.Idle hw') : hw.Fades hw' := by
  obtain ⟨hl3, -⟩ := h
  simp only [Hw.l3, Hw.L3.mk.injEq] at hl3
  exact ⟨hl3.2.1, fun v pfx rif hr => hl3.2.2.2.1 ▸ hr⟩

omit [OvsLib] in
theorem ofprotoCreate_served {name : String} {type : OfprotoType}
    {ofports : OfpPort → Option OfportSai} {vrid : Nat}
    (hidle : s.hw.Idle s'.hw) (hfresh : type = .vrf → vrid ∉ s.routers)
    (hrouters : s'.routers = if type = .vrf then vrid :: s.routers else s.routers)
    (hlookup : ∀ q, s'.ofprotos.lookup q =
      if q = p then some ⟨name, type, vrid, ofports, ∅⟩ else s.ofprotos.lookup q) :
    Served p s s' ∧ ∀ r, s'.owns p r → (s'.content r).isSome := by
  have hcontent := content_idle hidle
  have hmem : ∀ v, v ∈ s'.routers ↔ v ∈ s.routers ∨ type = .vrf ∧ v = vrid := by
    intro v
    rw [hrouters]
    by_cases ht : type = .vrf
    · rw [if_pos ht, List.mem_cons, or_comm]
      simp [ht]
    · simp [ht]
  have howns : s'.owns p = OfprotoRecord.Owns ⟨name, type, vrid, ofports, ∅⟩ :=
    owns_eq (by rw [hlookup, if_pos rfl])
  refine ⟨⟨fun q hq => by rw [hlookup, if_neg hq], fun r hsome _ => ?_, fun r hown => .inr ?_⟩,
    fun r hown => ?_⟩
  · cases r with
    | rif r => exact congrFun hcontent (.rif r)
    | router v =>
      have hv : v ∈ s.routers := by
        by_contra hv
        rw [provider_content_router, if_neg hv] at hsome
        cases hsome
      rw [provider_content_router, provider_content_router, if_pos hv,
        if_pos ((hmem v).mpr (.inl hv)), hcontent]
  · rw [howns] at hown
    cases r with
    | rif r =>
      obtain ⟨b, hb⟩ := hown
      cases hb
    | router v =>
      obtain ⟨ht, rfl⟩ := hown
      rw [provider_content_router, if_neg (hfresh ht)]
  · rw [howns] at hown
    cases r with
    | rif r =>
      obtain ⟨b, hb⟩ := hown
      cases hb
    | router v =>
      rw [provider_content_router, if_pos ((hmem v).mpr (.inr hown))]
      rfl

theorem ofprotoCreate_inv {name : String} {type : OfprotoType}
    {ofports : OfpPort → Option OfportSai} (hinv : ProviderInv s)
    (h : ofprotoCreate name type ofports s = .ok (st, s')) :
    ProviderInv s' ∧ ∃ p, s.ofprotos.lookup p = none ∧ Served p s s' := by
  obtain ⟨p, hp, hidle, hend⟩ := ofprotoCreate_ok h
  have hinside := hidle.fades.inside hinv.inside
  rcases hend with ⟨-, hrouters, hlookup⟩ | ⟨-, vrid, hfresh, hrouters, hlookup⟩
  · have howns : s'.owns = s.owns := by
      funext q r
      simp only [Provider.owns, hlookup]
    have hview : s'.content = s.content := by
      funext r
      cases r with
      | rif r => exact congrFun (content_idle hidle) (.rif r)
      | router v =>
        rw [provider_content_router, provider_content_router, hrouters, content_idle hidle]
    refine ⟨⟨?_, fun q record hq => ?_, hinside⟩, p, hp, fun q _ => hlookup q,
      Tenant.of_eq hview (by rw [howns])⟩
    · rw [howns, hview]
      exact hinv.tenants
    · exact (hinv.ofprotos q record (hlookup q ▸ hq)).fades hidle.fades
  · obtain ⟨hserved, hexist⟩ := ofprotoCreate_served hidle hfresh hrouters hlookup
    refine ⟨⟨hinv.tenants.step hserved.tenant (fun q hq => hserved.owns hq) hexist,
      fun q record hq => ?_, hinside⟩, p, hp, hserved⟩
    rw [hlookup] at hq
    split at hq
    next =>
      cases hq
      exact .new hinside
    next => exact (hinv.ofprotos q record hq).fades hidle.fades

theorem ofprotoDestroy_inv (hinv : ProviderInv s) (h : ofprotoDestroy p s = .ok ((), s')) :
    ProviderInv s' ∧ Served p s s' := by
  obtain ⟨record, hw, hp, hidle, hlookup, hend⟩ := ofprotoDestroy_ok h
  have hcontent := content_idle hidle
  have hnone : ∀ r, ¬s'.owns p r := by
    rintro r ⟨record', hp', -⟩
    rw [hlookup, if_pos rfl] at hp'
    cases hp'
  have hothers : ∀ r, (s.content r).isSome → ¬s.owns p r → s'.content r = s.content r := by
    intro r _ hown
    rw [owns_eq hp] at hown
    cases r with
    | rif r =>
      rcases hend with ⟨-, hhw⟩ | ⟨-, -, -, hhw⟩
      · rw [provider_content_rif, hhw]
        exact congrFun hcontent (.rif r)
      · rw [provider_content_rif, hhw]
        exact (content_rif_of_eq rfl rfl rfl).trans (congrFun hcontent (.rif r))
    | router v =>
      rcases hend with ⟨hrouters, hhw⟩ | ⟨htype, -, hrouters, hhw⟩
      · rw [provider_content_router, provider_content_router, hrouters, hhw, hcontent]
      · have hv : v ≠ record.vrid := fun h => hown ⟨htype, h⟩
        rw [provider_content_router, provider_content_router, hrouters, hhw, ← hcontent]
        simp only [List.mem_erase_of_ne hv]
        rw [content_router_of_eq (Function.update_of_ne hv ..)]
  have hserved : Served p s s' :=
    ⟨fun q hq => by rw [hlookup, if_neg hq], hothers, fun r hown => absurd hown (hnone r)⟩
  have hfades : s.hw.Fades s'.hw := by
    rcases hend with ⟨-, hhw⟩ | ⟨-, -, -, hhw⟩
    · rw [hhw]
      exact hidle.fades
    · rw [hhw]
      refine ⟨hidle.fades.routerIntfs, fun v pfx rif hr => hidle.fades.locals v pfx rif ?_⟩
      by_cases hv : v = record.vrid
      · subst hv
        simp at hr
      · simpa [hv] using hr
  refine ⟨⟨hinv.tenants.step hserved.tenant (fun q hq => hserved.owns hq)
    fun r hown => absurd hown (hnone r), fun q record' hq => ?_, hfades.inside hinv.inside⟩,
    hserved⟩
  rw [hlookup] at hq
  split at hq
  next => cases hq
  next => exact (hinv.ofprotos q record' hq).fades hfades

/-! ## Runs -/

variable [Build] [OpenswitchIdl]

omit [OvsLib] [Build] [OpenswitchIdl] in
/-- What the users of the provider call. -/
inductive ProviderCall where
  | create (name : String) (type : OfprotoType) (ofports : OfpPort → Option OfportSai)
  | destroy (p : OfprotoPtr)
  | on (p : OfprotoPtr) (c : HostCall)

def ProviderCall.run : ProviderCall → Exec Provider Int
  | .create name type ofports => ofprotoCreate name type ofports
  | .destroy p => do
    ofprotoDestroy p
    return 0
  | .on p c => onOfproto p c.run

omit [OvsLib] [Build] [OpenswitchIdl] in
/-- Calls on routes and host entries are made on VRFs. -/
def ProviderCall.Legal (s : Provider) : ProviderCall → Prop
  | .on _ (.vrf (.bundle _)) => True
  | .on p _ => ∀ record, s.ofprotos.lookup p = some record → record.type = .vrf
  | _ => True

omit [OvsLib] [Build] [OpenswitchIdl] in
/-- The call is made on the ofproto at `p`. -/
def ProviderCall.Targets (p : OfprotoPtr) : ProviderCall → Prop
  | .create .. => False
  | .destroy q => q = p
  | .on q _ => q = p

omit [Build] [OpenswitchIdl] in
theorem NeighborCall.run_localsOk {aux : Nat} {c : NeighborCall} :
    Keeps LocalRoutesOk (c.run aux) := fun _ _ _ h => by
  obtain ⟨b, bundle, -, -, honly⟩ := NeighborCall.run_onlyNeighbors h
  exact honly.localsShrink.ok

theorem HostCall.run_localsOk {c : HostCall} : Keeps LocalRoutesOk c.run := by
  cases c with
  | vrf c => exact VrfCall.run_localsOk
  | host aux c => exact NeighborCall.run_localsOk

/-- A call on an ofproto serves it alone. -/
theorem OnOfproto.run {c : HostCall} {o' : OfprotoSai} (h : OnOfproto p record o' s s')
    (hlegal : (ProviderCall.on p c).Legal s) (hinv : ProviderInv s)
    (hp : s.ofprotos.lookup p = some record) (hrun : c.run (record.on s.hw) = .ok (st, o')) :
    ProviderInv s' ∧ Served p s s' := by
  have hok := hinv.ofprotos p record hp
  have hwithin := HostCall.run_within _ _ _ hrun
  have hlocals := HostCall.run_localsOk _ _ _ hrun hok.locals
  have hquiet : record.type = .system → Quiet (record.on s.hw) o' := by
    intro ht
    cases c with
    | vrf c =>
      cases c with
      | bundle c => exact BundleCall.run_quiet _ _ _ hrun
      | route action routep =>
        have hvrf := hlegal record hp
        rw [ht] at hvrf
        cases hvrf
    | host aux c =>
      have hvrf := hlegal record hp
      rw [ht] at hvrf
      cases hvrf
  have hl3 : record.type = .system → o'.hw.l3 = s.hw.l3 := fun ht =>
    (hquiet ht (hok.bridging ht)).2
  exact ⟨h.inv hinv hp hwithin hlocals hquiet, h.served hp hwithin hl3⟩

/-- A call serves one ofproto: the one it is made on, or a new one. -/
theorem ProviderCall.run_inv {c : ProviderCall} (hlegal : c.Legal s) (hinv : ProviderInv s)
    (h : c.run s = .ok (st, s')) :
    ProviderInv s' ∧ ∃ p, (c.Targets p ∨ s.ofprotos.lookup p = none) ∧ Served p s s' := by
  cases c with
  | create name type ofports =>
    obtain ⟨hinv', p, hp, hserved⟩ := ofprotoCreate_inv hinv h
    exact ⟨hinv', p, .inr hp, hserved⟩
  | destroy p =>
    obtain ⟨_, s₁, hdestroy, hend⟩ := bind_ok.mp h
    cases hend
    obtain ⟨hinv', hserved⟩ := ofprotoDestroy_inv hinv hdestroy
    exact ⟨hinv', p, .inl rfl, hserved⟩
  | on p c =>
    obtain ⟨record, o', hp, hrun, hafter⟩ := onOfproto_after h
    obtain ⟨hinv', hserved⟩ := hafter.run hlegal hinv hp hrun
    exact ⟨hinv', p, .inl rfl, hserved⟩

omit [Build] [OpenswitchIdl] in
theorem new_providerInv {hw : Hw} (hempty : ∀ v pfx, hw.routes v pfx = none) :
    ProviderInv (.new hw) where
  tenants := by
    have hnone : ∀ p r, ¬(Provider.new hw).owns p r := by
      rintro p r ⟨record, hp, -⟩
      cases hp
    exact ⟨fun p r h => absurd h (hnone p r), fun p q r h => absurd h (hnone p r)⟩
  ofprotos p record hp := by cases hp
  inside v pfx rif hr := by
    have hr : hw.routes v pfx = some (.local rif) := hr
    rw [hempty] at hr
    cases hr

theorem Reaches.providerInv {ok : Provider → ProviderCall → Prop}
    (hok : ∀ s c, ok s c → c.Legal s) (H : Reaches ok ProviderCall.run s s')
    (h : ProviderInv s) : ProviderInv s' :=
  H.invariant (fun _ _ hc _ _ hrun h => (ProviderCall.run_inv (hok _ _ hc) h hrun).1) h

/-- **A local route goes through an interface of its own virtual router**, in every state of a run
of the provider that starts without ofprotos and routes, whatever the outcomes of the hardware
calls. -/
theorem localRoutes_inside {hw : Hw} (hempty : ∀ v pfx, hw.routes v pfx = none)
    (H : Reaches (fun s c => c.Legal s) ProviderCall.run (.new hw) s) {v rif : Nat}
    {pfx : SxIpPrefix} (hr : s.hw.routes v pfx = some (.local rif)) :
    ∃ intf, s.hw.routerIntfs.lookup rif = some intf ∧ intf.vrid = v :=
  (Reaches.providerInv (fun _ _ h => h) H (new_providerInv hempty)).inside v pfx rif hr

/-- Calls on other ofprotos leave a VRF and what it owns as they were. -/
theorem Reaches.untouched (hinv : ProviderInv s) (hp : s.ofprotos.lookup p = some record)
    (H : Reaches (fun s c => c.Legal s ∧ ¬c.Targets p) ProviderCall.run s s') :
    ProviderInv s' ∧ s'.ofprotos.lookup p = some record ∧
      ∀ r, s.owns p r → s'.content r = s.content r := by
  refine H.invariant (I := fun s' => ProviderInv s' ∧ s'.ofprotos.lookup p = some record ∧
    ∀ r, s.owns p r → s'.content r = s.content r) ?_ ⟨hinv, hp, fun _ _ => rfl⟩
  rintro c s₁ ⟨hlegal, hnot⟩ st s₂ hrun ⟨hinv₁, hp₁, hcontent⟩
  obtain ⟨hinv₂, q, hq, hserved⟩ := ProviderCall.run_inv hlegal hinv₁ hrun
  have hne : p ≠ q := by
    rintro rfl
    rcases hq with htargets | hnone
    · exact hnot htargets
    · cases hp₁.symm.trans hnone
  have howns : s₁.owns p = s.owns p := (owns_eq hp₁).trans (owns_eq hp).symm
  refine ⟨hinv₂, (hserved.others p hne).trans hp₁, fun r hr => ?_⟩
  exact (hinv₁.tenants.untouched hserved.tenant hne (howns ▸ hr)).trans (hcontent r hr)

/-- **VRFs do not interfere**: calls on other ofprotos, which may also be created and destroyed,
leave the routes of a VRF, its router interfaces, their entries and the neighbors on them as they
were, whatever the outcomes of the hardware calls. -/
theorem vrf_isolated {hw : Hw} (hempty : ∀ v pfx, hw.routes v pfx = none)
    (H : Reaches (fun s c => c.Legal s) ProviderCall.run (.new hw) s)
    (hp : s.ofprotos.lookup p = some record) (hvrf : record.type = .vrf)
    (H' : Reaches (fun s c => c.Legal s ∧ ¬c.Targets p) ProviderCall.run s s') :
    s'.ofprotos.lookup p = some record ∧ s'.hw.routes record.vrid = s.hw.routes record.vrid ∧
      ∀ b rif, (record.on s.hw).rif b = some rif →
        s'.hw.routerIntfs.lookup rif = s.hw.routerIntfs.lookup rif ∧
        s'.hw.neighbors rif = s.hw.neighbors rif ∧
        s'.hw.routerIntfEntryFind rif = s.hw.routerIntfEntryFind rif := by
  have hinv := Reaches.providerInv (fun _ _ h => h) H (new_providerInv hempty)
  obtain ⟨hinv', hp', hcontent⟩ := Reaches.untouched hinv hp H'
  refine ⟨hp', ?_, fun b rif hb => ?_⟩
  · have hown : s.owns p (.router record.vrid) := ⟨record, hp, hvrf, rfl⟩
    have hown' : s'.owns p (.router record.vrid) := ⟨record, hp', hvrf, rfl⟩
    have heq := hcontent _ hown
    rw [provider_content_router, provider_content_router,
      if_pos (router_mem hinv.tenants hown), if_pos (router_mem hinv'.tenants hown')] at heq
    simpa only [Hw.content, Option.some.injEq, ResourceContent.router.injEq] using heq
  · have heq := hcontent (.rif rif) ⟨record, hp, b, hb⟩
    obtain ⟨intf, hi⟩ := Option.isSome_iff_exists.mp
      (AList.lookup_isSome.mpr ((hinv.ofprotos p record hp).locals.exists_rif b rif hb))
    have hi : s.hw.routerIntfs.lookup rif = some intf := hi
    have hi' := (lookup_of_content heq).trans hi
    simp only [provider_content_rif, Hw.content, hi, hi', Option.map_some, Option.some.injEq,
      ResourceContent.rif.injEq, true_and] at heq
    exact ⟨hi'.trans hi.symm, heq⟩

/-! ## Port objects -/

omit [OvsLib] [Build] [OpenswitchIdl] in
/-- The call is on no ofproto that has a port with the object `oid`. -/
def ProviderCall.Spares (oid : Nat) (s : Provider) : ProviderCall → Prop
  | .on p _ => ∀ record, s.ofprotos.lookup p = some record →
      ∀ q, (record.on s.hw).portOid q ≠ some oid
  | _ => True

theorem ProviderCall.run_spares {c : ProviderCall} {oid : Nat} (hspares : c.Spares oid s)
    (h : c.run s = .ok (st, s')) : s'.hw.ports oid = s.hw.ports oid := by
  cases c with
  | create name type ofports =>
    obtain ⟨p, -, hidle, -⟩ := ofprotoCreate_ok h
    exact congrFun hidle.2 oid
  | destroy p =>
    obtain ⟨_, s₁, hdestroy, hend⟩ := bind_ok.mp h
    cases hend
    obtain ⟨record, hw, -, hidle, -, ⟨-, hhw⟩ | ⟨-, -, -, hhw⟩⟩ := ofprotoDestroy_ok hdestroy
    · rw [hhw]
      exact congrFun hidle.2 oid
    · rw [hhw]
      exact congrFun hidle.2 oid
  | on p c =>
    obtain ⟨record, o', hp, hrun, hafter⟩ := onOfproto_after h
    rw [hafter.hw]
    exact (HostCall.run_within _ _ _ hrun).ports oid (hspares record hp)

/-- **The attributes of a port object are those of one ofproto**: its VLANs and all else stay as
they are through calls on ofprotos that have no port with this object, and through the creation and
destruction of ofprotos. -/
theorem port_isolated {oid : Nat}
    (H : Reaches (fun s c => c.Spares oid s) ProviderCall.run s s') :
    s'.hw.ports oid = s.hw.ports oid :=
  H.invariant (I := fun s' => s'.hw.ports oid = s.hw.ports oid)
    (fun _ _ hspares _ _ hrun h => (ProviderCall.run_spares hspares hrun).trans h) rfl

end

section
attribute [local instance] sampleOvs sampleBuild sampleIdl

/-- The single port `p`. -/
def onePort (p : OfpPort) (q : OfpPort) : Option OfportSai :=
  if q = p then some (samplePort .system p) else none

def Provider.kind (p : OfprotoPtr) (s : Provider) : Option (OfprotoType × Nat) :=
  (s.ofprotos.lookup p).map fun record => (record.type, record.vrid)

theorem provider_kind {v : Nat} (h : s.kind p = some (.vrf, v)) :
    ∃ record, s.ofprotos.lookup p = some record ∧ record.type = .vrf ∧ record.vrid = v := by
  obtain ⟨record, hp, heq⟩ := Option.map_eq_some_iff.mp h
  rw [Prod.mk.injEq] at heq
  exact ⟨record, hp, heq.1, heq.2⟩

/-- A VRF `p` gets the interface `port` and a local route through it. -/
def sampleBundle (p : OfprotoPtr) (s : OfprotoBundleSettings) : ProviderCall :=
  .on p (.vrf (.bundle (.set 1 (some s))))

def sampleRoute (p : OfprotoPtr) (port : String) : ProviderCall :=
  .on p (.vrf (.route .add ⟨"10.1.0.0/16", [.port port]⟩))

theorem sampleRoute_legal {v : Nat} {port : String} (h : s.kind p = some (.vrf, v)) :
    (sampleRoute p port).Legal s := by
  intro record hp
  obtain ⟨record', hp', htype, -⟩ := provider_kind h
  cases hp.symm.trans hp'
  exact htype

/-- A VRF with a local route through its port 1, and a second VRF that is created afterwards and
gets a route for the same prefix through its port 2. -/
theorem sampleVrfs : ∃ s s' record,
    Reaches (fun s c => c.Legal s) ProviderCall.run (.new .reset) s ∧
    s.ofprotos.lookup 0 = some record ∧ record.type = .vrf ∧ record.vrid = 0 ∧
    s.hw.routes 0 samplePrefix = some (.local 0) ∧
    Reaches (fun s c => c.Legal s ∧ ¬c.Targets 0) ProviderCall.run s s' ∧
    s'.hw.routes 1 samplePrefix = some (.local 1) := by
  obtain ⟨s', hrun⟩ := result_eq_some.mp (show result (do
    let _ ← ProviderCall.run (.create "vrf_a" .vrf (onePort 1))
    let _ ← (sampleBundle 0 (accessSettings 2)).run
    let k ← gets (Provider.kind 0)
    let _ ← (sampleRoute 0 "1").run
    let k' ← gets (Provider.kind 0)
    let r ← gets fun s => s.hw.routes 0 samplePrefix
    let _ ← ProviderCall.run (.create "vrf_b" .vrf (onePort 2))
    let _ ← (sampleBundle 1 { accessSettings 3 with name := "2", slaves := [2] }).run
    let k'' ← gets (Provider.kind 1)
    let _ ← (sampleRoute 1 "2").run
    let r' ← gets fun s => s.hw.routes 1 samplePrefix
    pure ([k, k', k''], [r, r'])) (.new .reset) =
      some ([some (.vrf, 0), some (.vrf, 0), some (.vrf, 1)], [some (.local 0), some (.local 1)]) by
        decide +kernel)
  obtain ⟨a, s₁, ha, hrun⟩ := bind_ok.mp hrun
  obtain ⟨b, s₂, hb, hrun⟩ := bind_ok.mp hrun
  rw [gets_bind] at hrun
  obtain ⟨c, s₃, hc, hrun⟩ := bind_ok.mp hrun
  rw [gets_bind, gets_bind] at hrun
  obtain ⟨d, s₄, hd, hrun⟩ := bind_ok.mp hrun
  obtain ⟨e, s₅, he, hrun⟩ := bind_ok.mp hrun
  rw [gets_bind] at hrun
  obtain ⟨f, s₆, hf, hend⟩ := bind_ok.mp hrun
  rw [gets_bind, pure_apply] at hend
  simp only [Except.ok.injEq, Prod.mk.injEq, List.cons.injEq, and_true] at hend
  obtain ⟨⟨⟨hk, hk', hk''⟩, hr, hr'⟩, rfl⟩ := hend
  obtain ⟨record, hrecord, htype, hvrid⟩ := provider_kind hk'
  have H : Reaches (fun s c => c.Legal s) ProviderCall.run (.new .reset) s₃ :=
    .tail (.tail (.tail .refl ⟨.create "vrf_a" .vrf (onePort 1), a, trivial, ha⟩)
      ⟨sampleBundle 0 (accessSettings 2), b, trivial, hb⟩)
      ⟨sampleRoute 0 "1", c, sampleRoute_legal hk, hc⟩
  have H' : Reaches (fun s c => c.Legal s ∧ ¬c.Targets 0) ProviderCall.run s₃ s₆ :=
    .tail (.tail (.tail .refl ⟨.create "vrf_b" .vrf (onePort 2), d, ⟨trivial, not_false⟩, hd⟩)
      ⟨sampleBundle 1 _, e, ⟨trivial, Nat.one_ne_zero⟩, he⟩)
      ⟨sampleRoute 1 "2", f, ⟨sampleRoute_legal hk'', Nat.one_ne_zero⟩, hf⟩
  exact ⟨s₃, s₆, record, H, hrecord, htype, hvrid, hr, H', hr'⟩

/-- The prefix 10.1.0.0/16 is routed locally by a VRF. -/
theorem localRoutes_inside_sample :
    ∃ s intf, Reaches (fun s c => c.Legal s) ProviderCall.run (.new .reset) s ∧
      s.hw.routes 0 samplePrefix = some (.local 0) ∧ s.hw.routerIntfs.lookup 0 = some intf ∧
      intf.vrid = 0 := by
  obtain ⟨s, -, -, H, -, -, -, hr, -⟩ := sampleVrfs
  obtain ⟨intf, hi, hv⟩ := localRoutes_inside (fun _ _ => rfl) H hr
  exact ⟨s, intf, H, hr, hi, hv⟩

/-- A second VRF routes the prefix of the first one through an interface of its own. -/
theorem vrf_isolated_sample :
    ∃ s s' : Provider, Reaches (fun s c => c.Legal s) ProviderCall.run (.new .reset) s ∧
      s'.hw.routes 1 samplePrefix = some (.local 1) ∧ s'.hw.routes 0 = s.hw.routes 0 := by
  obtain ⟨s, s', record, H, hp, htype, hvrid, -, H', hr'⟩ := sampleVrfs
  obtain ⟨-, hroutes, -⟩ := vrf_isolated (fun _ _ => rfl) H hp htype H'
  rw [hvrid] at hroutes
  exact ⟨s, s', H, hr', hroutes⟩

/-- A destroyed ofproto leaves its port in the VLAN. -/
theorem port_isolated_destroyed : ∃ s s' : Provider,
    Reaches (fun s c => c.Spares 1 s) ProviderCall.run s s' ∧
    (s'.ofprotos.lookup 0).isSome = false ∧ (s.hw.ports 1).vlans 2 = some .untagged ∧
    s'.hw.ports 1 = s.hw.ports 1 := by
  obtain ⟨s', hrun⟩ := result_eq_some.mp (show result (do
    let _ ← ProviderCall.run (.create "bridge" .system (onePort 1))
    let _ ← (sampleBundle 0 (accessSettings 2)).run
    let v ← gets fun s => (s.hw.ports 1).vlans 2
    let _ ← ProviderCall.run (.destroy 0)
    let k ← gets fun s => (s.ofprotos.lookup 0).isSome
    pure (v, k)) (.new .reset) = some (some .untagged, false) by decide +kernel)
  obtain ⟨a, s₁, -, hrun⟩ := bind_ok.mp hrun
  obtain ⟨b, s₂, -, hrun⟩ := bind_ok.mp hrun
  rw [gets_bind] at hrun
  obtain ⟨c, s₃, hc, hend⟩ := bind_ok.mp hrun
  rw [gets_bind, pure_apply] at hend
  simp only [Except.ok.injEq, Prod.mk.injEq] at hend
  obtain ⟨⟨hv, hk⟩, rfl⟩ := hend
  have H : Reaches (fun s c => c.Spares 1 s) ProviderCall.run s₂ s₃ :=
    .tail .refl ⟨.destroy 0, c, trivial, hc⟩
  exact ⟨s₂, s₃, H, hk, hv, port_isolated H⟩

end

end SwitchdSai
