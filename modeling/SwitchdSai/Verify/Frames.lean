import SwitchdSai.Verify.Rules

/-!
# What the functions on one bundle leave as it was

The functions that program a bundle fall into three groups: VLANs, IP addresses and the router
interface. For each group a relation says what its functions leave as it was: `SameButVlan`,
`SameButIp` and `SameButRif`.
-/

namespace SwitchdSai

open Exec OfprotoSai

/-! ## Calls into the hardware -/

namespace Hw

variable {τ : Type}

/-- `f` of the hardware is as it was, and at most some outcomes have been taken. -/
def Same (f : Hw → τ) (hw hw' : Hw) : Prop := f hw' = f hw ∧ hw'.outcomes <:+ hw.outcomes

instance (f : Hw → τ) : IsPreorder Hw (Same f) where
  refl _ := ⟨rfl, List.suffix_rfl⟩
  trans _ _ _ h h' := ⟨h'.1.trans h.1, h'.2.trans h.2⟩

theorem callIf_same {f : Hw → τ} {valid : Hw → Bool} {effect : Hw → Hw}
    (ht : ∀ hw, f hw.tick = f hw)
    (he : ∀ hw, f (effect hw) = f hw ∧ (effect hw).outcomes = hw.outcomes) :
    Rel (Same f) (callIf valid effect) := by
  have hsuffix : ∀ hw : Hw, hw.tick.outcomes <:+ hw.outcomes := fun hw => List.tail_suffix _
  refine callIf_rel (fun hw => ⟨ht hw, hsuffix hw⟩) fun hw => ?_
  obtain ⟨hf, ho⟩ := he hw.tick
  exact ⟨hf.trans (ht hw), ho ▸ hsuffix hw⟩

theorem choose_same {f : Hw → τ} (h : ∀ hw cs, f { hw with choices := cs } = f hw) :
    Rel (Same f) choose := by
  intro hw n hw' hc
  cases hc
  exact ⟨h hw _, List.suffix_rfl⟩

section
variable {hw hw' : Hw} {status : SaiStatus} {i : Nat}

/-- The environment lets the `i`-th call from here on succeed. -/
def Accepts (hw : Hw) (i : Nat) : Prop := hw.outcomes.getD i .success = .success

theorem accepts_zero : hw.Accepts 0 ↔ hw.nextOutcome = .success := by
  unfold Accepts nextOutcome
  cases hw.outcomes <;> rfl

theorem accepts_tail (h : hw'.outcomes = hw.outcomes.tail) :
    hw'.Accepts i ↔ hw.Accepts (i + 1) := by
  unfold Accepts
  rw [h]
  cases hw.outcomes <;> rfl

/-- A valid call succeeds when the environment lets it. -/
theorem callIf_accepts {valid : Hw → Bool} {effect : Hw → Hw} (hvalid : valid hw = true)
    (h : callIf valid effect hw = .ok (status, hw')) :
    (status = .success ∧ hw.Accepts 0 ∧ hw' = effect hw.tick) ∨
      (status ≠ .success ∧ ¬hw.Accepts 0 ∧ hw' = hw.tick) := by
  rw [accepts_zero]
  unfold callIf at h
  split at h
  next hs =>
    cases h
    exact .inl ⟨rfl, hs, rfl⟩
  next hs =>
    cases h
    exact .inr ⟨hs, hs, rfl⟩

theorem call_accepts {effect : Hw → Hw} (h : call effect hw = .ok (status, hw')) :
    (status = .success ∧ hw.Accepts 0 ∧ hw' = effect hw.tick) ∨
      (status ≠ .success ∧ ¬hw.Accepts 0 ∧ hw' = hw.tick) := callIf_accepts rfl h

end

/-- Every call to come succeeds. -/
def Willing (hw : Hw) : Prop := hw.outcomes = []

theorem Willing.of_suffix {hw hw' : Hw} (h : hw.Willing) (hs : hw'.outcomes <:+ hw.outcomes) :
    hw'.Willing := by
  rw [Willing] at h ⊢
  rw [h] at hs
  exact List.suffix_nil.mp hs

theorem same_willing {τ α : Type} {f : Hw → τ} {m : Exec Hw α} (hm : Rel (Same f) m) :
    Keeps Willing m := fun hw a hw' h hwill => hwill.of_suffix (hm hw a hw' h).2

theorem Willing.accepts {hw : Hw} (h : hw.Willing) (i : Nat) : hw.Accepts i := by
  unfold Accepts
  rw [show hw.outcomes = [] from h]
  rfl

/-- A call that is valid succeeds. -/
theorem Willing.callIf {valid : Hw → Bool} {effect : Hw → Hw} {hw hw' : Hw} {status : SaiStatus}
    (hwill : hw.Willing) (hvalid : valid hw = true)
    (h : Hw.callIf valid effect hw = .ok (status, hw')) :
    status = .success ∧ hw' = effect hw.tick := by
  rcases callIf_accepts hvalid h with ⟨hs, -, hend⟩ | ⟨-, hna, -⟩
  · exact ⟨hs, hend⟩
  · exact absurd (hwill.accepts 0) hna

theorem Willing.call {effect : Hw → Hw} {hw hw' : Hw} {status : SaiStatus} (hwill : hw.Willing)
    (h : Hw.call effect hw = .ok (status, hw')) : status = .success ∧ hw' = effect hw.tick :=
  hwill.callIf rfl h

/-- All tables but the ports. -/
structure L3 where
  oid : Nat → Nat
  routerIntfs : AList fun _ : Nat => HwRouterIntf
  counters : List Nat
  routes : Nat → SxIpPrefix → Option HwRoute
  neighbors : Nat → SxIpAddr → Option EthAddr
  allRouterIntf : List RifEntry

def l3 (hw : Hw) : L3 :=
  ⟨hw.opsSaiApiHwId2PortId, hw.routerIntfs, hw.counters, hw.routes, hw.neighbors,
    hw.allRouterIntf⟩

/-- All tables but the routes. -/
structure ButRoutes where
  oid : Nat → Nat
  ports : Nat → HwPort
  routerIntfs : AList fun _ : Nat => HwRouterIntf
  counters : List Nat
  neighbors : Nat → SxIpAddr → Option EthAddr
  allRouterIntf : List RifEntry

def butRoutes (hw : Hw) : ButRoutes :=
  ⟨hw.opsSaiApiHwId2PortId, hw.ports, hw.routerIntfs, hw.counters, hw.neighbors,
    hw.allRouterIntf⟩

/-- The ports. -/
structure L2 where
  oid : Nat → Nat
  ports : Nat → HwPort

def l2 (hw : Hw) : L2 := ⟨hw.opsSaiApiHwId2PortId, hw.ports⟩

/-- Only routes have changed, and no local route has been added. -/
structure NoLocalAdded (hw hw' : Hw) : Prop where
  same : Same butRoutes hw hw'
  locals : ∀ vrid pfx rif, hw'.routes vrid pfx = some (.local rif) →
    hw.routes vrid pfx = some (.local rif)

instance : IsPreorder Hw NoLocalAdded where
  refl _ := ⟨refl_of _ _, fun _ _ _ => id⟩
  trans _ _ _ h h' := ⟨trans_of _ h.same h'.same,
    fun vrid pfx rif hr => h.locals vrid pfx rif (h'.locals vrid pfx rif hr)⟩

theorem NoLocalAdded.l2 {hw hw' : Hw} (h : NoLocalAdded hw hw') : Same Hw.l2 hw hw' := by
  obtain ⟨⟨hf, ho⟩, -⟩ := h
  simp only [butRoutes, ButRoutes.mk.injEq] at hf
  refine ⟨?_, ho⟩
  simp only [Hw.l2, hf.1, hf.2.1]

theorem setRoute_routes (vrid vrid' : Nat) (pfx pfx' : SxIpPrefix) (route : Option HwRoute)
    (hw : Hw) : (hw.setRoute vrid pfx route).routes vrid' pfx' =
      if vrid' = vrid ∧ pfx' = pfx then route else hw.routes vrid' pfx' := by
  simp only [setRoute, Function.update_apply]
  by_cases hv : vrid' = vrid
  · subst hv
    by_cases hp : pfx' = pfx <;> simp [hp]
  · simp [hv]

/-- Setting a route that is local only where the old one was. -/
theorem callIf_setRoute_noLocalAdded {vrid : Nat} {pfx : SxIpPrefix} (valid : Hw → Bool)
    (route : Hw → Option HwRoute)
    (hroute : ∀ hw rif, route hw = some (.local rif) → hw.routes vrid pfx = some (.local rif)) :
    Rel NoLocalAdded (Hw.callIf valid fun hw => hw.setRoute vrid pfx (route hw)) := by
  have hsuffix : ∀ hw : Hw, hw.tick.outcomes <:+ hw.outcomes := fun hw => List.tail_suffix _
  refine callIf_rel (fun hw => ⟨⟨rfl, hsuffix hw⟩, fun _ _ _ => id⟩) fun hw => ?_
  refine ⟨⟨rfl, hsuffix hw⟩, fun vrid' pfx' rif hr => ?_⟩
  rw [setRoute_routes] at hr
  split at hr
  next h =>
    obtain ⟨rfl, rfl⟩ := h
    exact hroute hw.tick rif hr
  next => exact hr

theorem setRoute_noLocalAdded {vrid : Nat} {pfx : SxIpPrefix} {route : HwRoute}
    (hroute : ∀ rif, route ≠ .local rif) :
    Rel NoLocalAdded (Hw.call (Hw.setRoute vrid pfx (some route))) :=
  callIf_setRoute_noLocalAdded _ (fun _ => some route) fun _ rif h =>
    absurd (Option.some.inj h) (hroute rif)

theorem choose_noLocalAdded : Rel NoLocalAdded choose := by
  intro hw n hw' hc
  cases hc
  exact ⟨⟨rfl, List.suffix_rfl⟩, fun _ _ _ => id⟩

theorem setPort_l3 (oid : Nat) (f : HwPort → HwPort) (hw : Hw) :
    (hw.setPort oid f).l3 = hw.l3 ∧ (hw.setPort oid f).outcomes = hw.outcomes := ⟨rfl, rfl⟩

end Hw

/-! ### Ports and VLANs -/

section
variable {vid hwId : Nat} {mode : SaiVlanTaggingMode} {add changed : Bool} {trunks : VlanBitmap}

theorem setHwIdAttr_l3 {attr : SaiPortAttr} : Rel (Hw.Same Hw.l3) (setHwIdAttr hwId attr) :=
  (Rel.gets _).bind fun _ =>
    (Hw.callIf_same (fun _ => rfl) fun hw => hw.setPort_l3 _ _).bind fun _ => Rel.pure _

theorem vlanPortSet_l3 : Rel (Hw.Same Hw.l3) (vlanPortSet vid hwId mode add) :=
  (Rel.gets _).bind fun _ =>
    (Hw.callIf_same (fun _ => rfl) fun hw => hw.setPort_l3 _ _).bind fun _ =>
      (Rel.pure _).ite ((Rel.pure _).ite setHwIdAttr_l3)

theorem vlanParts_l3 : VlanParts (Rel (Hw.Same Hw.l3)) hwId add :=
  ⟨Rel.composes, fun _ _ => vlanPortSet_l3, fun _ => setHwIdAttr_l3⟩

theorem vlanPortLeave_l3 {bundle : OfbundleSai} :
    Rel (Hw.Same Hw.l3) (vlanPortLeave bundle changed trunks hwId) :=
  VlanParts.leave vlanParts_l3 (.inr (Rel.halt _))

theorem vlanPortJoin_l3 {s : OfprotoBundleSettings} :
    Rel (Hw.Same Hw.l3) (vlanPortJoin s changed trunks hwId) :=
  VlanParts.join vlanParts_l3 (.inr (Rel.halt _))

theorem portVlansJoin_l3 {bundle : OfbundleSai} :
    Rel (Hw.Same Hw.l3) (portVlansJoin bundle hwId) := VlanParts.joinAll vlanParts_l3

theorem portVlansLeave_l3 {bundle : OfbundleSai} :
    Rel (Hw.Same Hw.l3) (portVlansLeave bundle hwId) := VlanParts.leaveAll vlanParts_l3

end

/-! ### Routes -/

theorem sxUcRouteSet_noLocalAdded {cmd : SxAccessCmd} {vrid : Nat} {pfx : SxIpPrefix}
    {nextHops : List SxIpAddr} : Rel Hw.NoLocalAdded (sxUcRouteSet cmd vrid pfx nextHops) := by
  cases cmd with
  | add => exact Hw.setRoute_noLocalAdded fun _ h => by cases h
  | delete =>
    refine Hw.callIf_setRoute_noLocalAdded (fun hw => (hw.routes vrid pfx).isSome)
      (fun hw => (hw.routes vrid pfx).bind (·.deleteNextHops nextHops)) fun hw rif h => ?_
    -- deleting next hops leaves a local route or deletes the route
    obtain ⟨route, hroute, h⟩ := Option.bind_eq_some_iff.mp h
    rw [hroute]
    unfold HwRoute.deleteNextHops at h
    split at h
    · cases h
    · split at h
      · dsimp only at h
        split at h <;> cases h
      · exact h

section
variable [OvsLib] [Build] {vrid : Nat} {pfx : String} {nextHops : List String}

theorem routeRemoteAction_noLocalAdded {action : SxAccessCmd} :
    Rel Hw.NoLocalAdded (routeRemoteAction vrid pfx nextHops action) := by
  unfold routeRemoteAction
  split
  next => exact Rel.pure _
  next =>
    split
    next => exact Rel.pure _
    next => exact (Rel.halt _).ite sxUcRouteSet_noLocalAdded

theorem routeRemove_noLocalAdded : Rel Hw.NoLocalAdded (opsSaiRouteRemove vrid pfx) :=
  Rel.bind routeRemoteAction_noLocalAdded fun _ => Rel.pure _

omit [Build] in
theorem routeIpToMeAdd_noLocalAdded : Rel Hw.NoLocalAdded (opsSaiRouteIpToMeAdd vrid pfx) := by
  unfold opsSaiRouteIpToMeAdd
  split
  next => exact Rel.pure _
  next =>
    exact Rel.bind (Hw.setRoute_noLocalAdded fun _ h => by cases h) fun _ => Rel.pure _

/-- Removing a route that succeeds has deleted it. -/
theorem opsSaiRouteRemove_ok {hw hw' : Hw}
    (h : opsSaiRouteRemove vrid pfx hw = .ok (0, hw')) :
    ∃ sxPrefix, opsSaiCommonIpPrefixToSxIpPrefix pfx = some sxPrefix ∧
      hw' = hw.tick.setRoute vrid sxPrefix none := by
  obtain ⟨status, hw₁, haction, hend⟩ := bind_ok.mp h
  simp only [pure_apply, Except.ok.injEq, Prod.mk.injEq, sxError2Errno_eq_zero] at hend
  obtain ⟨hs, rfl⟩ := hend
  rw [hs] at haction
  unfold routeRemoteAction at haction
  cases hpfx : opsSaiCommonIpPrefixToSxIpPrefix pfx with
  | none =>
    rw [hpfx] at haction
    cases haction
  | some sxPrefix =>
    simp only [hpfx, List.take_nil, List.mapM_nil, List.length_nil, Nat.not_lt_zero,
      if_false, Option.pure_def] at haction
    refine ⟨sxPrefix, rfl, ?_⟩
    rw [sxUcRouteSet] at haction
    rcases Hw.callIf_cases haction with ⟨-, -, rfl⟩ | ⟨hne, -⟩
    · congr 1
      cases hw.tick.routes vrid sxPrefix <;> simp [HwRoute.deleteNextHops]
    · exact absurd rfl hne

/-- Removing a route that fails has changed no route. -/
theorem opsSaiRouteRemove_failed {hw hw' : Hw} {st : Int}
    (h : opsSaiRouteRemove vrid pfx hw = .ok (st, hw')) (h0 : st ≠ 0) :
    hw'.routes = hw.routes := by
  obtain ⟨status, hw₁, haction, hend⟩ := bind_ok.mp h
  cases hend
  unfold routeRemoteAction at haction
  cases hpfx : opsSaiCommonIpPrefixToSxIpPrefix pfx with
  | none =>
    rw [hpfx] at haction
    cases haction
    rfl
  | some sxPrefix =>
    simp only [hpfx, List.take_nil, List.mapM_nil, List.length_nil, Nat.not_lt_zero,
      if_false, Option.pure_def] at haction
    rw [sxUcRouteSet] at haction
    rcases Hw.callIf_cases haction with ⟨rfl, -, -⟩ | ⟨-, rfl⟩
    · exact absurd rfl h0
    · rfl

/-- Removing a route of a prefix that the hardware has succeeds when the environment lets it. -/
theorem opsSaiRouteRemove_accepts {hw hw' : Hw} {sxPrefix : SxIpPrefix} {st : Int}
    (hpfx : opsSaiCommonIpPrefixToSxIpPrefix pfx = some sxPrefix)
    (hroute : (hw.routes vrid sxPrefix).isSome) (hacc : hw.Accepts 0)
    (h : opsSaiRouteRemove vrid pfx hw = .ok (st, hw')) : st = 0 := by
  obtain ⟨status, hw₁, haction, hend⟩ := bind_ok.mp h
  cases hend
  unfold routeRemoteAction at haction
  simp only [hpfx, List.take_nil, List.mapM_nil, List.length_nil, Nat.not_lt_zero, if_false,
    Option.pure_def] at haction
  rw [sxUcRouteSet] at haction
  rcases Hw.callIf_accepts hroute haction with ⟨rfl, -, -⟩ | ⟨-, hna, -⟩
  · rfl
  · exact absurd hacc hna

omit [Build] in
/-- Adding a local route sets it exactly when the prefix parses and the environment lets it. -/
theorem opsSaiRouteLocalAdd_cases {hw hw' : Hw} {rifid : Nat} {st : Int}
    (h : opsSaiRouteLocalAdd vrid pfx rifid hw = .ok (st, hw')) :
    (∃ sxPrefix, opsSaiCommonIpPrefixToSxIpPrefix pfx = some sxPrefix ∧ hw.Accepts 0 ∧ st = 0 ∧
        hw' = hw.tick.setRoute vrid sxPrefix (some (.local rifid))) ∨
      st ≠ 0 ∧ (∀ sxPrefix, opsSaiCommonIpPrefixToSxIpPrefix pfx = some sxPrefix →
        ¬hw.Accepts 0) ∧ hw'.routes = hw.routes ∧ hw'.routerIntfs = hw.routerIntfs := by
  unfold opsSaiRouteLocalAdd at h
  cases hpfx : opsSaiCommonIpPrefixToSxIpPrefix pfx with
  | none =>
    rw [hpfx] at h
    cases h
    exact .inr ⟨by decide, fun _ h => absurd h (Option.some_ne_none _).symm, rfl, rfl⟩
  | some sxPrefix =>
    rw [hpfx] at h
    obtain ⟨status, hw₁, hcall, hend⟩ := bind_ok.mp h
    cases hend
    rcases Hw.call_accepts hcall with ⟨rfl, ha, rfl⟩ | ⟨hs, hna, rfl⟩
    · exact .inl ⟨sxPrefix, rfl, ha, rfl, rfl⟩
    · exact .inr ⟨fun h => hs (sxError2Errno_eq_zero.mp h), fun _ _ => hna, rfl, rfl⟩

omit [Build] in
/-- Adding a host route that succeeds has set it. -/
theorem opsSaiRouteIpToMeAdd_ok {hw hw' : Hw}
    (h : opsSaiRouteIpToMeAdd vrid pfx hw = .ok (0, hw')) :
    ∃ sxPrefix, opsSaiCommonIpPrefixToSxIpPrefix pfx = some sxPrefix ∧
      hw' = hw.tick.setRoute vrid sxPrefix (some .ip2me) := by
  unfold opsSaiRouteIpToMeAdd at h
  cases hpfx : opsSaiCommonIpPrefixToSxIpPrefix pfx with
  | none =>
    rw [hpfx] at h
    cases h
  | some sxPrefix =>
    rw [hpfx] at h
    obtain ⟨status, hw₁, hcall, hend⟩ := bind_ok.mp h
    simp only [pure_apply, Except.ok.injEq, Prod.mk.injEq, sxError2Errno_eq_zero] at hend
    obtain ⟨hs, rfl⟩ := hend
    rcases Hw.call_cases hcall with ⟨-, rfl⟩ | ⟨hne, -⟩
    · exact ⟨sxPrefix, rfl, rfl⟩
    · exact absurd hs hne

omit [Build] in
/-- Adding a host route that fails has changed no route. -/
theorem opsSaiRouteIpToMeAdd_failed {hw hw' : Hw} {st : Int}
    (h : opsSaiRouteIpToMeAdd vrid pfx hw = .ok (st, hw')) (h0 : st ≠ 0) :
    hw'.routes = hw.routes := by
  unfold opsSaiRouteIpToMeAdd at h
  cases hpfx : opsSaiCommonIpPrefixToSxIpPrefix pfx with
  | none =>
    rw [hpfx] at h
    cases h
    rfl
  | some sxPrefix =>
    rw [hpfx] at h
    obtain ⟨status, hw₁, hcall, hend⟩ := bind_ok.mp h
    cases hend
    rcases Hw.call_cases hcall with ⟨hs, -⟩ | ⟨-, rfl⟩
    · exact absurd (sxError2Errno_eq_zero.mpr hs) h0
    · rfl

end

/-! ### Router interfaces -/

section
variable {rif rifHandle handle vrid : Nat} {type : RouterIntfType}

theorem bindCounter_l2 {counter : Option Nat} (hw : Hw) :
    (hw.bindCounter rif counter).l2 = hw.l2 ∧
      (hw.bindCounter rif counter).outcomes = hw.outcomes := by
  unfold Hw.bindCounter
  split <;> exact ⟨rfl, rfl⟩

theorem sxCall_l2 : Rel (Hw.Same Hw.l2) sxCall := Hw.callIf_same (fun _ => rfl) fun _ => ⟨rfl, rfl⟩

theorem choose_l2 : Rel (Hw.Same Hw.l2) Hw.choose := Hw.choose_same fun _ _ => rfl

theorem intfParamsIfc_l2 : Rel (Hw.Same Hw.l2) (intfParamsIfc type handle) := by
  cases type with
  | port =>
    exact (Rel.gets _).bind fun _ => Rel.bind sxCall_l2 fun _ => (Rel.require _ _).bind fun _ =>
      Rel.pure _
  | vlan => exact Rel.pure _

theorem sxRouterInterfaceAdd_l2 {ifc : Nat} :
    Rel (Hw.Same Hw.l2) (sxRouterInterfaceAdd vrid type ifc) :=
  Rel.bind choose_l2 fun _ => (Rel.gets _).bind fun _ =>
    Rel.bind (Hw.callIf_same (fun _ => rfl) fun _ => ⟨rfl, rfl⟩) fun _ => Rel.pure _

theorem sxRouterCounterCreate_l2 : Rel (Hw.Same Hw.l2) sxRouterCounterCreate :=
  Rel.bind choose_l2 fun _ => (Rel.gets _).bind fun _ =>
    Rel.bind (Hw.callIf_same (fun _ => rfl) fun _ => ⟨rfl, rfl⟩) fun _ => Rel.pure _

theorem sxRouterInterfaceCounterBind_l2 {counter : Nat} :
    Rel (Hw.Same Hw.l2) (sxRouterInterfaceCounterBind counter rif) :=
  Hw.callIf_same (fun _ => rfl) bindCounter_l2

theorem routerIntfCreate_l2 :
    Rel (Hw.Same Hw.l2) (opsSaiRouterIntfCreate vrid type handle rifHandle) := by
  refine Rel.bind intfParamsIfc_l2 fun ifc => Rel.bind sxCall_l2 fun _ => (Rel.pure _).ite ?_
  refine Rel.bind sxRouterInterfaceAdd_l2 fun _ => (Rel.pure _).ite ?_
  refine Rel.bind sxRouterCounterCreate_l2 fun _ => (Rel.pure _).ite ?_
  refine Rel.bind sxRouterInterfaceCounterBind_l2 fun _ => (Rel.pure _).ite ?_
  refine (Rel.gets _).bind fun _ => (Rel.require _ _).bind fun _ => ?_
  exact Rel.bind (Rel.modify fun _ => ⟨rfl, List.suffix_rfl⟩) fun _ => Rel.pure _

theorem routerIntfRemove_l2 : Rel (Hw.Same Hw.l2) (opsSaiRouterIntfRemove rifHandle) := by
  have hunbind : ∀ c r, Rel (Hw.Same Hw.l2) (sxRouterInterfaceCounterUnbind c r) :=
    fun _ _ => Hw.callIf_same (fun _ => rfl) bindCounter_l2
  have hdestroy : ∀ c, Rel (Hw.Same Hw.l2) (sxRouterCounterDestroy c) :=
    fun _ => Hw.callIf_same (fun _ => rfl) fun _ => ⟨rfl, rfl⟩
  have hget : ∀ r, Rel (Hw.Same Hw.l2) (sxRouterInterfaceGet r) :=
    fun _ => Hw.callIf_same (fun _ => rfl) fun _ => ⟨rfl, rfl⟩
  have hdelete : ∀ r, Rel (Hw.Same Hw.l2) (sxRouterInterfaceDelete r) :=
    fun _ => Hw.callIf_same (fun _ => rfl) fun _ => ⟨rfl, rfl⟩
  refine (Rel.gets _).bind fun _ => (Rel.need _ _).bind fun _ => ?_
  refine (hunbind _ _).bind fun _ => (Rel.pure _).ite ?_
  refine (hdestroy _).bind fun _ => (Rel.pure _).ite ?_
  refine (hget _).bind fun _ => (Rel.pure _).ite ?_
  refine (hdelete _).bind fun _ => (Rel.pure _).ite ?_
  exact Rel.bind (Rel.modify fun _ => ⟨rfl, List.suffix_rfl⟩) fun _ => Rel.pure _

theorem routerIntfSetState_l2 {state : Bool} :
    Rel (Hw.Same Hw.l2) (opsSaiRouterIntfSetState rifHandle state) := by
  have hset : ∀ r, Rel (Hw.Same Hw.l2) (sxRouterInterfaceStateSet r state) := fun r =>
    Hw.callIf_same (fun _ => rfl) fun hw => by split <;> exact ⟨rfl, rfl⟩
  exact (Rel.gets _).bind fun _ => (Rel.need _ _).bind fun _ => (hset _).bind fun _ => Rel.pure _

end

/-! ## Functions on a bundle -/

namespace OfbundleSai

/-- A bundle without its VLAN settings. -/
def butVlan (bundle : OfbundleSai) : OfbundleSai :=
  { bundle with vlan := 0, vlanMode := .access, trunks := none }

/-- A bundle without its IP addresses. -/
def butIp (bundle : OfbundleSai) : OfbundleSai :=
  { bundle with ipv4Primary := none, ipv6Primary := none, ipv4Secondary := [], ipv6Secondary := [] }

/-- A bundle without its router interface and the routes through it. -/
def butRif (bundle : OfbundleSai) : OfbundleSai :=
  { bundle with routerIntf := .zero, localRoutes := [] }

end OfbundleSai

/-- A port without the handle of its netdev. -/
def OfportSai.butRif (port : OfportSai) : OfportSai :=
  { port with netdev := { port.netdev with rifHandle := none } }

/-- What the bundles of `o` are under `g`. -/
def OfprotoSai.bundlesBy {γ : Type} (o : OfprotoSai) (g : OfbundleSai → γ) (b : BundlePtr) :
    Option γ :=
  (o.bundles.lookup b).map g

theorem setBundle_bundlesBy {γ : Type} {g : OfbundleSai → γ} {o : OfprotoSai} {b : BundlePtr}
    {bundle bundle' : OfbundleSai} (hb : o.bundles.lookup b = some bundle)
    (hg : g bundle' = g bundle) : (o.setBundle b bundle').bundlesBy g = o.bundlesBy g := by
  funext b'
  simp only [OfprotoSai.bundlesBy, setBundle_lookup]
  split
  next h => subst h; simp [hb, hg]
  next => rfl

/-- `o'` differs from `o` at most in the VLAN settings of bundles and the ports of the hardware. -/
structure SameButVlan (o o' : OfprotoSai) : Prop where
  type : o'.type = o.type
  vrid : o'.vrid = o.vrid
  ofports : o'.ofports = o.ofports
  bundles : o'.bundlesBy OfbundleSai.butVlan = o.bundlesBy OfbundleSai.butVlan
  hw : Hw.Same Hw.l3 o.hw o'.hw

instance : IsPreorder OfprotoSai SameButVlan where
  refl _ := ⟨rfl, rfl, rfl, rfl, refl_of _ _⟩
  trans _ _ _ h h' := ⟨h'.type.trans h.type, h'.vrid.trans h.vrid, h'.ofports.trans h.ofports,
    h'.bundles.trans h.bundles, trans_of _ h.hw h'.hw⟩

/-- `o'` differs from `o` at most in the addresses of bundles and in routes that are not local. -/
structure SameButIp (o o' : OfprotoSai) : Prop where
  type : o'.type = o.type
  vrid : o'.vrid = o.vrid
  ofports : o'.ofports = o.ofports
  bundles : o'.bundlesBy OfbundleSai.butIp = o.bundlesBy OfbundleSai.butIp
  hw : Hw.NoLocalAdded o.hw o'.hw

instance : IsPreorder OfprotoSai SameButIp where
  refl _ := ⟨rfl, rfl, rfl, rfl, refl_of _ _⟩
  trans _ _ _ h h' := ⟨h'.type.trans h.type, h'.vrid.trans h.vrid, h'.ofports.trans h.ofports,
    h'.bundles.trans h.bundles, trans_of _ h.hw h'.hw⟩

/-- `o'` differs from `o` at most in the router interfaces and local routes of bundles, the handles
of netdevs, and the tables of the hardware behind them. -/
structure SameButRif (o o' : OfprotoSai) : Prop where
  type : o'.type = o.type
  vrid : o'.vrid = o.vrid
  ofports : ∀ p, (o'.ofports p).map OfportSai.butRif = (o.ofports p).map OfportSai.butRif
  bundles : o'.bundlesBy OfbundleSai.butRif = o.bundlesBy OfbundleSai.butRif
  hw : Hw.Same Hw.l2 o.hw o'.hw

instance : IsPreorder OfprotoSai SameButRif where
  refl _ := ⟨rfl, rfl, fun _ => rfl, rfl, refl_of _ _⟩
  trans _ _ _ h h' := ⟨h'.type.trans h.type, h'.vrid.trans h.vrid,
    fun p => (h'.ofports p).trans (h.ofports p), h'.bundles.trans h.bundles, trans_of _ h.hw h'.hw⟩

/-! ### VLANs -/

theorem onHw_sameButVlan {α : Type} {m : Exec Hw α} (h : Rel (Hw.Same Hw.l3) m) :
    Rel SameButVlan (onHw m) :=
  onHw_rel fun _ a hw hm => ⟨rfl, rfl, rfl, rfl, h _ a hw hm⟩

theorem forEachPort_sameButVlan {ports : List OfpPort} {f : Nat → Exec Hw Int}
    (h : ∀ hwId, Rel (Hw.Same Hw.l3) (f hwId)) : Rel SameButVlan (forEachPort ports f) :=
  Rel.forEach fun p => (ofport_rel p).bind fun _ => onHw_sameButVlan (h _)

theorem vlanReconfigure_sameButVlan {b : BundlePtr} {s : OfprotoBundleSettings} :
    Rel SameButVlan (vlanReconfigure b s) := by
  refine (ofbundle_rel b).bind fun bundle => (Rel.require _ _).bind fun _ => ?_
  refine (forEachPort_sameButVlan fun _ => vlanPortLeave_l3).thenOk ?_
  refine (forEachPort_sameButVlan fun _ => vlanPortJoin_l3).thenOk ?_
  refine Rel.bind (modifyBundle_rel fun o bundle hb => ?_) fun _ => Rel.pure _
  refine ⟨rfl, rfl, rfl, setBundle_bundlesBy hb ?_, refl_of _ _⟩
  unfold OfbundleSai.trunksRealloc
  split <;> rfl

/-! ### IP addresses -/

section
variable {b : BundlePtr} {s : OfprotoBundleSettings} {isIpv6 ipv6Prefix : Bool} {ip : String}

theorem onHw_sameButIp {α : Type} {m : Exec Hw α} (h : Rel Hw.NoLocalAdded m) :
    Rel SameButIp (onHw m) :=
  onHw_rel fun _ a hw hm => ⟨rfl, rfl, rfl, rfl, h _ a hw hm⟩

theorem modifyBundle_sameButIp {f : OfbundleSai → OfbundleSai} (h : ∀ x, (f x).butIp = x.butIp) :
    Rel SameButIp (modifyBundle b f) :=
  modifyBundle_rel fun _ bundle hb =>
    ⟨rfl, rfl, rfl, setBundle_bundlesBy hb (h bundle), refl_of _ _⟩

theorem walkTable_sameButIp {α : Type} {table : List α} : Rel SameButIp (walkTable table) :=
  (onHw_sameButIp Hw.choose_noLocalAdded).bind fun _ => Rel.pure _

theorem setPrimary_sameButIp {new : Option String} :
    Rel SameButIp (modifyBundle b (OfbundleSai.setPrimary isIpv6 new)) :=
  modifyBundle_sameButIp fun _ => by cases isIpv6 <;> rfl

theorem setSecondary_sameButIp {f : OfbundleSai → List String} :
    Rel SameButIp (modifyBundle b fun bundle => bundle.setSecondary isIpv6 (f bundle)) :=
  modifyBundle_sameButIp fun _ => by cases isIpv6 <;> rfl

variable [OvsLib] [Build]

omit [Build] in
theorem ofprotoIpAdd_sameButIp : Rel SameButIp (ofprotoIpAdd ip isIpv6) :=
  ofprotoIpPrefix_rel.bind fun _ => (Rel.gets _).bind fun _ =>
    onHw_sameButIp routeIpToMeAdd_noLocalAdded

theorem ofprotoIpRemove_sameButIp : Rel SameButIp (ofprotoIpRemove ip isIpv6) :=
  ofprotoIpPrefix_rel.bind fun _ => (Rel.gets _).bind fun _ =>
    onHw_sameButIp routeRemove_noLocalAdded

/-- The prefix of the host route of an address. -/
def ipHostRoute (ip : String) (isIpv6 : Bool) : Option SxIpPrefix :=
  opsSaiCommonIpPrefixToSxIpPrefix (ipHostPrefix ip isIpv6)

omit [OvsLib] [Build] in
theorem ofprotoIpPrefix_ok {pfx : String} (h : ofprotoIpPrefix ip isIpv6 o = .ok (pfx, o')) :
    pfx = ipHostPrefix ip isIpv6 ∧ o' = o := by
  unfold ofprotoIpPrefix at h
  obtain ⟨-, h⟩ := require_bind.mp h
  obtain ⟨-, h⟩ := require_bind.mp h
  obtain ⟨-, h⟩ := require_bind.mp h
  cases h
  exact ⟨rfl, rfl⟩

omit [Build] in
theorem ofprotoIpAdd_hw (h : ofprotoIpAdd ip isIpv6 o = .ok (0, o')) :
    ∃ pfx, ipHostRoute ip isIpv6 = some pfx ∧
      o' = { o with hw := o.hw.tick.setRoute o.vrid pfx (some .ip2me) } := by
  obtain ⟨pfx, o₁, hprefix, hrun⟩ := bind_ok.mp h
  obtain ⟨rfl, rfl⟩ := ofprotoIpPrefix_ok hprefix
  obtain ⟨hw, hadd, rfl⟩ := onHw_ok.mp hrun
  obtain ⟨sxPrefix, hpfx, rfl⟩ := opsSaiRouteIpToMeAdd_ok hadd
  exact ⟨sxPrefix, hpfx, rfl⟩

theorem ofprotoIpRemove_hw (h : ofprotoIpRemove ip isIpv6 o = .ok (0, o')) :
    ∃ pfx, ipHostRoute ip isIpv6 = some pfx ∧
      o' = { o with hw := o.hw.tick.setRoute o.vrid pfx none } := by
  obtain ⟨pfx, o₁, hprefix, hrun⟩ := bind_ok.mp h
  obtain ⟨rfl, rfl⟩ := ofprotoIpPrefix_ok hprefix
  obtain ⟨hw, hremove, rfl⟩ := onHw_ok.mp hrun
  obtain ⟨sxPrefix, hpfx, rfl⟩ := opsSaiRouteRemove_ok hremove
  exact ⟨sxPrefix, hpfx, rfl⟩

omit [Build] in
theorem ofprotoIpAdd_failed {st : Int} (h : ofprotoIpAdd ip isIpv6 o = .ok (st, o'))
    (h0 : st ≠ 0) : ∃ hw, hw.routes = o.hw.routes ∧ o' = { o with hw := hw } := by
  obtain ⟨pfx, o₁, hprefix, hrun⟩ := bind_ok.mp h
  obtain ⟨rfl, rfl⟩ := ofprotoIpPrefix_ok hprefix
  obtain ⟨hw, hadd, rfl⟩ := onHw_ok.mp hrun
  exact ⟨hw, opsSaiRouteIpToMeAdd_failed hadd h0, rfl⟩

theorem ofprotoIpRemove_failed {st : Int} (h : ofprotoIpRemove ip isIpv6 o = .ok (st, o'))
    (h0 : st ≠ 0) : ∃ hw, hw.routes = o.hw.routes ∧ o' = { o with hw := hw } := by
  obtain ⟨pfx, o₁, hprefix, hrun⟩ := bind_ok.mp h
  obtain ⟨rfl, rfl⟩ := ofprotoIpPrefix_ok hprefix
  obtain ⟨hw, hremove, rfl⟩ := onHw_ok.mp hrun
  exact ⟨hw, opsSaiRouteRemove_failed hremove h0, rfl⟩

theorem ipPrimaryReconfigure_sameButIp {new : Option String} :
    Rel SameButIp (ipPrimaryReconfigure b isIpv6 new) := by
  refine (ofbundle_rel b).bind fun bundle => Rel.thenOk ?_ ?_
  · split
    next =>
      exact (Rel.pure _).ite
        (Rel.thenOk ofprotoIpRemove_sameButIp (Rel.bind setPrimary_sameButIp fun _ => Rel.pure _))
    next => exact Rel.pure _
  · split
    next =>
      exact Rel.thenOk ofprotoIpAdd_sameButIp (Rel.bind setPrimary_sameButIp fun _ => Rel.pure _)
    next => exact Rel.pure _

theorem ipSecondaryRemove_sameButIp : Rel SameButIp (ipSecondaryRemove b isIpv6 ipv6Prefix ip) :=
  Rel.thenOk ofprotoIpRemove_sameButIp (Rel.bind setSecondary_sameButIp fun _ => Rel.pure _)

omit [Build] in
theorem ipSecondaryAdd_sameButIp : Rel SameButIp (ipSecondaryAdd b isIpv6 ip) :=
  Rel.thenOk ofprotoIpAdd_sameButIp (Rel.bind setSecondary_sameButIp fun _ => Rel.pure _)

theorem ofbundleIpSecondaryReconfigure_sameButIp :
    Rel SameButIp (ofbundleIpSecondaryReconfigure b s isIpv6) := by
  refine (ofbundle_rel b).bind fun _ => Rel.bind walkTable_sameButIp fun _ =>
    Rel.bind walkTable_sameButIp fun _ => Rel.thenOk ?_ ?_
  · exact Rel.forEach fun _ => (Rel.pure _).ite ipSecondaryRemove_sameButIp
  · exact Rel.forEach fun _ => (ofbundle_rel b).bind fun _ =>
      (Rel.pure _).ite ipSecondaryAdd_sameButIp

theorem ofbundleIpReconfigure_sameButIp : Rel SameButIp (ofbundleIpReconfigure b s) :=
  ofbundleIpReconfigure_rel (fun _ _ => ipPrimaryReconfigure_sameButIp)
    fun _ => ofbundleIpSecondaryReconfigure_sameButIp

theorem ipPrimaryRemove_sameButIp : Rel SameButIp (ipPrimaryRemove b isIpv6) := by
  refine (ofbundle_rel b).bind fun _ => ?_
  split
  next => exact ofprotoIpRemove_sameButIp
  next => exact Rel.pure _

theorem ipSecondaryRemoveAll_sameButIp : Rel SameButIp (ipSecondaryRemoveAll b isIpv6) :=
  (ofbundle_rel b).bind fun _ => Rel.bind walkTable_sameButIp fun _ =>
    Rel.forEach fun _ => ipSecondaryRemove_sameButIp

theorem ofbundleIpRemove_sameButIp : Rel SameButIp (ofbundleIpRemove b) :=
  Rel.thenOk ipPrimaryRemove_sameButIp <| Rel.thenOk ipPrimaryRemove_sameButIp <|
  Rel.thenOk ipSecondaryRemoveAll_sameButIp ipSecondaryRemoveAll_sameButIp

end

/-! ### The router interface -/

section
variable {b : BundlePtr} {s : OfprotoBundleSettings} {rifType : RouterIntfType} {handle : Nat}
  {enable : Bool}

theorem onHw_sameButRif {α : Type} {m : Exec Hw α} (h : Rel (Hw.Same Hw.l2) m) :
    Rel SameButRif (onHw m) :=
  onHw_rel fun _ a hw hm => ⟨rfl, rfl, fun _ => rfl, rfl, h _ a hw hm⟩

theorem modifyBundle_sameButRif {f : OfbundleSai → OfbundleSai}
    (h : ∀ x, (f x).butRif = x.butRif) : Rel SameButRif (modifyBundle b f) :=
  modifyBundle_rel fun _ bundle hb =>
    ⟨rfl, rfl, fun _ => rfl, setBundle_bundlesBy hb (h bundle), refl_of _ _⟩

theorem setRouterIntfHandle_sameButRif {p : OfpPort} {rifHandle : Option BundlePtr} :
    Rel SameButRif (netdevSaiSetRouterIntfHandle p rifHandle) := by
  refine (ofport_rel p).bind fun _ => (Rel.require _ _).bind fun _ => ?_
  refine Rel.bind (modifyPort_rel fun o port hp => ⟨rfl, rfl, fun q => ?_, rfl, refl_of _ _⟩)
    fun _ => Rel.pure _
  rw [setPort_ofports]
  split
  next h =>
    subst h
    rw [hp]
    rfl
  next => rfl

theorem routerIntfEnable_sameButRif : Rel SameButRif (routerIntfEnable b enable) :=
  routerIntfEnable_rel (fun _ => onHw_sameButRif routerIntfSetState_l2)
    (modifyBundle_sameButRif fun _ => rfl)

theorem routerIntfCreate_sameButRif : Rel SameButRif (routerIntfCreate b rifType handle) := by
  refine (ofbundle_rel b).bind fun _ => (Rel.gets _).bind fun _ => ?_
  refine (onHw_sameButRif routerIntfCreate_l2).bind fun _ => (Rel.pure _).ite ?_
  refine Rel.bind (modifyBundle_sameButRif fun _ => rfl) fun _ => ?_
  exact Rel.forEach fun _ => setRouterIntfHandle_sameButRif

variable [OvsLib] [Build]

theorem localRoutesRemove_sameButRif : Rel SameButRif (localRoutesRemove b) := by
  refine (ofbundle_rel b).bind fun _ => (Rel.gets _).bind fun _ => ?_
  refine Rel.bind (Rel.bind (onHw_sameButRif choose_l2) fun _ => Rel.pure _) fun _ => ?_
  refine Rel.forEach fun _ => Rel.thenOk (onHw_sameButRif ?_) ?_
  · exact Rel.mono (fun _ _ => Hw.NoLocalAdded.l2) routeRemove_noLocalAdded
  · exact Rel.bind (modifyBundle_sameButRif fun _ => rfl) fun _ => Rel.pure _

theorem ofbundleRouterIntfRemove_sameButRif : Rel SameButRif (ofbundleRouterIntfRemove b) := by
  refine Rel.thenOk localRoutesRemove_sameButRif ((ofbundle_rel b).bind fun _ => ?_)
  refine Rel.ite ?_ (Rel.pure _)
  refine (Rel.forEach fun _ => setRouterIntfHandle_sameButRif).thenOk ?_
  refine (onHw_sameButRif routerIntfRemove_l2).thenOk ?_
  exact Rel.bind (modifyBundle_sameButRif fun _ => rfl) fun _ => Rel.pure _

theorem routerIntfApply_sameButRif :
    Rel SameButRif (routerIntfApply b rifType handle enable) :=
  routerIntfApply_rel ofbundleRouterIntfRemove_sameButRif routerIntfCreate_sameButRif
    routerIntfEnable_sameButRif

theorem ofbundleRouterIntfReconfigure_sameButRif :
    Rel SameButRif (ofbundleRouterIntfReconfigure b s) :=
  ofbundleRouterIntfReconfigure_rel (fun _ _ => routerIntfApply_sameButRif)
    (modifyBundle_sameButRif fun _ => rfl)

end

end SwitchdSai
