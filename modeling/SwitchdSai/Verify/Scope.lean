import SwitchdSai.Lib.Tenancy
import SwitchdSai.Verify.Memberships

/-!
# What a call into the hardware leaves alone

Router interfaces and virtual routers are resources with a content. A function that works for the
virtual router `vrid` leaves the interfaces that existed before it as they were, apart from the one
it is called for, and the routes of every other virtual router. A function on a port leaves every
other port object as it was.
-/

namespace SwitchdSai

open Exec

/-- What is owned by one ofproto. -/
inductive Resource where
  | rif (rifid : Nat)
  | router (vrid : Nat)
  deriving DecidableEq

inductive ResourceContent where
  | rif (intf : HwRouterIntf) (neighbors : SxIpAddr → Option EthAddr) (entry : Option RifEntry)
  | router (routes : SxIpPrefix → Option HwRoute)

/-- An interface with its neighbors and its entry, or the routes of a virtual router. -/
def Hw.content (hw : Hw) : Resource → Option ResourceContent
  | .rif rifid => (hw.routerIntfs.lookup rifid).map fun intf =>
      .rif intf (hw.neighbors rifid) (hw.routerIntfEntryFind rifid)
  | .router vrid => some (.router (hw.routes vrid))

variable {hw hw' : Hw} {st : Int} {vrid rif rifHandle handle : Nat} {type : RouterIntfType}

theorem content_rif_isSome : (hw.content (.rif rif)).isSome ↔ rif ∈ hw.routerIntfs := by
  rw [Hw.content, Option.isSome_map, AList.lookup_isSome]

theorem content_rif_of_eq (hi : hw'.routerIntfs.lookup rif = hw.routerIntfs.lookup rif)
    (hn : hw'.neighbors rif = hw.neighbors rif)
    (he : hw'.routerIntfEntryFind rif = hw.routerIntfEntryFind rif) :
    hw'.content (.rif rif) = hw.content (.rif rif) := by
  simp only [Hw.content, hi, hn, he]

theorem content_router_of_eq (h : hw'.routes vrid = hw.routes vrid) :
    hw'.content (.router vrid) = hw.content (.router vrid) := by
  simp only [Hw.content, h]

/-! ## Router interfaces -/

/-- Every interface of `hw'` is one of the virtual router `vrid`, or of the one it was of before. -/
def Hw.VridsFrom (vrid : Nat) (hw hw' : Hw) : Prop :=
  ∀ rif intf, hw'.routerIntfs.lookup rif = some intf →
    intf.vrid = vrid ∨ ∃ old, hw.routerIntfs.lookup rif = some old ∧ old.vrid = intf.vrid

instance : IsPreorder Hw (Hw.VridsFrom vrid) where
  refl _ _ intf h := .inr ⟨intf, h, rfl⟩
  trans _ _ _ h h' rif intf hi := by
    rcases h' rif intf hi with hv | ⟨old, ho, hv⟩
    · exact .inl hv
    · rw [← hv]
      exact h rif old ho

/-- The interfaces in `S` are as they were, and the others are of the virtual router `vrid` or of
the one they were of before; ports and routes are the same. -/
structure Hw.RifsWithin (S : Nat → Prop) (vrid : Nat) (hw hw' : Hw) : Prop where
  l2 : hw'.l2 = hw.l2
  routes : hw'.routes = hw.routes
  kept : ∀ rif, S rif → rif ∈ hw.routerIntfs → hw'.content (.rif rif) = hw.content (.rif rif)
  vrids : hw.VridsFrom vrid hw'

section
variable {S : Nat → Prop}

instance : IsPreorder Hw (Hw.RifsWithin S vrid) where
  refl _ := ⟨rfl, rfl, fun _ _ _ => rfl, refl_of _ _⟩
  trans _ _ _ h h' := by
    refine ⟨h'.l2.trans h.l2, h'.routes.trans h.routes, fun rif hS hin => ?_,
      trans_of _ h.vrids h'.vrids⟩
    have hkept := h.kept rif hS hin
    have hin' := content_rif_isSome.1 (hkept ▸ content_rif_isSome.2 hin)
    exact (h'.kept rif hS hin').trans hkept

theorem rifsWithin_of_eq (h2 : hw'.l2 = hw.l2) (hr : hw'.routes = hw.routes)
    (hi : hw'.routerIntfs = hw.routerIntfs) (hn : hw'.neighbors = hw.neighbors)
    (he : hw'.allRouterIntf = hw.allRouterIntf) : hw.RifsWithin S vrid hw' := by
  refine ⟨h2, hr, fun rif _ _ => content_rif_of_eq (by rw [hi]) (by rw [hn]) ?_, ?_⟩
  · unfold Hw.routerIntfEntryFind
    rw [he]
  · intro rif intf h
    exact .inr ⟨intf, hi ▸ h, rfl⟩

theorem sxCall_within : Rel (Hw.RifsWithin S vrid) sxCall :=
  Hw.callIf_rel (fun _ => rifsWithin_of_eq rfl rfl rfl rfl rfl)
    fun _ => rifsWithin_of_eq rfl rfl rfl rfl rfl

theorem intfParamsIfc_within : Rel (Hw.RifsWithin S vrid) (intfParamsIfc type handle) := by
  cases type with
  | port =>
    exact (Rel.gets _).bind fun _ => Rel.bind sxCall_within fun _ => (Rel.require _ _).bind fun _ =>
      Rel.pure _
  | vlan => exact Rel.pure _

/-- Changing an interface outside `S`, but not its virtual router. -/
theorem insert_within {intf old : HwRouterIntf} (hS : ¬S rif)
    (hold : hw.routerIntfs.lookup rif = some old) (hv : intf.vrid = old.vrid) :
    hw.RifsWithin S vrid { hw with routerIntfs := hw.routerIntfs.insert rif intf } := by
  refine ⟨rfl, rfl, fun r hr _ => content_rif_of_eq ?_ rfl rfl, fun r intf' h => .inr ?_⟩
  · exact AList.lookup_insert_ne fun h => hS (h ▸ hr)
  · by_cases hrr : r = rif
    · subst hrr
      rw [AList.lookup_insert] at h
      cases h
      exact ⟨old, hold, hv.symm⟩
    · rw [AList.lookup_insert_ne hrr] at h
      exact ⟨intf', h, rfl⟩

theorem bindCounter_within {counter : Option Nat} (hS : ¬S rif) (hw : Hw) :
    hw.RifsWithin S vrid (hw.bindCounter rif counter) := by
  unfold Hw.bindCounter
  split
  next r hr => exact insert_within hS hr rfl
  next => exact refl_of _ _

theorem tick_within (hw : Hw) : hw.RifsWithin S vrid hw.tick :=
  rifsWithin_of_eq rfl rfl rfl rfl rfl

theorem callIf_within {valid : Hw → Bool} {effect : Hw → Hw}
    (h : ∀ hw : Hw, hw.RifsWithin S vrid (effect hw)) :
    Rel (Hw.RifsWithin S vrid) (Hw.callIf valid effect) :=
  Hw.callIf_rel tick_within fun hw => trans_of _ (tick_within hw) (h hw.tick)

/-- Adding an interface under a new id. -/
theorem sxRouterInterfaceAdd_within {ifc : Nat} {status : SaiStatus}
    (h : sxRouterInterfaceAdd vrid type ifc hw = .ok ((status, rif), hw')) :
    rif ∉ hw.routerIntfs ∧ hw.RifsWithin S vrid hw' := by
  have hfresh := (sxRouterInterfaceAdd_ok h).1
  refine ⟨hfresh, ?_⟩
  obtain ⟨n, hw₁, h₁, h⟩ := bind_ok.mp h
  cases h₁
  rw [gets_bind] at h
  obtain ⟨status, hw₂, h₂, hend⟩ := bind_ok.mp h
  cases hend
  rcases Hw.call_cases h₂ with ⟨-, rfl⟩ | ⟨-, rfl⟩
  · refine ⟨rfl, rfl, fun r _ hin => content_rif_of_eq ?_ rfl rfl, fun r intf hi => ?_⟩
    · exact AList.lookup_insert_ne fun h => hfresh (h ▸ hin)
    · by_cases hr : r = fresh (hw.choices.headD 0) hw.routerIntfs.keys
      · subst hr
        have hi := (AList.lookup_insert _).symm.trans hi
        cases hi
        exact .inl rfl
      · exact .inr ⟨intf, (AList.lookup_insert_ne hr).symm.trans hi, rfl⟩
  · exact rifsWithin_of_eq rfl rfl rfl rfl rfl

theorem sxRouterCounterCreate_within : Rel (Hw.RifsWithin S vrid) sxRouterCounterCreate := by
  refine Rel.bind ?_ fun _ => (Rel.gets _).bind fun _ => Rel.bind ?_ fun _ => Rel.pure _
  · intro hw n hw' h
    cases h
    exact rifsWithin_of_eq rfl rfl rfl rfl rfl
  · exact callIf_within fun _ => rifsWithin_of_eq rfl rfl rfl rfl rfl

/-- A creation leaves every interface there was as it was. -/
theorem opsSaiRouterIntfCreate_within :
    Rel (fun hw hw' => hw.RifsWithin (· ∈ hw.routerIntfs) vrid hw')
      (opsSaiRouterIntfCreate vrid type handle rifHandle) := by
  intro hw r hw' h
  obtain ⟨ifc, hw₁, h₁, h⟩ := bind_ok.mp h
  obtain ⟨s₂, hw₂, h₂, h⟩ := bind_ok.mp h
  have hwithin₂ : hw.RifsWithin (· ∈ hw.routerIntfs) vrid hw₂ :=
    trans_of _ (intfParamsIfc_within _ _ _ h₁) (sxCall_within _ _ _ h₂)
  rcases orError_ok h with ⟨-, hend⟩ | ⟨-, h⟩
  · cases hend
    exact hwithin₂
  obtain ⟨⟨s₃, rif⟩, hw₃, h₃, h⟩ := bind_ok.mp h
  obtain ⟨hfresh, hwithin₃⟩ := sxRouterInterfaceAdd_within h₃
  -- an interface there was is there still, so that the new one is another
  have hnew : ¬rif ∈ hw.routerIntfs := fun hin => hfresh <| content_rif_isSome.1 <| by
    rw [hwithin₂.kept rif hin hin]
    exact content_rif_isSome.2 hin
  refine trans_of _ (trans_of _ hwithin₂ hwithin₃) ?_
  refine Rel.ite (Rel.pure _) ?_ _ _ _ h
  refine Rel.bind sxRouterCounterCreate_within fun _ => (Rel.pure _).ite ?_
  refine Rel.bind (callIf_within (bindCounter_within hnew)) fun _ => (Rel.pure _).ite ?_
  refine (Rel.gets _).bind fun _ => (Rel.require _ _).bind fun _ => Rel.bind ?_ fun _ => Rel.pure _
  refine Rel.modify fun hw => ⟨rfl, rfl, fun r hr _ => content_rif_of_eq rfl rfl ?_, ?_⟩
  · exact List.find?_cons_of_neg (by simpa using fun h : rif = r => hnew (h ▸ hr))
  · exact fun r intf hi => .inr ⟨intf, hi, rfl⟩

theorem entryDel_within (hS : ¬S rif) (hw : Hw) :
    hw.RifsWithin S vrid (hw.routerIntfEntryDel rif) := by
  refine ⟨rfl, rfl, fun r hr _ => content_rif_of_eq rfl rfl ?_,
    fun r intf hi => .inr ⟨intf, hi, rfl⟩⟩
  have hne : r ≠ rif := fun h => hS (h ▸ hr)
  show List.find? _ (List.eraseP _ _) = _
  unfold Hw.routerIntfEntryFind
  induction hw.allRouterIntf with
  | nil => rfl
  | cons e es ih =>
    by_cases he : e.rifId = rif
    · rw [List.eraseP_cons_of_pos (by simpa using he), List.find?_cons_of_neg]
      simpa [he] using hne.symm
    · rw [List.eraseP_cons_of_neg (by simpa using he)]
      by_cases her : e.rifId = r
      · simp only [List.find?_cons, her, decide_true]
      · simp only [List.find?_cons, her, decide_false, ih]

/-- A removal leaves every other interface as it was. -/
theorem opsSaiRouterIntfRemove_within (hS : ¬S rifHandle) :
    Rel (Hw.RifsWithin S vrid) (opsSaiRouterIntfRemove rifHandle) := by
  intro hw st hw' h
  rw [opsSaiRouterIntfRemove, gets_bind] at h
  obtain ⟨e, he, h⟩ := need_bind.mp h
  have hid : e.rifId = rifHandle := of_decide_eq_true (List.find?_some he :)
  rw [hid] at h
  refine Rel.bind (callIf_within (bindCounter_within hS)) (fun _ => (Rel.pure _).ite ?_) _ _ _ h
  refine Rel.bind (callIf_within fun _ => rifsWithin_of_eq rfl rfl rfl rfl rfl) fun _ =>
    (Rel.pure _).ite ?_
  refine Rel.bind (callIf_within fun _ => refl_of _ _) fun _ => (Rel.pure _).ite ?_
  refine Rel.bind (callIf_within fun hw => ?_) fun _ => (Rel.pure _).ite ?_
  · refine ⟨rfl, rfl, fun r hr _ => ?_, fun r intf hi => .inr ⟨intf, ?_, rfl⟩⟩
    · have hne : r ≠ rifHandle := fun h => hS (h ▸ hr)
      exact content_rif_of_eq (AList.lookup_erase_ne hne) (Function.update_of_ne hne ..) rfl
    · by_cases hne : r = rifHandle
      · subst hne
        cases (AList.lookup_erase _ _).symm.trans hi
      · exact (AList.lookup_erase_ne hne).symm.trans hi
  · exact Rel.bind (Rel.modify (entryDel_within hS)) fun _ => Rel.pure _

theorem opsSaiRouterIntfSetState_within {state : Bool} (hS : ¬S rifHandle) :
    Rel (Hw.RifsWithin S vrid) (opsSaiRouterIntfSetState rifHandle state) := by
  intro hw st hw' h
  rw [opsSaiRouterIntfSetState, gets_bind] at h
  obtain ⟨e, he, h⟩ := need_bind.mp h
  have hid : e.rifId = rifHandle := of_decide_eq_true (List.find?_some he :)
  have hset : Rel (Hw.RifsWithin S vrid) (sxRouterInterfaceStateSet rifHandle state) := by
    refine callIf_within fun hw => ?_
    split
    next r hr => exact insert_within hS hr rfl
    next => exact refl_of _ _
  rw [hid] at h
  exact hset.bind (fun _ => Rel.pure _) _ _ _ h

end

/-! ## Routes -/

/-- The routes of the other virtual routers. -/
def Hw.otherRoutes (vrid : Nat) (hw : Hw) (v : { v // v ≠ vrid }) : SxIpPrefix → Option HwRoute :=
  hw.routes v

/-- Only routes of the virtual router `vrid` have changed, and the local ones among those that are
new go through interfaces in `S`. -/
structure Hw.RoutesWithin (S : Nat → Prop) (vrid : Nat) (hw hw' : Hw) : Prop where
  same : hw'.butRoutes = hw.butRoutes
  others : hw'.otherRoutes vrid = hw.otherRoutes vrid
  locals : ∀ pfx rif, hw'.routes vrid pfx = some (.local rif) →
    hw.routes vrid pfx = some (.local rif) ∨ S rif

section
variable {S : Nat → Prop} {pfx : String} {nextHops : List String}

instance : IsPreorder Hw (Hw.RoutesWithin S vrid) where
  refl _ := ⟨rfl, rfl, fun _ _ => .inl⟩
  trans _ _ _ h h' := by
    refine ⟨h'.same.trans h.same, h'.others.trans h.others, fun pfx rif hr => ?_⟩
    exact (h'.locals pfx rif hr).elim (h.locals pfx rif) .inr

theorem Hw.RoutesWithin.other (h : hw.RoutesWithin S vrid hw') {v : Nat} (hv : v ≠ vrid) :
    hw'.routes v = hw.routes v := congrFun h.others ⟨v, hv⟩

theorem setRoute_others {sxPrefix : SxIpPrefix} {route : Option HwRoute} (hw : Hw) :
    (hw.setRoute vrid sxPrefix route).otherRoutes vrid = hw.otherRoutes vrid := by
  funext v sxPrefix'
  exact (Hw.setRoute_routes ..).trans (if_neg fun h => v.2 h.1)

theorem callIf_setRoute_others {sxPrefix : SxIpPrefix} (valid : Hw → Bool)
    (route : Hw → Option HwRoute) : Frame (Hw.otherRoutes vrid)
      (Hw.callIf valid fun hw => hw.setRoute vrid sxPrefix (route hw)) := fun hw _ hw' h => by
  rcases Hw.callIf_cases h with ⟨-, -, rfl⟩ | ⟨-, rfl⟩
  · exact setRoute_others hw.tick
  · rfl

theorem routesWithin_of (ho : hw'.otherRoutes vrid = hw.otherRoutes vrid)
    (hno : hw.NoLocalAdded hw') : hw.RoutesWithin S vrid hw' :=
  ⟨hno.same.1, ho, fun pfx rif hr => .inl (hno.locals vrid pfx rif hr)⟩

variable [OvsLib] [Build]

theorem routeRemoteAction_others {action : SxAccessCmd} :
    Frame (Hw.otherRoutes vrid) (routeRemoteAction vrid pfx nextHops action) := by
  unfold routeRemoteAction
  split
  next => exact Rel.pure _
  next sxPrefix _ =>
    split
    next => exact Rel.pure _
    next =>
      refine (Rel.halt _).ite ?_
      cases action with
      | add => exact callIf_setRoute_others (fun _ => true) fun _ => some (.nextHop _)
      | delete => exact callIf_setRoute_others _ fun hw => (hw.routes vrid sxPrefix).bind _

theorem routeRemoteAction_within {action : SxAccessCmd} :
    Rel (Hw.RoutesWithin S vrid) (routeRemoteAction vrid pfx nextHops action) := fun _ _ _ h =>
  routesWithin_of (routeRemoteAction_others _ _ _ h) (routeRemoteAction_noLocalAdded _ _ _ h)

theorem opsSaiRouteRemove_within : Rel (Hw.RoutesWithin S vrid) (opsSaiRouteRemove vrid pfx) :=
  Rel.bind routeRemoteAction_within fun _ => Rel.pure _

omit [OvsLib] [Build] in
theorem sxUcRouteAdd_within {sxPrefix : SxIpPrefix} {route : HwRoute}
    (hroute : ∀ rif, route = .local rif → S rif) :
    Rel (Hw.RoutesWithin S vrid) (sxUcRouteAdd vrid sxPrefix route) := by
  refine Hw.callIf_rel (fun _ => ⟨rfl, rfl, fun _ _ => .inl⟩) fun hw => ?_
  refine ⟨rfl, setRoute_others hw.tick, fun pfx rif hr => ?_⟩
  rw [Hw.setRoute_routes] at hr
  split at hr
  next => exact .inr (hroute rif (Option.some.inj hr))
  next => exact .inl hr

omit [Build] in
theorem opsSaiRouteIpToMeAdd_within :
    Rel (Hw.RoutesWithin S vrid) (opsSaiRouteIpToMeAdd vrid pfx) := by
  unfold opsSaiRouteIpToMeAdd
  split
  next => exact Rel.pure _
  next => exact Rel.bind (sxUcRouteAdd_within fun _ h => by cases h) fun _ => Rel.pure _

omit [Build] in
theorem opsSaiRouteLocalAdd_within (hS : S rif) :
    Rel (Hw.RoutesWithin S vrid) (opsSaiRouteLocalAdd vrid pfx rif) := by
  unfold opsSaiRouteLocalAdd
  split
  next => exact Rel.pure _
  next =>
    refine Rel.bind (sxUcRouteAdd_within fun r h => ?_) fun _ => Rel.pure _
    cases h
    exact hS

end

/-! ## Ports -/

/-- Only the object of the port with the label `hwId` has changed. -/
structure Hw.PortWithin (hwId : Nat) (hw hw' : Hw) : Prop where
  oid : hw'.opsSaiApiHwId2PortId = hw.opsSaiApiHwId2PortId
  others : ∀ oid, oid ≠ hw.opsSaiApiHwId2PortId hwId → hw'.ports oid = hw.ports oid

section
variable {hwId : Nat} {vid : Nat} {mode : SaiVlanTaggingMode} {add changed : Bool}
  {trunks : VlanBitmap}

instance : IsPreorder Hw (Hw.PortWithin hwId) where
  refl _ := ⟨rfl, fun _ _ => rfl⟩
  trans _ _ _ h h' := ⟨h'.oid.trans h.oid, fun oid hne =>
    (h'.others oid (by rwa [h.oid])).trans (h.others oid hne)⟩

/-- A call that sets attributes of the object. -/
theorem setPort_within {f : HwPort → HwPort} {k : SaiStatus → Exec Hw Int}
    (hk : ∀ status, Rel (Hw.PortWithin hwId) (k status)) :
    Rel (Hw.PortWithin hwId) (do
      let portId ← gets fun hw => hw.opsSaiApiHwId2PortId hwId
      let status ← Hw.call (Hw.setPort portId f)
      k status) := by
  intro hw st hw' h
  rw [gets_bind] at h
  obtain ⟨status, hw₁, hcall, h⟩ := bind_ok.mp h
  refine trans_of _ ?_ (hk status _ _ _ h)
  rcases Hw.call_cases hcall with ⟨-, rfl⟩ | ⟨-, rfl⟩
  · exact ⟨rfl, fun oid hne => Function.update_of_ne hne ..⟩
  · exact ⟨rfl, fun _ _ => rfl⟩

theorem setHwIdAttr_within {attr : SaiPortAttr} :
    Rel (Hw.PortWithin hwId) (setHwIdAttr hwId attr) :=
  setPort_within fun _ => Rel.pure _

theorem vlanPortSet_within : Rel (Hw.PortWithin hwId) (vlanPortSet vid hwId mode add) :=
  setPort_within fun _ => (Rel.pure _).ite ((Rel.pure _).ite setHwIdAttr_within)

theorem vlanParts_within : VlanParts (Rel (Hw.PortWithin hwId)) hwId add :=
  ⟨Rel.composes, fun _ _ => vlanPortSet_within, fun _ => setHwIdAttr_within⟩

theorem vlanPortLeave_within {bundle : OfbundleSai} :
    Rel (Hw.PortWithin hwId) (vlanPortLeave bundle changed trunks hwId) :=
  VlanParts.leave vlanParts_within (.inr (Rel.halt _))

theorem vlanPortJoin_within {s : OfprotoBundleSettings} :
    Rel (Hw.PortWithin hwId) (vlanPortJoin s changed trunks hwId) :=
  VlanParts.join vlanParts_within (.inr (Rel.halt _))

theorem portVlansJoin_within {bundle : OfbundleSai} :
    Rel (Hw.PortWithin hwId) (portVlansJoin bundle hwId) := VlanParts.joinAll vlanParts_within

theorem portVlansLeave_within {bundle : OfbundleSai} :
    Rel (Hw.PortWithin hwId) (portVlansLeave bundle hwId) := VlanParts.leaveAll vlanParts_within

end

end SwitchdSai
