import SwitchdSai.Verify.Success
import SwitchdSai.Verify.Rejected
import SwitchdSai.Verify.RifFollows

/-!
# The slaves of the settings

`__bundle_set` walks the slaves of the settings three times, and looks up each port by its number.
Two of its steps have no meaning for some settings: the read of the first slave when there are none,
and the access to the port of a slave that has no ofport. It is shown which settings lead to them.
-/

namespace SwitchdSai

open Exec OfprotoSai

/-- The reasons to stop that come from the slaves of the settings. -/
def SlaveFault (e : Halt) : Prop := e = .undefined "s->slaves[0]" ∨ e = .undefined "port"

instance : DecidablePred SlaveFault := fun _ => inferInstanceAs (Decidable (_ ∨ _))

/-! ## The hardware -/

section
variable {E : Halt → Prop} {vid hwId : Nat} {mode : SaiVlanTaggingMode} {add changed : Bool}
  {trunks : VlanBitmap}

theorem callIf_never {valid : Hw → Bool} {effect : Hw → Hw} : Never E (Hw.callIf valid effect) := by
  intro hw e he
  unfold Hw.callIf at he
  split at he
  · split at he <;> cases he
  · cases he

theorem choose_never : Never E Hw.choose := fun _ _ he => by cases he

theorem setHwIdAttr_never {attr : SaiPortAttr} : Never E (setHwIdAttr hwId attr) :=
  (Never.gets _).bind fun _ => Never.bind callIf_never fun _ => Never.pure _

theorem vlanPortSet_never : Never E (vlanPortSet vid hwId mode add) :=
  (Never.gets _).bind fun _ => Never.bind callIf_never fun _ =>
    (Never.pure _).ite ((Never.pure _).ite setHwIdAttr_never)

theorem vlanParts_never : VlanParts (Never E) hwId add :=
  ⟨Never.composes, fun _ _ => vlanPortSet_never, fun _ => setHwIdAttr_never⟩

theorem portVlansJoin_never {bundle : OfbundleSai} : Never E (portVlansJoin bundle hwId) :=
  VlanParts.joinAll vlanParts_never

theorem portVlansLeave_never {bundle : OfbundleSai} : Never E (portVlansLeave bundle hwId) :=
  VlanParts.leaveAll vlanParts_never

theorem vlanPortLeave_never {bundle : OfbundleSai} :
    Never SlaveFault (vlanPortLeave bundle changed trunks hwId) :=
  VlanParts.leave vlanParts_never (.inr (Never.halt (by decide)))

theorem vlanPortJoin_never {s : OfprotoBundleSettings} :
    Never SlaveFault (vlanPortJoin s changed trunks hwId) :=
  VlanParts.join vlanParts_never (.inr (Never.halt (by decide)))

variable {vrid handle rif : Nat} {rifType : RouterIntfType}

theorem intfParamsIfc_never : Never SlaveFault (intfParamsIfc rifType handle) := by
  cases rifType with
  | port =>
    exact (Never.gets _).bind fun _ => Never.bind callIf_never fun _ =>
      (Never.require (by decide)).bind fun _ => Never.pure _
  | vlan => exact Never.pure _

theorem opsSaiRouterIntfCreate_never :
    Never SlaveFault (opsSaiRouterIntfCreate vrid rifType handle rif) := by
  refine Never.bind intfParamsIfc_never fun _ => Never.bind callIf_never fun _ =>
    (Never.pure _).ite ?_
  refine (Never.bind choose_never fun _ => (Never.gets _).bind fun _ =>
    Never.bind callIf_never fun _ => Never.pure _).bind fun _ => (Never.pure _).ite ?_
  refine (Never.bind choose_never fun _ => (Never.gets _).bind fun _ =>
    Never.bind callIf_never fun _ => Never.pure _).bind fun _ => (Never.pure _).ite ?_
  refine Never.bind callIf_never fun _ => (Never.pure _).ite ?_
  exact (Never.gets _).bind fun _ => (Never.require (by decide)).bind fun _ =>
    (Never.modify _).bind fun _ => Never.pure _

theorem opsSaiRouterIntfRemove_never : Never SlaveFault (opsSaiRouterIntfRemove rif) := by
  refine (Never.gets _).bind fun _ => (Never.need (by decide)).bind fun _ => ?_
  refine Never.bind callIf_never fun _ => (Never.pure _).ite <| Never.bind callIf_never fun _ =>
    (Never.pure _).ite <| Never.bind callIf_never fun _ => (Never.pure _).ite <|
    Never.bind callIf_never fun _ => (Never.pure _).ite ?_
  exact (Never.modify _).bind fun _ => Never.pure _

theorem opsSaiRouterIntfSetState_never {state : Bool} :
    Never SlaveFault (opsSaiRouterIntfSetState rif state) :=
  (Never.gets _).bind fun _ => (Never.need (by decide)).bind fun _ =>
    Never.bind callIf_never fun _ => Never.pure _

variable [OvsLib] [Build] {pfx : String}

omit [Build] in
theorem opsSaiRouteIpToMeAdd_never : Never E (opsSaiRouteIpToMeAdd vrid pfx) := by
  unfold opsSaiRouteIpToMeAdd
  cases opsSaiCommonIpPrefixToSxIpPrefix pfx with
  | none => exact Never.pure _
  | some sxPrefix => exact Never.bind callIf_never fun _ => Never.pure _

theorem opsSaiRouteRemove_never : Never E (opsSaiRouteRemove vrid pfx) := by
  refine Never.bind ?_ fun _ => Never.pure _
  unfold routeRemoteAction
  cases opsSaiCommonIpPrefixToSxIpPrefix pfx with
  | none => exact Never.pure _
  | some sxPrefix =>
    have hset : Never E (sxUcRouteSet .delete vrid sxPrefix []) := by
      rw [sxUcRouteSet]
      exact callIf_never
    rw [List.take_nil, List.mapM_nil]
    -- without next hops there is none past the end of the list
    show Never E (if Build.routerNextHopMax < 0 then _ else _)
    rw [if_neg (Nat.not_lt_zero _)]
    exact hset

end

/-! ## The configuration of a bundle -/

section
variable {E : Halt → Prop} {α : Type} {o o' : OfprotoSai} {b : BundlePtr} {p : OfpPort}
  {ports : List OfpPort} {s : OfprotoBundleSettings} {isIpv6 ipv6Prefix enable : Bool} {ip : String}
  {rifType : RouterIntfType} {handle : Nat}

theorem onHw_never {m : Exec Hw α} (h : Never E m) : Never E (onHw m) := h.zoom

theorem ofport_never : Never SlaveFault (ofport p) :=
  (Never.gets _).bind fun _ => Never.need (by decide)

theorem ofbundle_never : Never SlaveFault (ofbundle b) :=
  (Never.gets _).bind fun _ => Never.need (by decide)

theorem modifyPort_never {f : OfportSai → OfportSai} : Never SlaveFault (modifyPort p f) :=
  Never.bind ofport_never fun _ => Never.modify _

theorem modifyBundle_never {f : OfbundleSai → OfbundleSai} : Never SlaveFault (modifyBundle b f) :=
  Never.bind ofbundle_never fun _ => Never.modify _

/-- Record a change and return zero. -/
theorem modifyBundle_zero_never {f : OfbundleSai → OfbundleSai} :
    Never SlaveFault (do modifyBundle b f; return 0 : Exec OfprotoSai Int) :=
  Never.bind modifyBundle_never fun _ => Never.pure _

theorem walkTable_never {table : List α} : Never E (walkTable table) :=
  (onHw_never choose_never).bind fun _ => Never.pure _

theorem forEachPort_never {ports : List OfpPort} {f : Nat → Exec Hw Int}
    (hf : ∀ hwId, Never SlaveFault (f hwId)) : Never SlaveFault (forEachPort ports f) :=
  Never.forEach fun _ => Never.bind ofport_never fun _ => onHw_never (hf _)

theorem vlanReconfigure_never : Never SlaveFault (vlanReconfigure b s) := by
  refine Never.bind ofbundle_never fun bundle => (Never.require (by decide)).bind fun _ => ?_
  exact (forEachPort_never fun _ => vlanPortLeave_never).thenOk <|
    (forEachPort_never fun _ => vlanPortJoin_never).thenOk modifyBundle_zero_never

theorem setRouterIntfHandle_never {rifHandle : Option BundlePtr} :
    Never SlaveFault (netdevSaiSetRouterIntfHandle p rifHandle) :=
  Never.bind ofport_never fun _ => (Never.require (by decide)).bind fun _ =>
    Never.bind modifyPort_never fun _ => Never.pure _

theorem routerIntfCreate_never : Never SlaveFault (routerIntfCreate b rifType handle) := by
  refine Never.bind ofbundle_never fun _ => (Never.gets _).bind fun _ =>
    (onHw_never opsSaiRouterIntfCreate_never).bind fun _ => (Never.pure _).ite ?_
  exact Never.bind modifyBundle_never fun _ => Never.forEach fun _ => setRouterIntfHandle_never

theorem ofprotoIpPrefix_never : Never SlaveFault (ofprotoIpPrefix ip isIpv6) := by
  refine Never.bind (Never.require (by decide)) fun _ => ?_
  refine Never.bind (Never.require (by decide)) fun _ => ?_
  exact Never.bind (Never.require (by decide)) fun _ => Never.pure _

variable [OvsLib] [Build]

theorem localRoutesRemove_never : Never SlaveFault (localRoutesRemove b) :=
  Never.bind ofbundle_never fun _ => (Never.gets _).bind fun _ =>
    Never.bind walkTable_never fun _ => Never.forEach fun _ =>
    (onHw_never opsSaiRouteRemove_never).thenOk modifyBundle_zero_never

theorem ofbundleRouterIntfRemove_never : Never SlaveFault (ofbundleRouterIntfRemove b) := by
  refine Never.thenOk localRoutesRemove_never <| Never.bind ofbundle_never fun _ =>
    Never.ite ?_ (Never.pure _)
  exact (Never.forEach fun _ => setRouterIntfHandle_never).thenOk <|
    (onHw_never opsSaiRouterIntfRemove_never).thenOk modifyBundle_zero_never

theorem routerIntfApply_never : Never SlaveFault (routerIntfApply b rifType handle enable) := by
  refine Never.bind ofbundle_never fun _ =>
    (Never.ite ofbundleRouterIntfRemove_never (Never.pure _)).thenOk ?_
  refine Never.bind ofbundle_never fun _ => ((Never.pure _).ite routerIntfCreate_never).thenOk ?_
  refine Never.bind ofbundle_never fun _ => Never.ite ?_ (Never.pure _)
  exact (onHw_never opsSaiRouterIntfSetState_never).thenOk modifyBundle_zero_never

omit [Build] in
theorem ofprotoIpAdd_never : Never SlaveFault (ofprotoIpAdd ip isIpv6) :=
  Never.bind ofprotoIpPrefix_never fun _ => (Never.gets _).bind fun _ =>
    onHw_never opsSaiRouteIpToMeAdd_never

theorem ofprotoIpRemove_never : Never SlaveFault (ofprotoIpRemove ip isIpv6) :=
  Never.bind ofprotoIpPrefix_never fun _ => (Never.gets _).bind fun _ =>
    onHw_never opsSaiRouteRemove_never

theorem ipPrimaryReconfigure_never {new : Option String} :
    Never SlaveFault (ipPrimaryReconfigure b isIpv6 new) := by
  refine Never.bind ofbundle_never fun bundle => Never.thenOk ?_ ?_
  · cases bundle.primary isIpv6 with
    | none => exact Never.pure _
    | some old =>
      exact (Never.pure _).ite (Never.thenOk ofprotoIpRemove_never modifyBundle_zero_never)
  · cases new with
    | none => exact Never.pure _
    | some ip => exact Never.thenOk ofprotoIpAdd_never modifyBundle_zero_never

theorem ipSecondaryRemove_never :
    Never SlaveFault (ipSecondaryRemove b isIpv6 ipv6Prefix ip) :=
  Never.thenOk ofprotoIpRemove_never modifyBundle_zero_never

theorem ipSecondaryReconfigure_never :
    Never SlaveFault (ofbundleIpSecondaryReconfigure b s isIpv6) := by
  refine Never.bind ofbundle_never fun _ => Never.bind walkTable_never fun _ =>
    Never.bind walkTable_never fun _ => ?_
  refine (Never.forEach fun _ => (Never.pure _).ite ipSecondaryRemove_never).thenOk ?_
  exact Never.forEach fun _ => Never.bind ofbundle_never fun _ =>
    (Never.pure _).ite (Never.thenOk ofprotoIpAdd_never modifyBundle_zero_never)

theorem ofbundleIpReconfigure_never : Never SlaveFault (ofbundleIpReconfigure b s) :=
  (Never.ite ipPrimaryReconfigure_never (Never.pure _)).thenOk <|
  (Never.ite ipPrimaryReconfigure_never (Never.pure _)).thenOk <|
  (Never.ite ipSecondaryReconfigure_never (Never.pure _)).thenOk <|
  Never.ite ipSecondaryReconfigure_never (Never.pure _)

theorem ipPrimaryRemove_never : Never SlaveFault (ipPrimaryRemove b isIpv6) := by
  refine Never.bind ofbundle_never fun bundle => ?_
  cases bundle.primary isIpv6 with
  | none => exact Never.pure _
  | some ip => exact ofprotoIpRemove_never

theorem ipSecondaryRemoveAll_never : Never SlaveFault (ipSecondaryRemoveAll b isIpv6) :=
  Never.bind ofbundle_never fun _ => Never.bind walkTable_never fun _ =>
    Never.forEach fun _ => ipSecondaryRemove_never

theorem ofbundleIpRemove_never : Never SlaveFault (ofbundleIpRemove b) :=
  Never.thenOk ipPrimaryRemove_never <| Never.thenOk ipPrimaryRemove_never <|
    Never.thenOk ipSecondaryRemoveAll_never ipSecondaryRemoveAll_never

/-! ## Ports and the life of a bundle -/

omit [OvsLib] [Build] in
theorem ofbundlePortDel_never : Never SlaveFault (ofbundlePortDel p) := by
  refine Never.bind ofport_never fun _ => (Never.need (by decide)).bind fun _ =>
    Never.bind ofbundle_never fun _ => ((onHw_never portVlansLeave_never).ite (Never.pure _)).bind
    fun _ => ?_
  exact Never.bind modifyBundle_never fun _ => Never.bind modifyPort_never fun _ => Never.pure _

theorem ofbundleDestroy_never : Never SlaveFault (ofbundleDestroy b) := by
  refine Never.bind ofbundleIpRemove_never fun _ =>
    Never.bind ofbundleRouterIntfRemove_never fun _ => Never.bind ofbundle_never fun _ =>
    Never.bind ?_ fun _ => Never.modify _
  exact Never.forAll fun _ => Never.bind ofbundlePortDel_never fun _ => Never.pure _

theorem bundleRemove_never : Never SlaveFault (bundleRemove p) := by
  refine Never.bind ofport_never fun port => ?_
  cases port.bundle with
  | none => exact Never.pure _
  | some b =>
    exact Never.bind ofbundlePortDel_never fun _ => Never.bind ofbundle_never fun _ =>
      Never.ite ofbundleDestroy_never (Never.pure _)

/-- A port that exists is added without a fault. -/
theorem ofbundlePortAdd_never : Never SlaveFault (ofbundlePortAdd b (some p)) := by
  refine (Never.pure p).bind fun p => Never.bind ofport_never fun _ =>
    Never.bind bundleRemove_never fun _ => Never.bind modifyPort_never fun _ =>
    Never.bind modifyBundle_never fun _ => Never.ite ?_ (Never.pure _)
  exact Never.bind ofbundle_never fun _ => onHw_never portVlansJoin_never

omit [OvsLib] [Build] in
theorem portsRemove_never : Never SlaveFault (portsRemove b s) :=
  Never.bind ofbundle_never fun _ => Never.forEach fun _ => (Never.gets _).bind fun _ =>
    (Never.pure _).ite ofbundlePortDel_never

/-- A turn of the last loop of `__ofbundle_ports_reconfigure`. -/
theorem portsAdd_turn_evolves (slave : OfpPort) : Rel Evolves (do
    let sPort ← gets fun o => o.getOfpPort slave
    let bundle ← ofbundle b
    if bundle.ports.any fun p => some p = sPort then return 0 else ofbundlePortAdd b sPort) :=
  (Rel.gets _).bind fun _ => (ofbundle_rel b).bind fun _ => (Rel.pure _).ite ofbundlePortAdd_evolves

theorem ofbundlePortsReconfigure_avoids (hlive : ∀ slave ∈ s.slaves, o.getOfpPort slave ≠ none) :
    Avoids SlaveFault (ofbundlePortsReconfigure b s) o := by
  refine (portsRemove_never o).thenOk fun o₁ h₁ => (vlanReconfigure_never o₁).thenOk fun o₂ h₂ => ?_
  have hnet := ((vlanReconfigure_sameButVlan _ _ _ h₂).evolves.netdevs.trans
    (portsRemove_evolves _ _ _ h₁).netdevs)
  refine Avoids.forEach portsAdd_turn_evolves fun slave hslave o₃ h₃ => ?_
  obtain ⟨p, hp⟩ := Option.ne_none_iff_exists'.mp (hlive slave hslave)
  rw [← getOfpPort_of_netdevs (h₃.netdevs.trans hnet)] at hp
  refine (Avoids.gets _).bind fun sPort o₄ h₄ => ?_
  cases h₄
  beta_reduce
  rw [hp]
  exact (Never.bind ofbundle_never fun _ => (Never.pure _).ite ofbundlePortAdd_never) _

/-- With a slave to read, the read has a meaning. -/
theorem ofbundleRouterIntfReconfigure_never (hne : s.slaves ≠ []) :
    Never SlaveFault (ofbundleRouterIntfReconfigure b s) := by
  refine (Never.gets _).bind fun _ => (Never.require (by decide)).bind fun _ => Never.bind ?_ ?_
  · cases hs : s.slaves with
    | nil => exact absurd hs hne
    | cons slave slaves => exact Never.pure _
  · refine fun slave => (Never.gets _).bind fun sPort => ?_
    cases sPort with
    | none => exact Never.pure _
    | some p =>
      refine Never.bind ofport_never fun port => ?_
      cases port.netdev.type with
      | system | internal => exact routerIntfApply_never
      | vlansubint => exact Never.pure _
      | loopback => exact modifyBundle_zero_never

theorem bundleApply_avoids (hlive : ∀ slave ∈ s.slaves, o.getOfpPort slave ≠ none)
    (hne : o.type = .vrf → s.slaves ≠ []) : Avoids SlaveFault (bundleApply b s) o := by
  refine (ofbundlePortsReconfigure_avoids hlive).thenOk fun o₁ h₁ => ?_
  refine Avoids.ite (fun _ => Avoids.pure _) fun _ => (Avoids.gets _).bind fun type o₂ h₂ => ?_
  cases h₂
  rw [(ofbundlePortsReconfigure_evolves _ _ _ h₁).type]
  refine Avoids.ite (fun htype => ?_) fun _ => Avoids.pure _
  exact ((ofbundleRouterIntfReconfigure_never (hne htype)).bind fun _ =>
    Never.bind ofbundleIpReconfigure_never fun _ => Never.pure _) o₁

variable {aux : Nat} [OpenswitchIdl]

/-- Settings whose slaves all exist cause no fault, unless they have none and belong to a VRF. -/
theorem bundleSet_avoids (hlive : ∀ slave ∈ s.slaves, o.getOfpPort slave ≠ none)
    (hne : s.name = OpenswitchIdl.DEFAULT_BRIDGE_NAME ∨ o.type ≠ .vrf ∨ s.slaves ≠ []) :
    Avoids SlaveFault (bundleSet aux (some s)) o := by
  refine Avoids.ite (fun _ => Avoids.pure _) fun hname => ?_
  have hcreate : Never SlaveFault (ofbundleLookupOrCreate aux s) := by
    refine ((Never.require (by decide)).bind fun _ => Never.gets _).bind fun found => ?_
    cases found with
    | some b => exact Never.pure _
    | none =>
      exact (onHw_never choose_never).bind fun _ => (Never.gets _).bind fun _ =>
        (Never.modify _).bind fun _ => Never.pure _
  refine (hcreate o).bind fun b o₁ h₁ => ?_
  have hsame := ofbundleLookupOrCreate_sameSetup _ _ _ h₁
  refine bundleApply_avoids (fun slave hslave => ?_) fun htype => ?_
  · rw [getOfpPort_of_netdevs hsame.netdevs]
    exact hlive slave hslave
  · exact (hne.resolve_left hname).resolve_left (not_not_intro (hsame.type ▸ htype))

/-! ## When a fault is reached -/

/-- A call on which the hardware never fails and that completes has found every slave. -/
theorem slaves_found {st : Int} (hwill : o.Willing)
    (hname : s.name ≠ OpenswitchIdl.DEFAULT_BRIDGE_NAME)
    (h : bundleSet aux (some s) o = .ok (st, o')) :
    ∀ slave ∈ s.slaves, o.getOfpPort slave ≠ none := by
  rw [bundleSet, if_neg hname] at h
  obtain ⟨b, o₁, hlookup, h⟩ := bind_ok.mp h
  have hwill₁ := ofbundleLookupOrCreate_willing _ _ _ hlookup hwill
  have hports : ∃ o₂, ofbundlePortsReconfigure b s o₁ = .ok (0, o₂) := by
    rcases thenOk_ok.mp h with ⟨hfail, h0⟩ | ⟨o₂, hports, -⟩
    · exact absurd (ofbundlePortsReconfigure_succeeds _ _ _ hwill₁ hfail).1 h0
    · exact ⟨o₂, hports⟩
  obtain ⟨o₂, hports⟩ := hports
  obtain ⟨o₃, hremove, hports⟩ := thenOk_zero.mp hports
  obtain ⟨o₄, hvlan, hadd⟩ := thenOk_zero.mp hports
  have hnet := ((vlanReconfigure_sameButVlan _ _ _ hvlan).evolves.netdevs.trans
    (portsRemove_evolves _ _ _ hremove).netdevs).trans
    (ofbundleLookupOrCreate_sameSetup _ _ _ hlookup).netdevs
  intro slave hslave hnone
  obtain ⟨o₅, o₆, hevolves, hturn, -⟩ := Rel.forEach_turn portsAdd_turn_evolves hadd hslave
  rw [gets_bind] at hturn
  rw [getOfpPort_of_netdevs (hevolves.netdevs.trans hnet), hnone] at hturn
  obtain ⟨bundle, -, hturn⟩ := ofbundle_bind.mp hturn
  -- no port of the bundle is the missing one
  rw [if_neg (by simp)] at hturn
  obtain ⟨p, hp, -⟩ := need_bind.mp hturn
  cases hp

omit [OvsLib] [Build] [OpenswitchIdl] in
/-- A port that is in a bundle can be taken out. -/
theorem ofbundlePortDel_completes (hl : o.links.WF) (hp : o.links.owner p = some b) :
    ∃ st o', ofbundlePortDel p o = .ok (st, o') := by
  obtain ⟨ports, hports, -⟩ := hl.exists_members hp
  obtain ⟨bundle, hb, -⟩ := Option.map_eq_some_iff.mp hports
  obtain ⟨port, hport, hpb⟩ := Option.bind_eq_some_iff.mp hp
  have hvlans : Never (fun _ => True) (if port.netdev.type = .system then
      onHw (portVlansLeave bundle port.netdev.netdevSaiHwIdGet) else pure 0) :=
    (onHw_never portVlansLeave_never).ite (Never.pure _)
  obtain ⟨st, o₁, h₁⟩ := hvlans.completes o
  have htables : o₁.tables = o.tables := (Rel.ite (onHw_tables _) (Rel.pure _) _ _ _ h₁ :)
  simp only [tables, Prod.mk.injEq] at htables
  obtain ⟨-, -, hofports, hbundles⟩ := htables
  refine ⟨st, _, ofport_bind.mpr ⟨port, hport, need_bind.mpr ⟨b, hpb, ofbundle_bind.mpr
    ⟨bundle, hb, bind_ok.mpr ⟨st, o₁, h₁, modifyBundle_bind.mpr ⟨bundle, hbundles ▸ hb,
    modifyPort_bind.mpr ⟨port, ?_, rfl⟩⟩⟩⟩⟩⟩⟩
  rw [setBundle_ofports, hofports, hport]

/-- Every native VLAN in a bundle is an index of a bitmap. -/
def OfprotoSai.NativesInRange (o : OfprotoSai) : Prop :=
  ∀ b v, o.bundlesBy (·.vlanSettings) b = some v → nativeInRange v.vlanMode v.vlan = true

/-- What holds of ports and bundles in every run. -/
structure OfprotoSai.Sound (o : OfprotoSai) : Prop where
  links : o.links.WF
  aux : o.AuxInj
  natives : o.NativesInRange

omit [OvsLib] [Build] [OpenswitchIdl] in
/-- With no slaves every port is taken out. -/
theorem portsRemove_completes (hl : o.links.WF) (hwill : o.Willing)
    (hports : o.links.members b = some ports) (hslaves : s.slaves = []) :
    ∃ o', portsRemove b s o = .ok (0, o') ∧ o'.links.members b = some [] ∧
      o'.bundlesBy (·.vlanSettings) = o.bundlesBy (·.vlanSettings) := by
  obtain ⟨bundle, hb, rfl⟩ := Option.map_eq_some_iff.mp hports
  have hloop : Ends (forEach bundle.ports fun p => do
      let portFound ← gets fun o => o.isSlave s p
      if portFound then return 0 else ofbundlePortDel p) o fun st (o' : OfprotoSai) => st = 0 ∧
        o'.links.WF ∧ o'.Willing ∧ o'.links.members b = some [] ∧
        o'.bundlesBy (·.vlanSettings) = o.bundlesBy (·.vlanSettings) := by
    refine Ends.forEach (I := fun ports (o' : OfprotoSai) => o'.links.WF ∧ o'.Willing ∧
      o'.links.members b = some ports ∧
      o'.bundlesBy (·.vlanSettings) = o.bundlesBy (·.vlanSettings)) ?_ ⟨hl, hwill, hports, rfl⟩
    rintro p ports o₁ ⟨hl₁, hwill₁, hports₁, hsame⟩
    have hp : o₁.links.owner p = some b := (hl₁.mem_iff hports₁).mp (List.mem_cons_self ..)
    obtain ⟨st, o₂, h₂⟩ := ofbundlePortDel_completes hl₁ hp
    obtain ⟨rfl, hwill₂⟩ := ofbundlePortDel_succeeds _ _ _ hwill₁ h₂
    refine Ends.gets_bind ⟨0, o₂, ?_, rfl, ofbundlePortDel_wf _ _ _ h₂ hl₁, hwill₂, ?_, ?_⟩
    · rw [isSlave, hslaves, List.any_nil]
      exact h₂
    · obtain ⟨b', hb', hlinks⟩ := ofbundlePortDel_links h₂
      obtain rfl : b = b' := Option.some.inj (hp.symm.trans hb')
      rw [hlinks, Links.detach_members, if_pos rfl, hports₁, Option.map_some,
        List.erase_cons_head]
    · exact (ofbundlePortDel_bundlesBy (fun _ _ => rfl) h₂).trans hsame
  obtain ⟨st, o', h, rfl, -, -, hnone, hsame⟩ := hloop
  exact ⟨o', ofbundle_bind.mpr ⟨bundle, hb, h⟩, hnone, hsame⟩

omit [OvsLib] [Build] [OpenswitchIdl] in
/-- The VLANs of a bundle without ports are changed in its record only. -/
theorem vlanReconfigure_completes (hports : o.links.members b = some [])
    (hold : o.NativesInRange) (hnew : nativeInRange s.vlanMode s.vlan = true) :
    ∃ o', vlanReconfigure b s o = .ok (0, o') := by
  obtain ⟨bundle, hb, hnil⟩ := Option.map_eq_some_iff.mp hports
  have hrange : nativeInRange bundle.vlanMode bundle.vlan = true :=
    hold b bundle.vlanSettings (by rw [bundlesBy, hb, Option.map_some])
  have hboth : (nativeInRange bundle.vlanMode bundle.vlan &&
    nativeInRange s.vlanMode s.vlan) = true := Bool.and_eq_true_iff.mpr ⟨hrange, hnew⟩
  refine ⟨o.setBundle b ({ bundle with vlan := s.vlan, vlanMode := s.vlanMode }.trunksRealloc
    s.trunks), ofbundle_bind.mpr ⟨bundle, hb, require_bind.mpr ⟨hboth, ?_⟩⟩⟩
  have hnone : ∀ f, forEachPort bundle.ports f o = .ok (0, o) := fun f => by rw [hnil]; rfl
  exact thenOk_zero.mpr ⟨o, hnone _, thenOk_zero.mpr ⟨o, hnone _,
    modifyBundle_bind.mpr ⟨bundle, hb, rfl⟩⟩⟩

omit [OvsLib] [Build] [OpenswitchIdl] in
theorem ofbundleLookupOrCreate_completes (haux : aux ≠ 0) :
    ∃ b o', ofbundleLookupOrCreate aux s o = .ok (b, o') := by
  rw [ofbundleLookupOrCreate, bind_of_ok (ofbundleLookup_apply haux)]
  cases (o.bundles.entries.find? fun e => e.2.aux = aux).map fun e => e.1 with
  | some b => exact ⟨b, o, rfl⟩
  | none => exact ⟨_, _, rfl⟩

omit [OvsLib] [Build] [OpenswitchIdl] in
theorem ofbundleLookupOrCreate_sound (h : ofbundleLookupOrCreate aux s o = .ok (b, o'))
    (hsound : o.Sound) : o'.Sound := by
  rcases ofbundleLookupOrCreate_ok h with ⟨rfl, -⟩ | ⟨-, hcreate⟩
  · exact hsound
  · obtain ⟨hl, ha, -⟩ := ofbundleLookupOrCreate_inv hsound.links hsound.aux h
    refine ⟨hl, ha, fun b' v hv => ?_⟩
    obtain ⟨cs, -, rfl⟩ := ofbundleCreate_ok hcreate
    rw [bundlesBy, setBundle_lookup] at hv
    by_cases hb : b' = b
    · -- a new bundle is in access mode
      rw [if_pos hb, Option.map_some, Option.some.injEq] at hv
      exact hv ▸ rfl
    · rw [if_neg hb] at hv
      exact hsound.natives b' v hv

/-- A VRF bundle is given no slaves: the first of them is read. -/
theorem bundleSet_reads (hsound : o.Sound) (hwill : o.Willing) (haux : aux ≠ 0)
    (hname : s.name ≠ OpenswitchIdl.DEFAULT_BRIDGE_NAME) (htype : o.type = .vrf)
    (hslaves : s.slaves = []) (hbeyond : s.slavesBeyond = none)
    (hrange : nativeInRange s.vlanMode s.vlan = true) :
    bundleSet aux (some s) o = .error (.undefined "s->slaves[0]") := by
  obtain ⟨b, o₁, hlookup⟩ := ofbundleLookupOrCreate_completes (o := o) (s := s) haux
  obtain ⟨hl₁, -, hnatives₁⟩ := ofbundleLookupOrCreate_sound hlookup hsound
  obtain ⟨bundle, hb, -⟩ := Option.map_eq_some_iff.mp (ofbundleLookupOrCreate_aux hlookup)
  obtain ⟨o₂, hremove, hnil, hsame⟩ := portsRemove_completes hl₁
    (ofbundleLookupOrCreate_willing _ _ _ hlookup hwill) (links_members hb) hslaves
  obtain ⟨o₃, hvlan⟩ := vlanReconfigure_completes hnil
    (fun b v hv => hnatives₁ b v (hsame ▸ hv)) hrange
  have hports : ofbundlePortsReconfigure b s o₁ = .ok (0, o₃) := by
    refine thenOk_zero.mpr ⟨o₂, hremove, thenOk_zero.mpr ⟨o₃, hvlan, ?_⟩⟩
    rw [portsAdd, hslaves]
    rfl
  have htype₃ : o₃.type = .vrf := (ofbundlePortsReconfigure_evolves _ _ _ hports).type.trans
    ((ofbundleLookupOrCreate_sameSetup _ _ _ hlookup).type.trans htype)
  have hread : ofbundleRouterIntfReconfigure b s o₃ = .error (.undefined "s->slaves[0]") := by
    rw [ofbundleRouterIntfReconfigure, gets_bind, bind_of_ok
      (require_ok.mpr ⟨decide_eq_true htype₃, rfl⟩), hslaves, hbeyond]
    rfl
  rw [bundleSet, if_neg hname, bind_of_ok hlookup, bundleApply, thenOk_of_ok hports,
    if_neg (by simp [hslaves]), gets_bind, if_pos htype₃]
  exact bind_of_error hread

/-! ## Runs -/

omit [OvsLib] [Build] [OpenswitchIdl] in
theorem NativesInRange.of_shrink (h : BundlesShrink (·.vlanSettings) o o') :
    o.NativesInRange → o'.NativesInRange := fun H b v hv => H b v (h b v hv)

omit [OvsLib] [Build] [OpenswitchIdl] in
theorem vlanReconfigure_natives : Keeps NativesInRange (vlanReconfigure b s) := by
  intro o st o' h
  obtain ⟨bundle, hb, h⟩ := ofbundle_bind.mp h
  obtain ⟨hrange, h⟩ := require_bind.mp h
  have hports : ∀ {ports f}, Keeps NativesInRange (forEachPort ports f) := fun {_ _} =>
    Rel.forEach fun p => (ofport_rel p).bind fun _ => onHw_rel fun _ _ _ _ => id
  refine (hports.thenOk (hports.thenOk ?_) : Keeps NativesInRange _) _ _ _ h
  refine Rel.bind (modifyBundle_rel fun o bundle _ H b' v hv => ?_) fun _ => Rel.pure _
  rw [bundlesBy, setBundle_lookup] at hv
  split at hv
  next =>
    rw [Option.map_some, Option.some.injEq] at hv
    subst hv
    rw [OfbundleSai.vlanSettings, OfbundleSai.trunksRealloc_eq]
    exact (Bool.and_eq_true_iff.mp hrange).2
  next => exact H b' v hv

omit [OvsLib] [Build] [OpenswitchIdl] in
theorem new_sound {type : OfprotoType} {vrid : Nat} {ofports : OfpPort → Option OfportSai} {hw : Hw}
    (hnew : Unbundled ofports) : (OfprotoSai.new type vrid ofports hw).Sound :=
  ⟨(new_inv hnew).1, (new_inv hnew).2, fun _ _ h => by cases h⟩

/-- Every call keeps an ofproto sound, whatever the hardware answers. -/
theorem HostCall.run_sound {c : HostCall} {st : Int} (h : c.run o = .ok (st, o'))
    (hsound : o.Sound) : o'.Sound := by
  obtain ⟨hl, ha⟩ := HostCall.run_inv h ⟨hsound.links, hsound.aux⟩
  refine ⟨hl, ha, ?_⟩
  have hshrink : ∀ {α : Type} {m : Exec OfprotoSai α}, Rel (BundlesShrink (·.vlanSettings)) m →
      Keeps NativesInRange m := fun hm => hm.mono fun _ _ => NativesInRange.of_shrink
  have hdestroy : ∀ {b}, Keeps NativesInRange (ofbundleDestroy b) := fun {_} =>
    hshrink (ofbundleDestroy_shrink fun _ _ => rfl)
  cases c with
  | host aux c =>
    have hsame := congrArg Prod.snd
      (NeighborCall.run_bundlesBy (f := (·.vlanSettings)) (fun _ _ => rfl) _ _ _ h)
    exact NativesInRange.of_shrink (bundlesShrink_of_eq hsame) hsound.natives
  | vrf c =>
    cases c with
    | route action routep =>
      have hsame := congrArg Prod.snd
        (l3RouteAction_bundlesBy (f := (·.vlanSettings)) (fun _ _ => rfl) _ _ _ h)
      exact NativesInRange.of_shrink (bundlesShrink_of_eq hsame) hsound.natives
    | bundle c =>
      cases c with
      | remove p =>
        have hremove : Keeps NativesInRange (bundleRemove p) :=
          hshrink (bundleRemove_shrink fun _ _ => rfl)
        exact (hremove.bind fun _ => Rel.pure _) _ _ _ h hsound.natives
      | set aux s =>
        cases s with
        | none =>
          refine Rel.bind (R := fun o o' => NativesInRange o → NativesInRange o')
            ((Rel.require _ _).bind fun _ => Rel.gets _) (fun found => ?_) _ _ _ h hsound.natives
          cases found with
          | none => exact Rel.pure _
          | some b => exact hdestroy.bind fun _ => Rel.pure _
        | some s =>
          change bundleSet aux (some s) o = .ok (st, o') at h
          rw [bundleSet] at h
          split at h
          next =>
            cases h
            exact hsound.natives
          next =>
            obtain ⟨b, o₁, hlookup, h⟩ := bind_ok.mp h
            have happly : Keeps NativesInRange (bundleApply b s) := by
              refine bundleApply_rel (ofbundlePortsReconfigure_rel ?_ vlanReconfigure_natives ?_)
                ?_ ?_
              · exact fun _ => hshrink (ofbundlePortDel_shrink fun _ _ => rfl)
              · exact fun _ => hshrink (ofbundlePortAdd_shrink fun _ _ => rfl)
              · exact hshrink (ofbundleRouterIntfReconfigure_sameButRif.mono fun _ _ h =>
                  bundlesShrink_of_eq (bundlesBy_of (k := (·.vlanSettings)) h.bundles fun _ => rfl))
              · exact hshrink (ofbundleIpReconfigure_sameButIp.mono fun _ _ h =>
                  bundlesShrink_of_eq (bundlesBy_of (k := (·.vlanSettings)) h.bundles fun _ => rfl))
            exact happly _ _ _ h (ofbundleLookupOrCreate_sound hlookup hsound).natives

/-! ## The slaves are treated safely -/

/-- What `__bundle_set` owes to the slaves of the settings, whatever the hardware answers. Nothing
is found behind the end of the slaves, so that a read there shows. -/
structure OfprotoSai.SlavesSafe (o : OfprotoSai) (aux : Nat) (s : OfprotoBundleSettings) :
    Prop where
  /-- It reads no element that is not there, and does not access the port of a slave without one. -/
  avoids : ∀ outcomes, Avoids SlaveFault (bundleSet aux (some { s with slavesBeyond := none }))
    (o.withOutcomes outcomes)
  /-- It reports a slave without an ofport. -/
  reported : ∀ outcomes, (∃ slave ∈ s.slaves, o.getOfpPort slave = none) →
    ∃ st o', bundleSet aux (some { s with slavesBeyond := none }) (o.withOutcomes outcomes) =
      .ok (st, o') ∧ st ≠ 0

/-- **The slaves are treated safely** exactly if every slave has an ofport and, unless the call
returns at once, a VRF is given at least one. -/
theorem bundleSet_slavesSafe_iff (hsound : o.Sound) (haux : aux ≠ 0)
    (hrange : nativeInRange s.vlanMode s.vlan = true) :
    o.SlavesSafe aux s ↔ (∀ slave ∈ s.slaves, o.getOfpPort slave ≠ none) ∧
      (s.name = OpenswitchIdl.DEFAULT_BRIDGE_NAME ∨ o.type ≠ .vrf ∨ s.slaves ≠ []) := by
  have hwill : (o.withOutcomes []).Willing := rfl
  constructor
  · intro hsafe
    have hlive : ∀ slave ∈ s.slaves, o.getOfpPort slave ≠ none := by
      intro slave hslave hnone
      obtain ⟨st, o', hrun, h0⟩ := hsafe.reported [] ⟨slave, hslave, hnone⟩
      by_cases hname : s.name = OpenswitchIdl.DEFAULT_BRIDGE_NAME
      · rw [bundleSet, if_pos hname] at hrun
        cases hrun
        exact h0 rfl
      · exact slaves_found (s := { s with slavesBeyond := none }) hwill hname hrun slave hslave
          hnone
    refine ⟨hlive, ?_⟩
    by_contra hcon
    obtain ⟨hname, htype, hslaves⟩ : s.name ≠ OpenswitchIdl.DEFAULT_BRIDGE_NAME ∧ o.type = .vrf ∧
        s.slaves = [] := by
      simpa only [not_or, ne_eq, not_not] using hcon
    have hsound' : (o.withOutcomes []).Sound := ⟨hsound.links, hsound.aux, hsound.natives⟩
    exact hsafe.avoids [] _
      (bundleSet_reads hsound' hwill haux hname htype hslaves rfl hrange) (.inl rfl)
  · rintro ⟨hlive, hne⟩
    refine ⟨fun outcomes => bundleSet_avoids hlive hne, fun outcomes hmissing => ?_⟩
    obtain ⟨slave, hslave, hnone⟩ := hmissing
    exact absurd hnone (hlive slave hslave)

end

/-! ### Examples -/

section
attribute [local instance] sampleOvs sampleBuild sampleIdl

/-- Ports 1 and 2 exist. -/
theorem bundleSet_slavesSafe_iff_lag : (OfprotoSai.new .vrf 0 samplePorts .reset).SlavesSafe 1
    lagSettings := by
  refine (bundleSet_slavesSafe_iff (new_sound samplePorts_unbundled) Nat.one_ne_zero rfl).mpr
    ⟨fun slave hslave => ?_, .inr (.inr (by decide))⟩
  obtain ⟨port, hport⟩ := samplePorts_slaves slave hslave
  have hofport : (OfprotoSai.new .vrf 0 samplePorts .reset).ofports slave = some port := hport
  rw [getOfpPort, hofport]
  exact Option.some_ne_none _

/-- A VRF bundle without slaves leads to a read of the first one, and the slave 3, which has no
ofport, to an access to its port. -/
theorem bundleSet_slaves_fault :
    bundleSet 1 (some { lagSettings with slaves := [] }) (.new .vrf 0 samplePorts .reset) =
        .error (.undefined "s->slaves[0]") ∧
      bundleSet 1 (some { lagSettings with slaves := [3] }) (.new .system 0 samplePorts .reset) =
        .error (.undefined "port") ∧
      ¬(OfprotoSai.new .vrf 0 samplePorts .reset).SlavesSafe 1
        { lagSettings with slaves := [] } ∧
      ¬(OfprotoSai.new .system 0 samplePorts .reset).SlavesSafe 1
        { lagSettings with slaves := [3] } := by
  have hread : bundleSet 1 (some { lagSettings with slaves := [] })
      (.new .vrf 0 samplePorts .reset) = .error (.undefined "s->slaves[0]") := by rfl
  have haccess : bundleSet 1 (some { lagSettings with slaves := [3] })
      (.new .system 0 samplePorts .reset) = .error (.undefined "port") := by rfl
  exact ⟨hread, haccess, fun h => h.avoids [] _ hread (.inl rfl),
    fun h => h.avoids [] _ haccess (.inr rfl)⟩

end

end SwitchdSai
