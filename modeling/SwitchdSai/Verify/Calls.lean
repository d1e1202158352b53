import SwitchdSai.Lib.Traced
import SwitchdSai.Verify.RouterIntf

/-!
# The hardware calls behind the configuration of bundles

The functions that program router interfaces and addresses, written down once more with their calls
into the hardware marked (`Exec.Traced`). Each is the function of the model when the marks are
forgotten. The reconfigurations return the status of the first call that fails; `__ofbundle_destroy`
and `__bundle_set` drop the statuses of what they call.
-/

namespace SwitchdSai

open Exec OfprotoSai

namespace Calls

/-! ## Router interfaces -/

def routerIntfCreate (b : BundlePtr) (rifType : RouterIntfType) (handle : Nat) :
    Traced OfprotoSai Int := do
  let bundle ← ofbundle b
  let vrid ← gets OfprotoSai.vrid
  let (status, rifid) ← Traced.callOf Prod.fst
    (onHw (opsSaiRouterIntfCreate vrid rifType handle bundle.routerIntf.rifid))
  if status ≠ 0 then return status
  modifyBundle b fun bundle =>
    { bundle with
      routerIntf :=
        { bundle.routerIntf with
          created := true, enabled := false, handle := handle, rifid := rifid } }
  Traced.quiet (forEach bundle.ports fun p => netdevSaiSetRouterIntfHandle p (some b))

def routerIntfEnable (b : BundlePtr) (enable : Bool) : Traced OfprotoSai Int := do
  let bundle ← ofbundle b
  if bundle.routerIntf.created && bundle.routerIntf.enabled != enable then
    (Traced.call (onHw (opsSaiRouterIntfSetState bundle.routerIntf.rifid enable))).thenOk do
      modifyBundle b fun bundle =>
        { bundle with routerIntf := { bundle.routerIntf with enabled := enable } }
      return 0
  else return 0

variable [OvsLib] [Build]

/-- The second part of `__ofbundle_router_intf_remove`, after the local routes have gone. -/
def routerIntfGiveUp (b : BundlePtr) : Traced OfprotoSai Int := do
  let bundle ← ofbundle b
  if bundle.routerIntf.created then
    (Traced.quiet (forEach bundle.ports fun p => netdevSaiSetRouterIntfHandle p none)).thenOk <|
    (Traced.call (onHw (opsSaiRouterIntfRemove bundle.routerIntf.rifid))).thenOk do
      modifyBundle b fun bundle => { bundle with routerIntf := .zero }
      return 0
  else return 0

/-- `routerIntfApply` after the local routes of an interface that is moved have gone. -/
def routerIntfRenew (b : BundlePtr) (moved : Bool) (rifType : RouterIntfType) (handle : Nat)
    (enable : Bool) : Traced OfprotoSai Int :=
  (if moved then routerIntfGiveUp b else pure 0).thenOk do
  let bundle ← ofbundle b
  (if bundle.routerIntf.created then pure 0 else routerIntfCreate b rifType handle).thenOk <|
  routerIntfEnable b enable

/-- `routerIntfApply`, whose status is dropped, before `u`. -/
def routerIntfApply {α : Type} (b : BundlePtr) (rifType : RouterIntfType) (handle : Nat)
    (enable : Bool) (u : Traced OfprotoSai α) : Traced OfprotoSai α := do
  let bundle ← ofbundle b
  let moved := bundle.routerIntf.created && bundle.routerIntf.handle != handle
  Traced.dropAfter (if moved then localRoutesRemove b else pure 0)
    (routerIntfRenew b moved rifType handle enable) u

/-- `__ofbundle_router_intf_reconfigure`, whose status is dropped, before `u`. -/
def ofbundleRouterIntfReconfigure {α : Type} (b : BundlePtr) (s : OfprotoBundleSettings)
    (u : Traced OfprotoSai α) : Traced OfprotoSai α := do
  let type ← gets OfprotoSai.type
  Traced.quiet (assert "STR_EQ(ofproto->up.type, SAI_INTERFACE_TYPE_VRF)" (type = .vrf))
  let slave ← Traced.quiet (need (.undefined "s->slaves[0]") (s.slaves.head?.or s.slavesBeyond))
  let sPort ← gets fun o : OfprotoSai => o.getOfpPort slave
  match sPort with
  | none => u
  | some p =>
    let port ← ofport p
    match port.netdev.type with
    | .internal => routerIntfApply b .vlan (handleOfInt s.vlan) s.enable u
    | .loopback =>
      modifyBundle b fun bundle =>
        { bundle with routerIntf := { bundle.routerIntf with isLoopback := true } }
      u
    | .vlansubint => u
    | .system => routerIntfApply b .port port.netdev.netdevSaiHwIdGet s.enable u

/-! ## Addresses -/

def ofprotoIpAdd (ip : String) (isIpv6 : Bool) : Traced OfprotoSai Int := do
  let pfx ← ofprotoIpPrefix ip isIpv6
  let vrid ← gets OfprotoSai.vrid
  Traced.call (onHw (opsSaiRouteIpToMeAdd vrid pfx))

def ofprotoIpRemove (ip : String) (isIpv6 : Bool) : Traced OfprotoSai Int := do
  let pfx ← ofprotoIpPrefix ip isIpv6
  let vrid ← gets OfprotoSai.vrid
  Traced.call (onHw (opsSaiRouteRemove vrid pfx))

def ipPrimaryReconfigure (b : BundlePtr) (isIpv6 : Bool) (new : Option String) :
    Traced OfprotoSai Int := do
  let bundle ← ofbundle b
  (match bundle.primary isIpv6 with
    | some old =>
      if new = some old then pure 0
      else (ofprotoIpRemove old isIpv6).thenOk do
        modifyBundle b (OfbundleSai.setPrimary isIpv6 none)
        return 0
    | none => pure 0).thenOk <|
  match new with
  | some ip => (ofprotoIpAdd ip isIpv6).thenOk do
      modifyBundle b (OfbundleSai.setPrimary isIpv6 (some ip))
      return 0
  | none => pure 0

def ipSecondaryRemove (b : BundlePtr) (isIpv6 ipv6Prefix : Bool) (ip : String) :
    Traced OfprotoSai Int :=
  (ofprotoIpRemove ip ipv6Prefix).thenOk do
    modifyBundle b fun bundle => bundle.setSecondary isIpv6 ((bundle.secondary isIpv6).erase ip)
    return 0

def ipSecondaryAdd (b : BundlePtr) (isIpv6 : Bool) (ip : String) : Traced OfprotoSai Int :=
  (ofprotoIpAdd ip false).thenOk do
    modifyBundle b fun bundle => bundle.setSecondary isIpv6 (ip :: bundle.secondary isIpv6)
    return 0

def ofbundleIpSecondaryReconfigure (b : BundlePtr) (s : OfprotoBundleSettings) (isIpv6 : Bool) :
    Traced OfprotoSai Int := do
  let bundle ← ofbundle b
  let newIpList := if isIpv6 then s.ip6AddressSecondary else s.ip4AddressSecondary
  let oldIps ← walkTable (bundle.secondary isIpv6)
  let newIps ← walkTable newIpList.dedup
  (Traced.forEach oldIps fun ip =>
    if newIpList.contains ip then pure 0 else ipSecondaryRemove b isIpv6 false ip).thenOk <|
  Traced.forEach newIps fun ip => do
    let bundle ← ofbundle b
    if bundle.ipSecondaryFind ip then pure 0 else ipSecondaryAdd b isIpv6 ip

def ofbundleIpReconfigure (b : BundlePtr) (s : OfprotoBundleSettings) : Traced OfprotoSai Int :=
  (if s.ipChange.primaryIpv4 then ipPrimaryReconfigure b false s.ip4Address else pure 0).thenOk <|
  (if s.ipChange.primaryIpv6 then ipPrimaryReconfigure b true s.ip6Address else pure 0).thenOk <|
  (if s.ipChange.secondaryIpv4 then ofbundleIpSecondaryReconfigure b s false
    else pure 0).thenOk <|
  if s.ipChange.secondaryIpv6 then ofbundleIpSecondaryReconfigure b s true else pure 0

def ipPrimaryRemove (b : BundlePtr) (isIpv6 : Bool) : Traced OfprotoSai Int := do
  let bundle ← ofbundle b
  match bundle.primary isIpv6 with
  | some ip => ofprotoIpRemove ip isIpv6
  | none => return 0

def ipSecondaryRemoveAll (b : BundlePtr) (isIpv6 : Bool) : Traced OfprotoSai Int := do
  let bundle ← ofbundle b
  let ips ← walkTable (bundle.secondary isIpv6)
  Traced.forEach ips (ipSecondaryRemove b isIpv6 isIpv6)

def ofbundleIpRemove (b : BundlePtr) : Traced OfprotoSai Int :=
  (ipPrimaryRemove b false).thenOk <|
  (ipPrimaryRemove b true).thenOk <|
  (ipSecondaryRemoveAll b false).thenOk <|
  ipSecondaryRemoveAll b true

/-! ## The life of a bundle -/

def ofbundleDestroy (b : BundlePtr) : Traced OfprotoSai Unit :=
  (ofbundleIpRemove b).drop <| Traced.dropAfter (localRoutesRemove b) (routerIntfGiveUp b) do
    let bundle ← ofbundle b
    Traced.quiet do
      forAll bundle.ports fun p => do
        let _ ← ofbundlePortDel p
        pure ()
      modify fun o => { o with bundles := o.bundles.erase b }

def bundleRemove (p : OfpPort) : Traced OfprotoSai Unit := do
  let port ← ofport p
  match port.bundle with
  | none => return
  | some b =>
    let _ ← ofbundlePortDel p
    let bundle ← ofbundle b
    if bundle.ports = [] then ofbundleDestroy b else return

def ofbundlePortAdd (b : BundlePtr) (sPort : Option OfpPort) : Traced OfprotoSai Int := do
  let p ← Traced.quiet (need (.undefined "port") sPort)
  let port ← ofport p
  bundleRemove p
  modifyPort p fun port => { port with bundle := some b }
  modifyBundle b fun bundle => { bundle with ports := bundle.ports ++ [p] }
  if port.netdev.type = .system then
    let bundle ← ofbundle b
    Traced.quiet (onHw (portVlansJoin bundle port.netdev.netdevSaiHwIdGet))
  else return 0

def portsAdd (b : BundlePtr) (s : OfprotoBundleSettings) : Traced OfprotoSai Int :=
  Traced.forEach s.slaves fun slave => do
    let sPort ← gets fun o : OfprotoSai => o.getOfpPort slave
    let bundle ← ofbundle b
    if bundle.ports.any fun p => some p = sPort then return 0 else ofbundlePortAdd b sPort

def ofbundlePortsReconfigure (b : BundlePtr) (s : OfprotoBundleSettings) : Traced OfprotoSai Int :=
  (Traced.quiet (portsRemove b s)).thenOk <| (Traced.quiet (vlanReconfigure b s)).thenOk <|
    portsAdd b s

def bundleApply (b : BundlePtr) (s : OfprotoBundleSettings) : Traced OfprotoSai Int :=
  (ofbundlePortsReconfigure b s).thenOk do
    if 1 < s.slaves.length then return -1
    let type ← gets OfprotoSai.type
    if type = .vrf then
      ofbundleRouterIntfReconfigure b s <| (ofbundleIpReconfigure b s).drop <| return 0
    else return 0

variable [OpenswitchIdl]

/-- `__bundle_set` for settings that are given. -/
def bundleSet (aux : Nat) (s : OfprotoBundleSettings) : Traced OfprotoSai Int := do
  if s.name = OpenswitchIdl.DEFAULT_BRIDGE_NAME then return 0
  let b ← ofbundleLookupOrCreate aux s
  bundleApply b s

/-! ## Forgetting the marks -/

section
variable {b : BundlePtr} {s : OfprotoBundleSettings} {enable isIpv6 ipv6Prefix : Bool} {ip : String}
  {new : Option String} {rifType : RouterIntfType} {handle : Nat} {p : OfpPort}
  {sPort : Option OfpPort}

omit [OpenswitchIdl]

omit [OvsLib] [Build] in
@[simp] theorem routerIntfCreate_prog :
    (routerIntfCreate b rifType handle).prog = SwitchdSai.routerIntfCreate b rifType handle := by
  simp [routerIntfCreate, SwitchdSai.routerIntfCreate]

omit [OvsLib] [Build] in
@[simp] theorem routerIntfEnable_prog :
    (routerIntfEnable b enable).prog = SwitchdSai.routerIntfEnable b enable := by
  simp [routerIntfEnable, SwitchdSai.routerIntfEnable]

theorem ofbundleRouterIntfRemove_eq : ofbundleRouterIntfRemove b =
    (localRoutesRemove b).thenOk (routerIntfGiveUp b).prog := by
  simp [routerIntfGiveUp, ofbundleRouterIntfRemove]

theorem routerIntfApply_eq : SwitchdSai.routerIntfApply b rifType handle enable =
    ofbundle b >>= fun bundle =>
      let moved := bundle.routerIntf.created && bundle.routerIntf.handle != handle
      (if moved then localRoutesRemove b else pure 0).thenOk
        (routerIntfRenew b moved rifType handle enable).prog := by
  simp only [routerIntfRenew, SwitchdSai.routerIntfApply, Traced.prog_bind, Traced.prog_lift,
    Traced.prog_thenOk, Traced.prog_ite, Traced.prog_pure, routerIntfCreate_prog,
    routerIntfEnable_prog, ofbundleRouterIntfRemove_eq]
  refine bind_congr fun bundle => ?_
  split
  · rw [thenOk_assoc]
  · rfl

@[simp] theorem routerIntfApply_prog {α : Type} {u : Traced OfprotoSai α} :
    (routerIntfApply b rifType handle enable u).prog =
      SwitchdSai.routerIntfApply b rifType handle enable >>= fun _ => u.prog := by
  simp [routerIntfApply, routerIntfApply_eq]

@[simp] theorem ofbundleRouterIntfReconfigure_prog {α : Type} {u : Traced OfprotoSai α} :
    (ofbundleRouterIntfReconfigure b s u).prog =
      SwitchdSai.ofbundleRouterIntfReconfigure b s >>= fun _ => u.prog := by
  simp only [ofbundleRouterIntfReconfigure, SwitchdSai.ofbundleRouterIntfReconfigure,
    Traced.prog_bind, Traced.prog_quiet, Traced.prog_lift, bind_assoc]
  refine bind_congr fun _ => bind_congr fun _ => bind_congr fun _ => bind_congr fun sPort => ?_
  cases sPort with
  | none => rfl
  | some p =>
    simp only [bind_assoc, Traced.prog_bind, Traced.prog_lift]
    refine bind_congr fun port => ?_
    cases port.netdev.type <;> simp

omit [Build] in
@[simp] theorem ofprotoIpAdd_prog :
    (ofprotoIpAdd ip isIpv6).prog = SwitchdSai.ofprotoIpAdd ip isIpv6 := by
  simp [ofprotoIpAdd, SwitchdSai.ofprotoIpAdd]

@[simp] theorem ofprotoIpRemove_prog :
    (ofprotoIpRemove ip isIpv6).prog = SwitchdSai.ofprotoIpRemove ip isIpv6 := by
  simp [ofprotoIpRemove, SwitchdSai.ofprotoIpRemove]

@[simp] theorem ipPrimaryReconfigure_prog : (ipPrimaryReconfigure b isIpv6 new).prog =
    SwitchdSai.ipPrimaryReconfigure b isIpv6 new := by
  simp only [ipPrimaryReconfigure, SwitchdSai.ipPrimaryReconfigure, Traced.prog_bind,
    Traced.prog_lift, Traced.prog_thenOk]
  refine bind_congr fun bundle => ?_
  cases bundle.primary isIpv6 <;> cases new <;> simp

@[simp] theorem ipSecondaryRemove_prog : (ipSecondaryRemove b isIpv6 ipv6Prefix ip).prog =
    SwitchdSai.ipSecondaryRemove b isIpv6 ipv6Prefix ip := by
  simp [ipSecondaryRemove, SwitchdSai.ipSecondaryRemove]

omit [Build] in
@[simp] theorem ipSecondaryAdd_prog :
    (ipSecondaryAdd b isIpv6 ip).prog = SwitchdSai.ipSecondaryAdd b isIpv6 ip := by
  simp [ipSecondaryAdd, SwitchdSai.ipSecondaryAdd]

@[simp] theorem ofbundleIpSecondaryReconfigure_prog :
    (ofbundleIpSecondaryReconfigure b s isIpv6).prog =
      SwitchdSai.ofbundleIpSecondaryReconfigure b s isIpv6 := by
  simp [ofbundleIpSecondaryReconfigure, SwitchdSai.ofbundleIpSecondaryReconfigure]

@[simp] theorem ofbundleIpReconfigure_prog :
    (ofbundleIpReconfigure b s).prog = SwitchdSai.ofbundleIpReconfigure b s := by
  simp [ofbundleIpReconfigure, SwitchdSai.ofbundleIpReconfigure]

@[simp] theorem ipPrimaryRemove_prog :
    (ipPrimaryRemove b isIpv6).prog = SwitchdSai.ipPrimaryRemove b isIpv6 := by
  simp only [ipPrimaryRemove, SwitchdSai.ipPrimaryRemove, Traced.prog_bind, Traced.prog_lift]
  refine bind_congr fun bundle => ?_
  cases bundle.primary isIpv6 <;> simp

@[simp] theorem ipSecondaryRemoveAll_prog :
    (ipSecondaryRemoveAll b isIpv6).prog = SwitchdSai.ipSecondaryRemoveAll b isIpv6 := by
  simp [ipSecondaryRemoveAll, SwitchdSai.ipSecondaryRemoveAll]

@[simp] theorem ofbundleIpRemove_prog :
    (ofbundleIpRemove b).prog = SwitchdSai.ofbundleIpRemove b := by
  simp [ofbundleIpRemove, SwitchdSai.ofbundleIpRemove]

@[simp] theorem ofbundleDestroy_prog :
    (ofbundleDestroy b).prog = SwitchdSai.ofbundleDestroy b := by
  simp [ofbundleDestroy, SwitchdSai.ofbundleDestroy, ofbundleRouterIntfRemove_eq]

@[simp] theorem bundleRemove_prog : (bundleRemove p).prog = SwitchdSai.bundleRemove p := by
  simp only [bundleRemove, SwitchdSai.bundleRemove, Traced.prog_bind, Traced.prog_lift]
  refine bind_congr fun port => ?_
  cases port.bundle <;> simp

@[simp] theorem ofbundlePortAdd_prog :
    (ofbundlePortAdd b sPort).prog = SwitchdSai.ofbundlePortAdd b sPort := by
  simp [ofbundlePortAdd, SwitchdSai.ofbundlePortAdd]

@[simp] theorem portsAdd_prog : (portsAdd b s).prog = SwitchdSai.portsAdd b s := by
  simp [portsAdd, SwitchdSai.portsAdd]

@[simp] theorem ofbundlePortsReconfigure_prog :
    (ofbundlePortsReconfigure b s).prog = SwitchdSai.ofbundlePortsReconfigure b s := by
  simp [ofbundlePortsReconfigure, SwitchdSai.ofbundlePortsReconfigure]

@[simp] theorem bundleApply_prog : (bundleApply b s).prog = SwitchdSai.bundleApply b s := by
  simp [bundleApply, SwitchdSai.bundleApply]

variable [OpenswitchIdl]

theorem bundleSet_prog {aux : Nat} :
    (bundleSet aux s).prog = SwitchdSai.bundleSet aux (some s) := by
  simp [bundleSet, SwitchdSai.bundleSet]

end

/-! ## What becomes of a failure -/

section
variable {b : BundlePtr} {s : OfprotoBundleSettings} {enable isIpv6 ipv6Prefix : Bool} {ip : String}
  {new : Option String} {rifType : RouterIntfType} {handle : Nat} {p : OfpPort}
  {sPort : Option OfpPort} {α : Type} {u : Traced OfprotoSai α} {good : α → Prop}

omit [OpenswitchIdl]

omit [OvsLib] [Build] in
/-- What changes the state and returns zero. -/
theorem zero_reports {m : Exec OfprotoSai Unit} :
    Traced.Reports (do liftM m; return 0 : Traced OfprotoSai Int) :=
  .bind (.quiet m) fun _ => .pure rfl

omit [OvsLib] [Build] in
theorem setRouterIntfHandles_reports {h : Option BundlePtr} {ports : List OfpPort} :
    Traced.Reports (Traced.quiet (forEach ports fun p => netdevSaiSetRouterIntfHandle p h)) :=
  .quiet_good fun _ _ _ => setRouterIntfHandles_zero

omit [OvsLib] [Build] in
theorem routerIntfCreate_reports : (routerIntfCreate b rifType handle).Reports := by
  refine .bind (.quiet _) fun bundle => .bind (.quiet _) fun vrid => ?_
  refine .bind_good (.callOf _ _) (fun r h0 => ?_) fun r h0 => ⟨r.1, if_pos h0, h0⟩
  have hok : (r.1 ≠ 0) = False := by simpa using h0
  simp only [hok, if_false]
  exact .bind (.quiet _) fun _ => setRouterIntfHandles_reports

omit [OvsLib] [Build] in
theorem routerIntfEnable_reports : (routerIntfEnable b enable).Reports :=
  .bind (.quiet _) fun _ => .ite (.thenOk (.call _) zero_reports) (.pure rfl)

omit [OvsLib] [Build] in
theorem routerIntfGiveUp_reports : (routerIntfGiveUp b).Reports :=
  .bind (.quiet _) fun _ =>
    .ite (.thenOk setRouterIntfHandles_reports (.thenOk (.call _) zero_reports)) (.pure rfl)

omit [OvsLib] [Build] in
theorem routerIntfRenew_reports {moved : Bool} :
    (routerIntfRenew b moved rifType handle enable).Reports :=
  .thenOk (.ite routerIntfGiveUp_reports (.pure rfl)) <| .bind (.quiet _) fun _ =>
    .thenOk (.ite (.pure rfl) routerIntfCreate_reports) routerIntfEnable_reports

theorem routerIntfApply_accounts (hu : u.Accounts good) :
    (routerIntfApply b rifType handle enable u).Accounts good :=
  .bind (.quiet _) fun _ => .dropAfter routerIntfRenew_reports hu

theorem ofbundleRouterIntfReconfigure_accounts (hu : u.Accounts good) :
    (ofbundleRouterIntfReconfigure b s u).Accounts good := by
  refine .bind (.quiet _) fun _ => .bind (.quiet _) fun _ => .bind (.quiet _) fun _ =>
    .bind (.quiet _) fun sPort => ?_
  cases sPort with
  | none => exact hu
  | some p =>
    refine .bind (.quiet _) fun port => ?_
    cases port.netdev.type with
    | internal => exact routerIntfApply_accounts hu
    | loopback => exact .bind (.quiet _) fun _ => hu
    | vlansubint => exact hu
    | system => exact routerIntfApply_accounts hu

omit [Build] in
theorem ofprotoIpAdd_reports : (ofprotoIpAdd ip isIpv6).Reports :=
  .bind (.quiet _) fun _ => .bind (.quiet _) fun _ => .call _

theorem ofprotoIpRemove_reports : (ofprotoIpRemove ip isIpv6).Reports :=
  .bind (.quiet _) fun _ => .bind (.quiet _) fun _ => .call _

theorem ipPrimaryReconfigure_reports : (ipPrimaryReconfigure b isIpv6 new).Reports := by
  refine .bind (.quiet _) fun bundle => .thenOk ?_ ?_
  · cases bundle.primary isIpv6 with
    | none => exact .pure rfl
    | some old => exact .ite (.pure rfl) (.thenOk ofprotoIpRemove_reports zero_reports)
  · cases new with
    | none => exact .pure rfl
    | some ip => exact .thenOk ofprotoIpAdd_reports zero_reports

theorem ipSecondaryRemove_reports : (ipSecondaryRemove b isIpv6 ipv6Prefix ip).Reports :=
  .thenOk ofprotoIpRemove_reports zero_reports

omit [Build] in
theorem ipSecondaryAdd_reports : (ipSecondaryAdd b isIpv6 ip).Reports :=
  .thenOk ofprotoIpAdd_reports zero_reports

theorem ofbundleIpSecondaryReconfigure_reports :
    (ofbundleIpSecondaryReconfigure b s isIpv6).Reports := by
  refine .bind (.quiet _) fun _ => .bind (.quiet _) fun _ => .bind (.quiet _) fun _ =>
    .thenOk (.forEach fun _ => .ite (.pure rfl) ipSecondaryRemove_reports) ?_
  exact .forEach fun _ => .bind (.quiet _) fun _ => .ite (.pure rfl) ipSecondaryAdd_reports

theorem ofbundleIpReconfigure_reports : (ofbundleIpReconfigure b s).Reports :=
  .thenOk (.ite ipPrimaryReconfigure_reports (.pure rfl)) <|
  .thenOk (.ite ipPrimaryReconfigure_reports (.pure rfl)) <|
  .thenOk (.ite ofbundleIpSecondaryReconfigure_reports (.pure rfl)) <|
  .ite ofbundleIpSecondaryReconfigure_reports (.pure rfl)

theorem ipPrimaryRemove_reports : (ipPrimaryRemove b isIpv6).Reports := by
  refine .bind (.quiet _) fun bundle => ?_
  cases bundle.primary isIpv6 with
  | none => exact .pure rfl
  | some ip => exact ofprotoIpRemove_reports

theorem ipSecondaryRemoveAll_reports : (ipSecondaryRemoveAll b isIpv6).Reports :=
  .bind (.quiet _) fun _ => .bind (.quiet _) fun _ => .forEach fun _ => ipSecondaryRemove_reports

theorem ofbundleIpRemove_reports : (ofbundleIpRemove b).Reports :=
  .thenOk ipPrimaryRemove_reports <| .thenOk ipPrimaryRemove_reports <|
  .thenOk ipSecondaryRemoveAll_reports ipSecondaryRemoveAll_reports

theorem ofbundleDestroy_drops : (ofbundleDestroy b).Drops :=
  .drop ofbundleIpRemove_reports <| .dropAfter routerIntfGiveUp_reports <|
    .bind (.quiet _) fun _ => .quiet _

theorem bundleRemove_drops : (bundleRemove p).Drops := by
  refine .bind (.quiet _) fun port => ?_
  cases port.bundle with
  | none => exact .pure trivial
  | some b =>
    exact .bind (.quiet _) fun _ => .bind (.quiet _) fun _ =>
      .ite ofbundleDestroy_drops (.pure trivial)

theorem ofbundlePortAdd_drops : (ofbundlePortAdd b sPort).Drops :=
  .bind (.quiet _) fun _ => .bind (.quiet _) fun _ => .bind bundleRemove_drops fun _ =>
    .bind (.quiet _) fun _ => .bind (.quiet _) fun _ =>
      .ite (.bind (.quiet _) fun _ => .quiet _) (.pure trivial)

theorem portsAdd_drops : (portsAdd b s).Drops :=
  .forEach_drops fun _ => .bind (.quiet _) fun _ => .bind (.quiet _) fun _ =>
    .ite (.pure trivial) ofbundlePortAdd_drops

theorem ofbundlePortsReconfigure_drops : (ofbundlePortsReconfigure b s).Drops :=
  .thenOk_drops (.quiet _) (.thenOk_drops (.quiet _) portsAdd_drops)

/-- Nothing that `__bundle_set` programs but VLANs is in its status. -/
theorem bundleApply_drops : (bundleApply b s).Drops := by
  refine .thenOk_drops ofbundlePortsReconfigure_drops (.ite (.pure trivial) ?_)
  refine .bind (.quiet _) fun _ => .ite ?_ (.pure trivial)
  exact ofbundleRouterIntfReconfigure_accounts (.drop ofbundleIpReconfigure_reports (.pure trivial))

variable [OpenswitchIdl]

theorem bundleSet_drops {aux : Nat} : (bundleSet aux s).Drops :=
  .ite (.pure trivial) (.bind (.quiet _) fun _ => bundleApply_drops)

end

end Calls

end SwitchdSai
