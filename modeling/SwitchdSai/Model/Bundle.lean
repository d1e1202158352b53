import SwitchdSai.Model.BundleConfig

/-!
# Ports and the life of a bundle

The functions of `sai-ofproto-provider.c` that link ports and bundles and that create, change and
destroy bundles: `__bundle_set` and `__bundle_remove` with what they call.
-/

namespace SwitchdSai

open Exec OfprotoSai

variable [OvsLib] [Build]

/-- The VLANs a port joins when it is added to a bundle. -/
def portVlansJoin (bundle : OfbundleSai) (hwId : Nat) : Exec Hw Int :=
  (if bundle.vlan ≠ -1 then opsSaiVlanAccessPortAdd (saiVlanId bundle.vlan) hwId
    else pure 0).thenOk <|
  match bundle.trunks with
  | some trunks => opsSaiVlanTrunksPortAdd trunks hwId
  | none => pure 0

/-- The VLANs a port leaves when it is removed from a bundle. -/
def portVlansLeave (bundle : OfbundleSai) (hwId : Nat) : Exec Hw Int :=
  (if bundle.vlan ≠ -1 then opsSaiVlanAccessPortDel (saiVlanId bundle.vlan) hwId
    else pure 0).thenOk <|
  match bundle.trunks with
  | some trunks => opsSaiVlanTrunksPortDel trunks hwId
  | none => pure 0

def ofbundlePortDel (p : OfpPort) : Exec OfprotoSai Int := do
  let port ← ofport p
  let b ← need (.undefined "port->bundle") port.bundle
  let bundle ← ofbundle b
  let status ←
    (if port.netdev.type = .system then onHw (portVlansLeave bundle port.netdev.netdevSaiHwIdGet)
      else pure 0)
  modifyBundle b fun bundle => { bundle with ports := bundle.ports.erase p }
  modifyPort p fun port => { port with bundle := none }
  return status

/-- `__ofbundle_destroy` for a bundle that exists. Every status is dropped. -/
def ofbundleDestroy (b : BundlePtr) : Exec OfprotoSai Unit := do
  let _ ← ofbundleIpRemove b
  let _ ← ofbundleRouterIntfRemove b
  let bundle ← ofbundle b
  forAll bundle.ports fun p => do
    let _ ← ofbundlePortDel p
    pure ()
  modify fun o => { o with bundles := o.bundles.erase b }

def bundleRemove (p : OfpPort) : Exec OfprotoSai Unit := do
  let port ← ofport p
  match port.bundle with
  | none => return
  | some b =>
    let _ ← ofbundlePortDel p
    let bundle ← ofbundle b
    if bundle.ports = [] then ofbundleDestroy b else return

def ofbundlePortAdd (b : BundlePtr) (sPort : Option OfpPort) : Exec OfprotoSai Int := do
  let p ← need (.undefined "port") sPort
  let port ← ofport p
  -- Port belongs to other bundle - remove.
  bundleRemove p
  modifyPort p fun port => { port with bundle := some b }
  modifyBundle b fun bundle => { bundle with ports := bundle.ports ++ [p] }
  if port.netdev.type = .system then
    let bundle ← ofbundle b
    onHw (portVlansJoin bundle port.netdev.netdevSaiHwIdGet)
  else return 0

/-- Whether a port is one of the slaves of the settings. -/
def OfprotoSai.isSlave (o : OfprotoSai) (s : OfprotoBundleSettings) (p : OfpPort) : Bool :=
  s.slaves.any fun slave => o.getOfpPort slave = some p

/-- The first loop of `__ofbundle_ports_reconfigure`: remove the ports that are no slaves. -/
def portsRemove (b : BundlePtr) (s : OfprotoBundleSettings) : Exec OfprotoSai Int := do
  let bundle ← ofbundle b
  forEach bundle.ports fun p => do
    let portFound ← gets fun o => o.isSlave s p
    if portFound then return 0 else ofbundlePortDel p

/-- The last loop of `__ofbundle_ports_reconfigure`: add the slaves that are no ports. -/
def portsAdd (b : BundlePtr) (s : OfprotoBundleSettings) : Exec OfprotoSai Int :=
  forEach s.slaves fun slave => do
    let sPort ← gets fun o => o.getOfpPort slave
    let bundle ← ofbundle b
    if bundle.ports.any fun p => some p = sPort then return 0 else ofbundlePortAdd b sPort

def ofbundlePortsReconfigure (b : BundlePtr) (s : OfprotoBundleSettings) : Exec OfprotoSai Int :=
  (portsRemove b s).thenOk <| (vlanReconfigure b s).thenOk <| portsAdd b s

def ofbundleCreate (aux : Nat) (s : OfprotoBundleSettings) : Exec OfprotoSai BundlePtr := do
  let n ← onHw Hw.choose
  let b ← gets fun o => fresh n o.bundles.keys
  modify fun o => { o with bundles := o.bundles.insert b (.alloc aux s.trunks) }
  return b

def ofbundleLookup (aux : Nat) : Exec OfprotoSai (Option BundlePtr) := do
  assert "aux" (aux ≠ 0)
  gets fun o => (o.bundles.entries.find? fun e => e.2.aux = aux).map fun e => e.1

def ofbundleLookupOrCreate (aux : Nat) (s : OfprotoBundleSettings) :
    Exec OfprotoSai BundlePtr := do
  let bundle ← ofbundleLookup aux
  match bundle with
  | some b => return b
  | none => ofbundleCreate aux s

/-- What `__bundle_set` does with the bundle for settings that are given. -/
def bundleApply (b : BundlePtr) (s : OfprotoBundleSettings) : Exec OfprotoSai Int :=
  (ofbundlePortsReconfigure b s).thenOk do
    if 1 < s.slaves.length then return -1
    let type ← gets OfprotoSai.type
    if type = .vrf then
      let _ ← ofbundleRouterIntfReconfigure b s
      let _ ← ofbundleIpReconfigure b s
      return 0
    else return 0

variable [OpenswitchIdl]

def bundleSet (aux : Nat) : Option OfprotoBundleSettings → Exec OfprotoSai Int
  | none => do
    let bundle ← ofbundleLookup aux
    match bundle with
    | none => return 0
    | some b =>
      ofbundleDestroy b
      return 0
  | some s => do
    if s.name = OpenswitchIdl.DEFAULT_BRIDGE_NAME then return 0
    let b ← ofbundleLookupOrCreate aux s
    bundleApply b s

end SwitchdSai
