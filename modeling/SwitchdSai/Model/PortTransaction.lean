import SwitchdSai.Model.HostIntf
import SwitchdSai.Model.RouterIntf

/-!
# Port transactions

A port becomes a router port when a router interface is created on it, and a bridge port again when
that is removed. The router interface functions (`sai-vendor-router-intf.c`) announce both to the
callbacks on a list (`sai-port.c`), which replace the host interface of the port
(`sai-vendor-host-intf.c`) and reset its spanning tree state.
-/

namespace SwitchdSai

open Exec

/-- `enum ops_sai_port_transaction`. -/
inductive OpsSaiPortTransaction where
  | toL2
  | toL3
  deriving DecidableEq, Repr

/-- The functions that are registered as callbacks. -/
inductive PortTransactionClb where
  | mlnxPortTransactionToL2
  | portTransactionToL2
  | portTransactionToL3
  deriving DecidableEq, Repr

/-- `struct ops_sai_port_transaction_callback`. -/
structure OpsSaiPortTransactionCallback where
  callback : PortTransactionClb
  type : OpsSaiPortTransaction
  deriving DecidableEq, Repr

inductive SxMstpInstPortState where
  | discarding
  | learning
  | forwarding
  deriving DecidableEq, Repr

/-- What the port, router interface and host interface functions of the vendor work on. -/
structure Vendor where
  hw : Hw
  hostIntfs : HostIntfs
  /-- The spanning tree states of the port objects. -/
  rstp : Nat → SxMstpInstPortState
  callbackList : List OpsSaiPortTransactionCallback

namespace Vendor

def onHw {α : Type} (m : Exec Hw α) : Exec Vendor α := zoom hw (fun t s => { s with hw := t }) m

def onHostIntfs {α : Type} (m : Exec HostIntfs α) : Exec Vendor α :=
  zoom hostIntfs (fun t s => { s with hostIntfs := t }) m

/-! ## Callbacks -/

def opsSaiPortTransactionRegisterCallback (clb : PortTransactionClb)
    (type : OpsSaiPortTransaction) : Exec Vendor Int := do
  modify fun s => { s with callbackList := s.callbackList ++ [⟨clb, type⟩] }
  return 0

def opsSaiPortTransactionUnregisterCallback (clb : PortTransactionClb) : Exec Vendor Int := do
  modify fun s => { s with callbackList := s.callbackList.filter (·.callback ≠ clb) }
  return 0

/-- SDK `sx_api_rstp_port_state_set`. -/
def sxRstpPortStateSet (portId : Nat) (state : SxMstpInstPortState) : Exec Vendor SaiStatus := do
  let status ← onHw sxCall
  if status = .success then
    modify fun s => { s with rstp := Function.update s.rstp portId state }
    return status
  else return status

def mlnxPortTransactionToL2 (hwId : Nat) : Exec Vendor Unit := do
  let portId ← gets fun s => s.hw.opsSaiApiHwId2PortId hwId
  -- `mlnx_object_to_type`
  let saiStatus ← onHw sxCall
  assert "Failed to get port id" (saiStatus = .success)
  -- `sx_api_rstp_port_state_get`
  let status ← onHw sxCall
  if status ≠ .success then return
  let status ← sxRstpPortStateSet portId .discarding
  if status ≠ .success then return
  let _ ← sxRstpPortStateSet portId .forwarding
  return

def callback (hwId : Nat) : PortTransactionClb → Exec Vendor Unit
  | .mlnxPortTransactionToL2 => mlnxPortTransactionToL2 hwId
  | .portTransactionToL2 => onHostIntfs (portTransactionToL2 hwId)
  | .portTransactionToL3 => onHostIntfs (portTransactionToL3 hwId)

/-- `ops_sai_port_transaction`, with the handle of the port as its argument. -/
def opsSaiPortTransaction (handle : Nat) (transaction : OpsSaiPortTransaction) :
    Exec Vendor Unit := do
  let callbackList ← gets callbackList
  forAll callbackList fun iter =>
    if iter.type = transaction then callback (handle % 2 ^ 32) iter.callback else pure ()

/-! ## Initialization -/

/-- `__router_intf_init`. -/
def routerIntfInit : Exec Vendor Unit := do
  let err ← opsSaiPortTransactionRegisterCallback .mlnxPortTransactionToL2 .toL2
  assert "Failed to register port transaction callback" (err = 0)

/-- A command of `__host_intf_init` on the device `swid0_eth`. -/
def swid0EthCommand (label : String) : Exec Vendor Unit := do
  let err ← onHostIntfs (system (fun _ => true) id)
  assert label (err = 0)

/-- `__host_intf_init`. -/
def hostIntfInit : Exec Vendor Unit := do
  swid0EthCommand "Failed to link default namespace"
  swid0EthCommand "Failed to move swid0_eth device to swns namespace"
  swid0EthCommand "Failed to move swid0_eth device to swns namespace"
  let err ← opsSaiPortTransactionRegisterCallback .portTransactionToL2 .toL2
  assert "Failed to register port transaction to L2 callback " (err = 0)
  let err ← opsSaiPortTransactionRegisterCallback .portTransactionToL3 .toL3
  assert "Failed to register port transaction to L2 callback " (err = 0)
  -- `sx_net_init`
  let status ← onHostIntfs (sxNet (fun _ => true) id)
  assert "Failed to initialize SX net lib" (status = .success)

/-! ## Router interfaces -/

/-- The transaction made for a router interface. -/
def routerIntfTransaction (type : RouterIntfType) (handle : Nat)
    (transaction : OpsSaiPortTransaction) : Exec Vendor Unit :=
  if type = .port then opsSaiPortTransaction handle transaction else pure ()

/-- `__router_intf_create`, with the contents of `*rif_handle` after the call. -/
def routerIntfCreate (vrid : Nat) (type : RouterIntfType) (handle rifHandle : Nat) :
    Exec Vendor (Int × Nat) := do
  let ifc ← onHw (intfParamsIfc type handle)
  -- `sx_api_port_phys_addr_get`: no address is ever given
  let status ← onHw sxCall
  if status ≠ .success then return (sxError2Errno status, rifHandle)
  let (status, rif) ← onHw (sxRouterInterfaceAdd vrid type ifc)
  if status ≠ .success then return (sxError2Errno status, rifHandle)
  let (status, counter) ← onHw sxRouterCounterCreate
  if status ≠ .success then return (sxError2Errno status, rifHandle)
  let status ← onHw (sxRouterInterfaceCounterBind counter rif)
  if status ≠ .success then return (sxError2Errno status, rifHandle)
  routerIntfTransaction type handle .toL3
  let found ← gets fun s => s.hw.routerIntfEntryFind rif
  assert "!__router_intf_entry_hmap_find" found.isNone
  onHw (modify fun hw =>
    { hw with allRouterIntf := ⟨rif, counter, type, handle⟩ :: hw.allRouterIntf })
  return (0, rif)

/-- `__router_intf_remove`. -/
def routerIntfRemove (rifHandle : Nat) : Exec Vendor Int := do
  let found ← gets fun s => s.hw.routerIntfEntryFind rifHandle
  let routerIntf ← need (.assertion "router_intf") found
  let status ← onHw (sxRouterInterfaceCounterUnbind routerIntf.counterId routerIntf.rifId)
  if status ≠ .success then return sxError2Errno status
  let status ← onHw (sxRouterCounterDestroy routerIntf.counterId)
  if status ≠ .success then return sxError2Errno status
  let status ← onHw (sxRouterInterfaceGet routerIntf.rifId)
  if status ≠ .success then return sxError2Errno status
  let status ← onHw (sxRouterInterfaceDelete routerIntf.rifId)
  if status ≠ .success then return sxError2Errno status
  routerIntfTransaction routerIntf.type routerIntf.handle .toL2
  onHw (modify (Hw.routerIntfEntryDel rifHandle))
  return 0

end Vendor

end SwitchdSai
