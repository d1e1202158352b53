import SwitchdSai.Model.Hardware

/-!
# Router interfaces

The vendor functions that create and remove router interfaces (`sai-vendor-router-intf.c`), over
the SDK's interfaces and counters and the table `all_router_intf`. The callbacks of a port
transaction change host interfaces and spanning tree states, which have no part in this state.
-/

namespace SwitchdSai

open Exec

namespace Hw

/-- `__router_intf_entry_hmap_find` on `all_router_intf`. -/
def routerIntfEntryFind (hw : Hw) (rifHandle : Nat) : Option RifEntry :=
  hw.allRouterIntf.find? (·.rifId = rifHandle)

/-- `__router_intf_entry_hmap_del` on `all_router_intf`. -/
def routerIntfEntryDel (rifHandle : Nat) (hw : Hw) : Hw :=
  { hw with allRouterIntf := hw.allRouterIntf.eraseP (·.rifId = rifHandle) }

def bindCounter (rif : Nat) (counter : Option Nat) (hw : Hw) : Hw :=
  match hw.routerIntfs.lookup rif with
  | some r => { hw with routerIntfs := hw.routerIntfs.insert rif { r with counter := counter } }
  | none => hw

end Hw

/-- SDK `sx_api_router_interface_set`, adding an interface under an id that is not in use. -/
def sxRouterInterfaceAdd (vrid : Nat) (type : RouterIntfType) (ifc : Nat) :
    Exec Hw (SaiStatus × Nat) := do
  let n ← Hw.choose
  let rif ← gets fun hw => fresh n hw.routerIntfs.keys
  let status ← Hw.call fun hw =>
    { hw with routerIntfs := hw.routerIntfs.insert rif ⟨vrid, type, ifc, false, none⟩ }
  pure (status, rif)

/-- SDK `sx_api_router_interface_set`, deleting an interface with the neighbors on it. -/
def sxRouterInterfaceDelete (rif : Nat) : Exec Hw SaiStatus :=
  Hw.callIf (fun hw => (hw.routerIntfs.lookup rif).isSome) fun hw =>
    { hw with
      routerIntfs := hw.routerIntfs.erase rif
      neighbors := Function.update hw.neighbors rif fun _ => none }

def sxRouterInterfaceGet (rif : Nat) : Exec Hw SaiStatus :=
  Hw.callIf (fun hw => (hw.routerIntfs.lookup rif).isSome) id

def sxRouterInterfaceStateSet (rif : Nat) (enable : Bool) : Exec Hw SaiStatus :=
  Hw.callIf (fun hw => (hw.routerIntfs.lookup rif).isSome) fun hw =>
    match hw.routerIntfs.lookup rif with
    | some r => { hw with routerIntfs := hw.routerIntfs.insert rif { r with enabled := enable } }
    | none => hw

/-- SDK `sx_api_router_counter_set`, creating a counter. -/
def sxRouterCounterCreate : Exec Hw (SaiStatus × Nat) := do
  let n ← Hw.choose
  let counter ← gets fun hw => fresh n hw.counters
  let status ← Hw.call fun hw => { hw with counters := counter :: hw.counters }
  pure (status, counter)

def sxRouterCounterDestroy (counter : Nat) : Exec Hw SaiStatus :=
  Hw.callIf (fun hw => decide (counter ∈ hw.counters))
    fun hw => { hw with counters := hw.counters.erase counter }

def sxRouterInterfaceCounterBind (counter rif : Nat) : Exec Hw SaiStatus :=
  Hw.callIf (fun hw => (hw.routerIntfs.lookup rif).isSome) (Hw.bindCounter rif (some counter))

def sxRouterInterfaceCounterUnbind (counter rif : Nat) : Exec Hw SaiStatus :=
  Hw.callIf (fun hw => (hw.routerIntfs.lookup rif).any (·.counter = some counter))
    (Hw.bindCounter rif none)

/-- An SDK call that reads, or whose effect is not part of the state. -/
def sxCall : Exec Hw SaiStatus := Hw.call id

/-- `intf_params.ifc` of an interface to be created. -/
def intfParamsIfc (type : RouterIntfType) (handle : Nat) : Exec Hw Nat :=
  match type with
  | .port => do
    let portId ← gets fun hw => hw.opsSaiApiHwId2PortId handle
    -- `mlnx_object_to_type`
    let status ← sxCall
    assert "Failed to get port id" (status = .success)
    pure portId
  | .vlan => pure (handle % 65536)

/-- `__router_intf_create`, with the contents of `*rif_handle` after the call. -/
def opsSaiRouterIntfCreate (vrid : Nat) (type : RouterIntfType) (handle rifHandle : Nat) :
    Exec Hw (Int × Nat) := do
  let ifc ← intfParamsIfc type handle
  -- `sx_api_port_phys_addr_get`: no address is ever given
  let status ← sxCall
  if status ≠ .success then return (sxError2Errno status, rifHandle)
  let (status, rif) ← sxRouterInterfaceAdd vrid type ifc
  if status ≠ .success then return (sxError2Errno status, rifHandle)
  let (status, counter) ← sxRouterCounterCreate
  if status ≠ .success then return (sxError2Errno status, rifHandle)
  let status ← sxRouterInterfaceCounterBind counter rif
  if status ≠ .success then return (sxError2Errno status, rifHandle)
  let found ← gets fun hw => hw.routerIntfEntryFind rif
  assert "!__router_intf_entry_hmap_find" found.isNone
  modify fun hw => { hw with allRouterIntf := ⟨rif, counter, type, handle⟩ :: hw.allRouterIntf }
  return (0, rif)

def opsSaiRouterIntfRemove (rifHandle : Nat) : Exec Hw Int := do
  let found ← gets fun hw => hw.routerIntfEntryFind rifHandle
  let routerIntf ← need (.assertion "router_intf") found
  let status ← sxRouterInterfaceCounterUnbind routerIntf.counterId routerIntf.rifId
  if status ≠ .success then return sxError2Errno status
  let status ← sxRouterCounterDestroy routerIntf.counterId
  if status ≠ .success then return sxError2Errno status
  let status ← sxRouterInterfaceGet routerIntf.rifId
  if status ≠ .success then return sxError2Errno status
  let status ← sxRouterInterfaceDelete routerIntf.rifId
  if status ≠ .success then return sxError2Errno status
  modify (Hw.routerIntfEntryDel rifHandle)
  return 0

def opsSaiRouterIntfSetState (rifHandle : Nat) (state : Bool) : Exec Hw Int := do
  let found ← gets fun hw => hw.routerIntfEntryFind rifHandle
  let routerIntf ← need (.assertion "router_intf") found
  let status ← sxRouterInterfaceStateSet routerIntf.rifId state
  return sxError2Errno status

end SwitchdSai
