import SwitchdSai.Lib.Logged
import SwitchdSai.Model.Netdev

/-!
# Port state notifications

What the plugin does when SAI reports that ports have changed their state (`sai-api-class.c`,
`sai-netdev.c`), with the writes it makes to netdevs. A loop over a list of the OVS library that
runs to its end leaves in its iterator the container of the list head, which is no netdev.
-/

namespace SwitchdSai

open Exec Exec.Logged

/-- `sai_port_oper_status_t`. -/
inductive SaiPortOperStatus where
  | unknown
  | up
  | down
  | testing
  | notPresent
  deriving DecidableEq, Repr

/-- `sai_port_oper_status_notification_t`. -/
structure SaiPortOperStatusNotification where
  portId : Nat
  portState : SaiPortOperStatus
  deriving DecidableEq, Repr

/-- A `struct netdev_sai` with what a notification changes in it. -/
structure NetdevLink where
  netdev : NetdevSai
  carrierResets : Int
  /-- How often `netdev_change_seq_changed` has been called for it. -/
  changes : Nat
  deriving DecidableEq, Repr

structure NetdevLinks where
  saiNetdevList : List NetdevLink
  saiLableIdToOidMap : Nat → Nat

/-- A `struct netdev_sai *`. -/
inductive NetdevPtr where
  | null
  /-- The netdev at a position of `sai_netdev_list`. -/
  | node (i : Nat)
  /-- The container of the list head. -/
  | head
  deriving DecidableEq, Repr

/-- A write to a field of what a pointer points to. -/
inductive NetdevWrite where
  | carrierResets (dev : NetdevPtr)
  | changeSeq (dev : NetdevPtr)
  deriving DecidableEq, Repr

/-- The iterator after `LIST_FOR_EACH_SAFE` with a break at a netdev that satisfies `p`. -/
def listForEachSafe (p : NetdevLink → Bool) (devs : List NetdevLink) : NetdevPtr :=
  match devs.findIdx? p with
  | some i => .node i
  | none => .head

/-- Change what a pointer points to. The memory around the list head is no part of the state. -/
def modifyPtr (f : NetdevLink → NetdevLink) : NetdevPtr → Exec NetdevLinks Unit
  | .null => halt (.undefined "netdev")
  | .node i => modify fun s => { s with saiNetdevList := s.saiNetdevList.modify i f }
  | .head => pure ()

/-- What `netdev_sai_port_oper_state_changed` does to the netdev it has found. -/
def linkChanged (linkStatus : Bool) (dev : NetdevPtr) : Logged NetdevWrite NetdevLinks Unit := do
  if linkStatus then
    mark (.carrierResets dev) <|
      modifyPtr (fun dev => { dev with carrierResets := dev.carrierResets + 1 }) dev
  mark (.changeSeq dev) <| modifyPtr (fun dev => { dev with changes := dev.changes + 1 }) dev

def netdevSaiPortOperStateChanged (oid : Nat) (linkStatus : Bool) :
    Logged NetdevWrite NetdevLinks Unit := do
  let dev ← quiet <| gets fun s => listForEachSafe (fun dev =>
    dev.netdev.isPortInitialized && s.saiLableIdToOidMap dev.netdev.hwId = oid) s.saiNetdevList
  if dev = .null then pure () else linkChanged linkStatus dev

/-- `__event_port_state`. -/
def eventPortState : List SaiPortOperStatusNotification → Logged NetdevWrite NetdevLinks Unit
  | [] => pure ()
  | notification :: data => do
    netdevSaiPortOperStateChanged notification.portId (notification.portState = .up)
    eventPortState data

end SwitchdSai
