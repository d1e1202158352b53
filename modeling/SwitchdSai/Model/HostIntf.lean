import Mathlib.Data.List.AList
import SwitchdSai.Lib.Exec
import SwitchdSai.Lib.Walk
import SwitchdSai.Model.Base

/-!
# Host interfaces

The vendor functions that create and remove the Linux network devices of ports and VLANs
(`sai-vendor-host-intf.c`), over the table `all_host_intf` and the devices the kernel has. The
environment decides the exit code of each shell command and the outcome of each SDK call; one that
fails has no effect. The kernel and the SDK refuse a name that is taken or longer than `IFNAMSIZ`.
-/

namespace SwitchdSai

open Exec

inductive HostIntfType where
  | l2PortNetdev
  | l3PortNetdev
  | l3VlanNetdev
  deriving DecidableEq, Repr

/-- `struct hif_entry`, without its key `name`. -/
structure HifEntry where
  type : HostIntfType
  handle : Nat
  mac : EthAddr
  deriving DecidableEq, Repr

/-- A network device of the kernel, with the type it was created as and the handle it was created
for. -/
structure HostNetdev where
  name : String
  type : HostIntfType
  handle : Nat
  deriving DecidableEq, Repr

structure HostIntfs where
  allHostIntf : AList fun _ : String => HifEntry
  kernel : List HostNetdev
  /-- The exit codes of the shell commands to come; every command after them succeeds. -/
  exitCodes : List (BitVec 8)
  /-- The outcomes of the SDK calls to come. -/
  outcomes : List SaiStatus
  choices : List Nat

def IFNAMSIZ : Nat := 16

namespace HostIntfs

def taken (s : HostIntfs) (name : String) : Bool := s.kernel.any (·.name = name)

/-- Whether a device named `name` can be created. -/
def free (s : HostIntfs) (name : String) : Bool :=
  !s.taken name && decide (name.utf8ByteSize < IFNAMSIZ)

def create (dev : HostNetdev) (s : HostIntfs) : HostIntfs := { s with kernel := dev :: s.kernel }

def remove (p : HostNetdev → Bool) (s : HostIntfs) : HostIntfs :=
  { s with kernel := s.kernel.filter fun dev => !p dev }

/-- A device created through the SDK for `handle`. -/
def isL3Port (handle : Nat) (dev : HostNetdev) : Bool :=
  dev.type = .l3PortNetdev && dev.handle = handle

def exitCode (s : HostIntfs) : BitVec 8 := s.exitCodes.headD 0

def nextOutcome (s : HostIntfs) : SaiStatus := s.outcomes.headD .success

/-- The state after a shell command. -/
def tickCode (s : HostIntfs) : HostIntfs := { s with exitCodes := s.exitCodes.tail }

/-- The state after an SDK call. -/
def tick (s : HostIntfs) : HostIntfs := { s with outcomes := s.outcomes.tail }

end HostIntfs

/-- `system`, for a command that can be carried out when `valid` holds and then has the effect
`effect`. It returns the wait status, whose bits 8 to 15 are the exit code. -/
def system (valid : HostIntfs → Bool) (effect : HostIntfs → HostIntfs) : Exec HostIntfs Nat :=
  fun s =>
    if s.exitCode = 0 then
      if valid s then .ok (0, effect s.tickCode) else .ok (2 <<< 8, s.tickCode)
    else .ok (s.exitCode.toNat <<< 8, s.tickCode)

def WEXITSTATUS (status : Nat) : Nat := (status >>> 8) &&& 0xff

/-- An SDK call. -/
def sxNet (valid : HostIntfs → Bool) (effect : HostIntfs → HostIntfs) :
    Exec HostIntfs SaiStatus := fun s =>
  if s.nextOutcome = .success then
    if valid s then .ok (.success, effect s.tick) else .ok (.failure, s.tick)
  else .ok (s.nextOutcome, s.tick)

/-- `ip link add`. -/
def ipLinkAdd (dev : HostNetdev) : Exec HostIntfs Nat :=
  system (fun s => s.free dev.name) (HostIntfs.create dev)

/-- `ip link set dev NAME address MAC`. -/
def ipLinkSetAddress (name : String) : Exec HostIntfs Nat := system (fun s => s.taken name) id

/-- `ip link del dev NAME`. -/
def ipLinkDel (name : String) : Exec HostIntfs Nat :=
  system (fun s => s.taken name) (HostIntfs.remove (·.name = name))

/-- SDK `sx_net_interface_set` with `SX_ACCESS_CMD_CREATE`. -/
def sxNetInterfaceCreate (name : String) (handle : Nat) : Exec HostIntfs SaiStatus :=
  sxNet (fun s => s.free name && !s.kernel.any (HostIntfs.isL3Port handle))
    (HostIntfs.create ⟨name, .l3PortNetdev, handle⟩)

/-- SDK `sx_net_interface_set` with `SX_ACCESS_CMD_DESTROY`. -/
def sxNetInterfaceDestroy (handle : Nat) : Exec HostIntfs SaiStatus :=
  sxNet (fun s => s.kernel.any (HostIntfs.isL3Port handle))
    (HostIntfs.remove (HostIntfs.isL3Port handle))

/-- `mlnx_object_to_type` on a port, whose failure aborts. -/
def mlnxObjectToType : Exec HostIntfs Unit := do
  let status ← sxNet (fun _ => true) id
  assert "Failed to get port id" (status = .success)

def mlnxCreateL2PortNetdev (name : String) (handle : Nat) : Exec HostIntfs Int := do
  mlnxObjectToType
  let err ← ipLinkAdd ⟨name, .l2PortNetdev, handle⟩
  if WEXITSTATUS err ≠ 0 then return err
  let err ← ipLinkSetAddress name
  return err

def mlnxRemoveNetdev (name : String) : Exec HostIntfs Int := do
  let status ← ipLinkDel name
  return ((0xff &&& status : Nat) : Int)

def mlnxCreateL3PortNetdev (name : String) (handle : Nat) : Exec HostIntfs Int := do
  mlnxObjectToType
  let status ← sxNetInterfaceCreate name handle
  if status ≠ .success then return sxError2Errno status
  let err ← ipLinkSetAddress name
  return err

/-- `__host_intf_entry_hmap_find` on `all_host_intf`. -/
def hostIntfEntryFind (name : String) : Exec HostIntfs (Option HifEntry) :=
  gets fun s => s.allHostIntf.lookup name

def mlnxRemoveL3PortNetdev (name : String) : Exec HostIntfs Int := do
  let hif ← hostIntfEntryFind name
  match hif with
  | none => return 0
  | some hif => return sxError2Errno (← sxNetInterfaceDestroy hif.handle)

def mlnxCreateL3VlanNetdev (name : String) (handle : Nat) : Exec HostIntfs Int := do
  let err ← ipLinkAdd ⟨name, .l3VlanNetdev, handle⟩
  return err

/-- `__host_intf_entry_hmap_add` on `all_host_intf`. -/
def hostIntfEntryAdd (name : String) (hif : HifEntry) : Exec HostIntfs Unit := do
  let found ← hostIntfEntryFind name
  assert "!__host_intf_entry_hmap_find" found.isNone
  modify fun s => { s with allHostIntf := s.allHostIntf.insert name hif }

/-- `__host_intf_entry_hmap_del` on `all_host_intf`. -/
def hostIntfEntryDel (name : String) : Exec HostIntfs Unit :=
  modify fun s => { s with allHostIntf := s.allHostIntf.erase name }

/-- The switch of `__host_intf_netdev_create`. -/
def mlnxCreateNetdev (name : String) (handle : Nat) : HostIntfType → Exec HostIntfs Int
  | .l2PortNetdev => mlnxCreateL2PortNetdev name handle
  | .l3PortNetdev => mlnxCreateL3PortNetdev name handle
  | .l3VlanNetdev => mlnxCreateL3VlanNetdev name handle

def hostIntfNetdevCreate (name : String) (type : HostIntfType) (handle : Nat) (mac : EthAddr) :
    Exec HostIntfs Int := do
  let err ← mlnxCreateNetdev name handle type
  if err ≠ 0 then return err
  hostIntfEntryAdd name ⟨type, handle, mac⟩
  return err

/-- The switch of `__host_intf_netdev_remove`. -/
def mlnxRemoveNetdevOfType (name : String) : HostIntfType → Exec HostIntfs Int
  | .l2PortNetdev | .l3VlanNetdev => mlnxRemoveNetdev name
  | .l3PortNetdev => mlnxRemoveL3PortNetdev name

def hostIntfNetdevRemove (name : String) : Exec HostIntfs Int := do
  let found ← hostIntfEntryFind name
  let hif ← need (.assertion "hif") found
  let err ← mlnxRemoveNetdevOfType name hif.type
  if err ≠ 0 then return err
  hostIntfEntryDel name
  return err

/-- Whether an entry is the host interface of the port with label `hwId`. -/
def HifEntry.isPort (hif : HifEntry) (hwId : Nat) : Bool :=
  (hif.type = .l2PortNetdev || hif.type = .l3PortNetdev) && hif.handle = hwId

/-- The first host interface of the port with label `hwId`, in the order of the table. -/
def hostIntfOfPort (hwId : Nat) : Exec HostIntfs (String × HifEntry) := fun s =>
  let entries := walk (s.choices.headD 0) (s.allHostIntf.entries.map fun e => (e.1, e.2))
  match entries.find? fun e => e.2.isPort hwId with
  | some e => .ok (e, { s with choices := s.choices.tail })
  | none => .error (.assertion "found")

/-- Set the type of an entry. -/
def hostIntfEntrySetType (name : String) (hif : HifEntry) (type : HostIntfType) :
    Exec HostIntfs Unit :=
  modify fun s => { s with allHostIntf := s.allHostIntf.insert name { hif with type := type } }

def portTransactionToL2 (hwId : Nat) : Exec HostIntfs Unit := do
  let (name, hif) ← hostIntfOfPort hwId
  if hif.type = .l2PortNetdev then return
  let err ← mlnxRemoveL3PortNetdev name
  if err ≠ 0 then return
  let err ← mlnxCreateL2PortNetdev name hif.handle
  if err ≠ 0 then return
  hostIntfEntrySetType name hif .l2PortNetdev

def portTransactionToL3 (hwId : Nat) : Exec HostIntfs Unit := do
  let (name, hif) ← hostIntfOfPort hwId
  if hif.type = .l3PortNetdev then return
  let err ← mlnxRemoveNetdev name
  if err ≠ 0 then return
  let err ← mlnxCreateL3PortNetdev name hif.handle
  if err ≠ 0 then return
  hostIntfEntrySetType name hif .l3PortNetdev

end SwitchdSai
