import Mathlib.Data.List.AList
import SwitchdSai.Lib.Exec
import SwitchdSai.Lib.Walk
import SwitchdSai.Model.Base

/-!
# Traps

Registration of the packet traps, with the policers they need (`sai-host-intf.c`, `sai-policer.c`)
and the traps that the vendor adds through the SDK (`vendor/mlnx/sai-vendor-host-intf.c`). The
tables of trap groups are the fields of `TrapTables`. The environment decides the outcome of each
SAI and SDK call, the identifiers of what the calls create, the addresses of allocated entries, and
which trap groups SAI has in use at each registration. `calls` records the calls that succeeded and
`freedLinked` the entries that were freed while they were on a list.
-/

namespace SwitchdSai

open Exec

/-- `struct ops_sai_policer_config`. -/
structure OpsSaiPolicerConfig where
  rateMax : Nat
  burstMax : Nat
  deriving DecidableEq, Repr

/-- `struct ops_sai_trap_group_config`; `trapIds` are the identifiers before the terminator. -/
structure OpsSaiTrapGroupConfig where
  trapIds : List Int
  policerConfig : OpsSaiPolicerConfig
  priority : Nat
  isLog : Bool
  isL3 : Bool
  deriving DecidableEq, Repr

/-- What is configured at build time. -/
class TrapTables where
  /-- `trap_group_config_table`. -/
  trapGroupConfigTable : List OpsSaiTrapGroupConfig
  /-- `mlnx_trap_group_config`. -/
  mlnxTrapGroupConfig : List OpsSaiTrapGroupConfig
  /-- `MAX_TRAP_GROUPS` of the vendor's SAI. -/
  maxTrapGroups : Nat

/-- `struct ops_sai_trap_group_entry`, without the name and the links. -/
structure OpsSaiTrapGroupEntry where
  trapGroup : Nat
  policer : Nat
  deriving DecidableEq, Repr

/-- The lists that trap group entries are linked into. -/
inductive TrapGroupList where
  /-- `sai_trap_group_list`. -/
  | sai
  /-- `mlnx_trap_group_list`. -/
  | mlnx
  deriving DecidableEq, Repr

/-- `SAI_HOSTIF_TRAP_CHANNEL_NETDEV` and `SAI_HOSTIF_TRAP_CHANNEL_L2_NETDEV`. -/
inductive SaiHostifTrapChannel where
  | netdev
  | l2Netdev
  deriving DecidableEq, Repr

/-- The calls into SAI and the SDK. -/
inductive TrapsHwCall where
  | createPolicer (policer : Nat) (config : OpsSaiPolicerConfig)
  | removePolicer (policer : Nat)
  | createHostifTrapGroup (group prio policer : Nat)
  | removeHostifTrapGroup (group : Nat)
  | setTrapPacketAction (trapId : Int) (log : Bool)
  | setTrapChannel (trapId : Int) (channel : SaiHostifTrapChannel)
  | setTrapGroup (trapId : Int) (group : Nat)
  | sxTrapGroupSet (group prio : Nat)
  | sxPolicerCreate (policer : Nat) (config : OpsSaiPolicerConfig)
  | sxPolicerDestroy (policer : Nat)
  | sxPolicerBind (group policer : Nat)
  | sxPolicerUnbind (group policer : Nat)
  | sxTrapIdRegister (trapId : Int) (l3 : Bool)
  | sxTrapIdDeregister (trapId : Int) (l3 : Bool)
  | sxTrapIdSet (trapId : Int) (group : Nat) (log : Bool)
  deriving DecidableEq, Repr

/-- What the calls create and remove. -/
inductive TrapsObject where
  | policer (policer : Nat)
  | trapGroup (group : Nat)
  | sxPolicer (policer : Nat)
  deriving DecidableEq, Repr

def TrapsHwCall.creates : TrapsHwCall → Option TrapsObject
  | .createPolicer policer _ => some (.policer policer)
  | .createHostifTrapGroup group _ _ => some (.trapGroup group)
  | .sxPolicerCreate policer _ => some (.sxPolicer policer)
  | _ => none

def TrapsHwCall.removes : TrapsHwCall → Option TrapsObject
  | .removePolicer policer => some (.policer policer)
  | .removeHostifTrapGroup group => some (.trapGroup group)
  | .sxPolicerDestroy policer => some (.sxPolicer policer)
  | _ => none

structure Traps where
  /-- The entries on each list, by address. -/
  list : TrapGroupList → List Nat
  /-- The entries that are allocated. -/
  heap : AList fun _ : Nat => OpsSaiTrapGroupEntry
  freedLinked : List Nat
  /-- The outcomes of the calls to come; every call after them succeeds. -/
  outcomes : List SaiStatus
  choices : List Nat
  /-- `g_sai_db_ptr->trap_group_valid` as the registrations to come find it. -/
  trapGroupValid : List (Nat → Bool)
  /-- The calls that succeeded, in order. -/
  calls : List TrapsHwCall

namespace Traps

/-- Nothing registered; every call succeeds. -/
def reset (choices : List Nat) (trapGroupValid : List (Nat → Bool)) : Traps :=
  ⟨fun _ => [], ∅, [], [], choices, trapGroupValid, []⟩

def linked (s : Traps) (node : Nat) : Bool := node ∈ s.list .sai || node ∈ s.list .mlnx

def setList (l : TrapGroupList) (nodes : List Nat) (s : Traps) : Traps :=
  { s with list := Function.update s.list l nodes }

theorem setList_of_ne {l l' : TrapGroupList} (nodes : List Nat) (s : Traps) (h : l' ≠ l) :
    (s.setList l nodes).list l' = s.list l' := Function.update_of_ne h _ _

def nextOutcome (s : Traps) : SaiStatus := s.outcomes.headD .success

/-- The state after a call. -/
def tick (s : Traps) : Traps := { s with outcomes := s.outcomes.tail }

/-- A call into SAI or the SDK. -/
def hwCall (call : TrapsHwCall) : Exec Traps SaiStatus := fun s =>
  if s.nextOutcome = .success then .ok (.success, { s.tick with calls := s.calls ++ [call] })
  else .ok (s.nextOutcome, s.tick)

/-- A number the environment chooses, outside `used`. -/
def chooseFresh (used : Traps → List Nat) : Exec Traps Nat := fun s =>
  .ok (fresh (s.choices.headD 0) (used s), { s with choices := s.choices.tail })

/-- What exists: everything created and not removed since. -/
def objects (s : Traps) : List TrapsObject :=
  (s.calls.filterMap (·.creates)).diff (s.calls.filterMap (·.removes))

/-- The identifier of a new object of a kind. -/
def newObject (kind : Nat → TrapsObject) : Exec Traps Nat :=
  chooseFresh fun s => s.objects.filterMap fun
    | .policer n => if kind n = .policer n then some n else none
    | .trapGroup n => if kind n = .trapGroup n then some n else none
    | .sxPolicer n => if kind n = .sxPolicer n then some n else none

/-! ## Entries and lists -/

/-- `xzalloc` of an entry, at an address that no entry and no list uses. -/
def xzalloc : Exec Traps Nat := do
  let node ← chooseFresh fun s => s.heap.keys ++ s.list .sai ++ s.list .mlnx
  modify fun s => { s with heap := s.heap.insert node ⟨0, 0⟩ }
  pure node

/-- Access to an entry has a defined meaning only while it is allocated. -/
def live (node : Nat) : Exec Traps OpsSaiTrapGroupEntry := do
  need (.undefined "access to a freed entry") (← gets (·.heap.lookup node))

def modifyEntry (node : Nat) (f : OpsSaiTrapGroupEntry → OpsSaiTrapGroupEntry) :
    Exec Traps Unit := do
  let entry ← live node
  modify fun s => { s with heap := s.heap.insert node (f entry) }

def free (node : Nat) : Exec Traps Unit := do
  let _ ← live node
  modify fun s =>
    { s with
      heap := s.heap.erase node
      freedLinked := if s.linked node then node :: s.freedLinked else s.freedLinked }

/-- `list_push_back`, which links the last entry of the list to the new one. -/
def listPushBack (l : TrapGroupList) (node : Nat) : Exec Traps Unit := do
  let nodes ← gets (·.list l)
  forAll nodes.getLast?.toList fun last => do let _ ← live last; pure ()
  modify (setList l (nodes ++ [node]))

/-- `list_remove`, which links the neighbors of the entry to each other. -/
def listRemove (l : TrapGroupList) (node : Nat) : Exec Traps Unit := do
  let nodes ← gets (·.list l)
  let before := nodes.takeWhile (· ≠ node)
  let after := (nodes.dropWhile (· ≠ node)).tail
  forAll (before.getLast?.toList ++ after.head?.toList) fun next => do let _ ← live next; pure ()
  modify (setList l (before ++ after))

/-- `SAI_ERROR_LOG_ABORT`. -/
def logAbort (label : String) (status : SaiStatus) : Exec Traps Unit :=
  .assert label (decide (saiError2Errno status = 0))

end Traps

open Traps TrapTables

/-! ## Policers -/

/-- `__policer_create`: the status and the handle. -/
def policerCreate (config : OpsSaiPolicerConfig) : Exec Traps (Int × Nat) := do
  let policer ← newObject .policer
  let status ← hwCall (.createPolicer policer config)
  pure (saiError2Errno status, policer)

/-- `__policer_remove`. -/
def policerRemove (policer : Nat) : Exec Traps Int := do
  let status ← hwCall (.removePolicer policer)
  pure (saiError2Errno status)

/-! ## The generic class -/

variable [Build]

/-- `__traps_bind`. -/
def trapsBind (trapIds : List Int) (group : Nat) (isL3 isLog : Bool) : Exec Traps Unit :=
  forAll trapIds fun trapId => do
    logAbort "Failed to set trap packet action" (← hwCall (.setTrapPacketAction trapId isLog))
    let channel := if isL3 then .netdev else if Build.mlnxSai then .l2Netdev else .netdev
    logAbort "Failed to set trap channel" (← hwCall (.setTrapChannel trapId channel))
    logAbort "Failed to bind trap to group" (← hwCall (.setTrapGroup trapId group))

variable [TrapTables]

/-- `__host_intf_traps_register` of the generic class. -/
def hostIntfTrapsRegisterGeneric : Exec Traps Unit :=
  forAll trapGroupConfigTable fun config => do
    let node ← xzalloc
    let (status, policer) ← policerCreate config.policerConfig
    logAbort "Failed to register traps" (if status ≠ 0 then .failure else .success)
    let group ← newObject .trapGroup
    logAbort "Failed to create group"
      (← hwCall (.createHostifTrapGroup group config.priority policer))
    modifyEntry node fun _ => ⟨group, policer⟩
    trapsBind config.trapIds group config.isL3 config.isLog
    listPushBack .sai node

/-- `__hostint_traps_unregister` of the generic class. -/
def hostintTrapsUnregisterGeneric : Exec Traps Unit := do
  forAll (← gets (·.list .sai)) fun node => do
    let entry ← live node
    listRemove .sai node
    let status ← policerRemove entry.policer
    logAbort "Failed to uninitialize traps" (if status ≠ 0 then .success else .failure)
    logAbort "Failed to remove trap group" (← hwCall (.removeHostifTrapGroup entry.trapGroup))
    free node

/-! ## The Mellanox class -/

/-- `__mlnx_traps_bind`. -/
def mlnxTrapsBind (config : OpsSaiTrapGroupConfig) (groupId : Nat) : Exec Traps Unit :=
  forAll config.trapIds fun trapId => do
    logAbort "Failed to set channel type" (← hwCall (.sxTrapIdRegister trapId config.isL3))
    logAbort "Failed to set trap action" (← hwCall (.sxTrapIdSet trapId groupId config.isLog))

/-- `__mlnx_traps_unbind`. -/
def mlnxTrapsUnbind (config : OpsSaiTrapGroupConfig) : Exec Traps Unit :=
  forAll config.trapIds fun trapId => do
    logAbort "Failed to unset channel type" (← hwCall (.sxTrapIdDeregister trapId config.isL3))

/-- The first trap group that SAI does not use, or `MAX_TRAP_GROUPS`. -/
def firstFreeGroup (trapGroupValid : Nat → Bool) : Nat :=
  ((List.range maxTrapGroups).find? fun groupId => !trapGroupValid groupId).getD maxTrapGroups

/-- The body of the loop of `__host_intf_traps_register` of the Mellanox class. -/
def mlnxTrapGroupRegister (config : OpsSaiTrapGroupConfig) (groupId : Nat) : Exec Traps Unit := do
  .assert "group_id < MAX_TRAP_GROUPS" (decide (groupId < maxTrapGroups))
  let node ← xzalloc
  logAbort "Failed to set trap group" (← hwCall (.sxTrapGroupSet groupId config.priority))
  let policer ← newObject .sxPolicer
  logAbort "Failed to set policer" (← hwCall (.sxPolicerCreate policer config.policerConfig))
  modifyEntry node fun entry => { entry with policer }
  logAbort "Failed to bind policer" (← hwCall (.sxPolicerBind groupId policer))
  mlnxTrapsBind config groupId
  listPushBack .mlnx node
  modifyEntry node fun entry => { entry with trapGroup := groupId }

/-- The loop, with the first trap group it uses. -/
def mlnxTrapGroupsRegister : List OpsSaiTrapGroupConfig → Nat → Exec Traps Unit
  | [], _ => pure ()
  | config :: configs, groupId => do
    mlnxTrapGroupRegister config groupId
    mlnxTrapGroupsRegister configs (groupId + 1)

/-- `__host_intf_traps_register` of the Mellanox class. -/
def hostIntfTrapsRegister : Exec Traps Unit := do
  hostIntfTrapsRegisterGeneric
  let trapGroupValid ← gets (·.trapGroupValid.headD fun _ => false)
  modify fun s => { s with trapGroupValid := s.trapGroupValid.tail }
  mlnxTrapGroupsRegister mlnxTrapGroupConfig (firstFreeGroup trapGroupValid)

/-- `__hostint_traps_unregister` of the Mellanox class. -/
def hostintTrapsUnregister : Exec Traps Unit := do
  hostintTrapsUnregisterGeneric
  forAll mlnxTrapGroupConfig mlnxTrapsUnbind
  forAll (← gets (·.list .mlnx)) fun node => do
    let entry ← live node
    logAbort "Failed to unbind policer" (← hwCall (.sxPolicerUnbind entry.trapGroup entry.policer))
    logAbort "Failed to destroy policer" (← hwCall (.sxPolicerDestroy entry.policer))
    free node

end SwitchdSai
