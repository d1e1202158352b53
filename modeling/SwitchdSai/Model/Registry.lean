import Mathlib.Data.Finset.Insert
import SwitchdSai.Lib.Exec
import SwitchdSai.Model.Ofproto

/-!
# The registry of datapaths

The table `all_ofproto_sai` of all ofprotos, over their life from `__alloc` to `__sai_dealloc`, and
the list of their names (`__enumerate_names`). The table links the ofprotos themselves: it holds
addresses, and reading an ofproto that has been freed has no defined meaning.
-/

namespace SwitchdSai

open Exec

def SAI_INTERFACE_TYPE_SYSTEM : String := "system"
def SAI_INTERFACE_TYPE_VRF : String := "vrf"

/-- `ofproto->up.type` as text. -/
def OfprotoType.text : OfprotoType → String
  | .system => SAI_INTERFACE_TYPE_SYSTEM
  | .vrf => SAI_INTERFACE_TYPE_VRF

/-- The address of an ofproto. -/
abbrev OfprotoPtr := Nat

/-- `struct ofproto_sai`, as far as the registry uses it. -/
structure OfprotoEntry where
  name : String
  type : OfprotoType
  vrid : Nat
  deriving DecidableEq, Repr

structure Datapaths where
  /-- The ofprotos that are allocated. -/
  heap : OfprotoPtr → Option OfprotoEntry
  /-- `all_ofproto_sai`. -/
  allOfprotoSai : List OfprotoPtr

namespace Datapaths

/-- What is at an address. -/
def ofproto (p : OfprotoPtr) : Exec Datapaths OfprotoEntry := do
  need (.undefined "ofproto") ((← gets Datapaths.heap) p)

/-- `hmap_insert`. -/
def hmapInsert (p : OfprotoPtr) : Exec Datapaths Unit := do
  defined "hmap_insert" (!(← gets Datapaths.allOfprotoSai).contains p)
  modify fun s => { s with allOfprotoSai := p :: s.allOfprotoSai }

/-- `hmap_remove`. -/
def hmapRemove (p : OfprotoPtr) : Exec Datapaths Unit := do
  defined "hmap_remove" ((← gets Datapaths.allOfprotoSai).contains p)
  modify fun s => { s with allOfprotoSai := s.allOfprotoSai.erase p }

/-- `__router_create`, with the answer of `sx_api_router_set`. -/
def routerCreate (p : OfprotoPtr) (answer : SaiStatus × Nat) : Exec Datapaths Int := do
  if answer.1 = .success then
    let entry ← ofproto p
    let entry := { entry with vrid := answer.2 }
    modify fun s => { s with heap := Function.update s.heap p (some entry) }
  return sxError2Errno answer.1

/-- `__router_remove`. -/
def routerRemove (p : OfprotoPtr) (answer : SaiStatus) : Exec Datapaths Int := do
  let _ ← ofproto p
  return sxError2Errno answer

/-- `__alloc`, at an address of the environment's choice; the caller sets the name and the type. -/
def alloc (p : OfprotoPtr) (name : String) (type : OfprotoType) : Exec Datapaths Unit :=
  modify fun s => { s with heap := Function.update s.heap p (some ⟨name, type, 0⟩) }

/-- `__construct`. -/
def construct (p : OfprotoPtr) (answer : SaiStatus × Nat) : Exec Datapaths Int := do
  let entry ← ofproto p
  hmapInsert p
  if entry.type.text = SAI_INTERFACE_TYPE_VRF then
    routerCreate p answer
  else
    return 0

/-- `__destruct`. -/
def destruct (p : OfprotoPtr) (answer : SaiStatus) : Exec Datapaths Unit := do
  let entry ← ofproto p
  if entry.type.text = SAI_INTERFACE_TYPE_VRF then
    let _ ← routerRemove p answer
  hmapRemove p

/-- `__sai_dealloc`. -/
def saiDealloc (p : OfprotoPtr) : Exec Datapaths Unit :=
  modify fun s => { s with heap := Function.update s.heap p none }

/-- The loop of `__enumerate_names`. -/
def addNames (type : String) : List OfprotoPtr → Finset String → Exec Datapaths (Finset String)
  | [], names => pure names
  | p :: ps, names => do
    let entry ← ofproto p
    addNames type ps (if type ≠ entry.type.text then names else insert entry.name names)

/-- `__enumerate_names`. -/
def enumerateNames (type : String) : Exec Datapaths (Finset String) := do
  addNames type (← gets Datapaths.allOfprotoSai) ∅

end Datapaths

end SwitchdSai
