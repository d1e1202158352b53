import Mathlib.Data.List.AList
import Mathlib.Logic.Function.Basic
import SwitchdSai.Lib.Exec
import SwitchdSai.Lib.Walk
import SwitchdSai.Model.Base

/-!
# The hardware behind SAI and the SDK

The tables of the switch that the plugin programs, and the calls that change them. The environment
decides the outcome of each call: `outcomes` is the pattern of statuses of the calls to come, and
every call after its end succeeds. A call that fails changes nothing. `choices` drives what the
environment is free to choose: fresh numbers and the order in which hash tables are walked.
-/

namespace SwitchdSai

/-- `sai_vlan_tagging_mode_t`. -/
inductive SaiVlanTaggingMode where
  | untagged
  | tagged
  deriving DecidableEq, Repr

/-- The attributes of a SAI port. -/
structure HwPort where
  /-- The VLANs the port is a member of, with their tagging mode. -/
  vlans : Nat → Option SaiVlanTaggingMode
  portVlanId : Nat
  adminState : Bool
  autoNegMode : Bool
  fullDuplexMode : Bool
  globalFlowControl : BitVec 32
  mtu : BitVec 32
  speed : BitVec 32

/-- `enum router_intf_type`. -/
inductive RouterIntfType where
  | port
  | vlan
  deriving DecidableEq, Repr

/-- A router interface of the SDK. -/
structure HwRouterIntf where
  vrid : Nat
  type : RouterIntfType
  /-- The port object or the VLAN. -/
  ifc : Nat
  /-- `sx_router_interface_state_t`. -/
  enabled : Bool
  /-- The counter bound to the interface. -/
  counter : Option Nat
  deriving DecidableEq, Repr

/-- A unicast route of the SDK. -/
inductive HwRoute where
  | ip2me
  | local (rif : Nat)
  | nextHop (nextHops : List SxIpAddr)
  deriving DecidableEq, Repr

/-- An entry of the table `all_router_intf`, kept by the router interface code next to the SDK. -/
structure RifEntry where
  rifId : Nat
  counterId : Nat
  type : RouterIntfType
  handle : Nat
  deriving DecidableEq, Repr

structure Hw where
  outcomes : List SaiStatus
  choices : List Nat
  /-- `sai_lable_id_to_oid_map`. -/
  saiLableIdToOidMap : Nat → Nat
  ports : Nat → HwPort
  routerIntfs : AList fun _ : Nat => HwRouterIntf
  counters : List Nat
  routes : Nat → SxIpPrefix → Option HwRoute
  neighbors : Nat → SxIpAddr → Option EthAddr
  allRouterIntf : List RifEntry

/-- A port that is a member of no VLAN. -/
def HwPort.reset : HwPort := ⟨fun _ => none, 1, false, false, false, 0, 0, 0⟩

/-- Hardware with empty tables on which every call succeeds; the label of a port is its object. -/
def Hw.reset : Hw := ⟨[], [], id, fun _ => .reset, ∅, [], fun _ _ => none, fun _ _ => none, []⟩

namespace Hw

/-- The next outcome of the pattern. -/
def nextOutcome (hw : Hw) : SaiStatus := hw.outcomes.headD .success

/-- The state after the next outcome has been taken. -/
def tick (hw : Hw) : Hw := { hw with outcomes := hw.outcomes.tail }

/-- A call into SAI or the SDK that is valid when `valid` holds and then has the effect `effect`. -/
def callIf (valid : Hw → Bool) (effect : Hw → Hw) : Exec Hw SaiStatus := fun hw =>
  if hw.nextOutcome = .success then
    if valid hw then .ok (.success, effect hw.tick) else .ok (.failure, hw.tick)
  else .ok (hw.nextOutcome, hw.tick)

/-- A call that is always valid. -/
def call (effect : Hw → Hw) : Exec Hw SaiStatus := callIf (fun _ => true) effect

/-- A free choice of the environment. -/
def choose : Exec Hw Nat := fun hw =>
  .ok (hw.choices.headD 0, { hw with choices := hw.choices.tail })

/-- `ops_sai_api_hw_id2port_id`. -/
def opsSaiApiHwId2PortId (hw : Hw) (hwId : Nat) : Nat := hw.saiLableIdToOidMap hwId

/-- Change the attributes of a port. -/
def setPort (oid : Nat) (f : HwPort → HwPort) (hw : Hw) : Hw :=
  { hw with ports := Function.update hw.ports oid (f (hw.ports oid)) }

def setRoute (vrid : Nat) (pfx : SxIpPrefix) (route : Option HwRoute) (hw : Hw) : Hw :=
  { hw with
    routes := Function.update hw.routes vrid (Function.update (hw.routes vrid) pfx route) }

def setNeighbor (rif : Nat) (ip : SxIpAddr) (mac : Option EthAddr) (hw : Hw) : Hw :=
  { hw with
    neighbors := Function.update hw.neighbors rif (Function.update (hw.neighbors rif) ip mac) }

/-- A call either succeeds and has its effect, or only takes an outcome. -/
theorem callIf_cases {valid : Hw → Bool} {effect : Hw → Hw} {hw hw' : Hw} {status : SaiStatus}
    (h : callIf valid effect hw = .ok (status, hw')) :
    (status = .success ∧ valid hw = true ∧ hw' = effect hw.tick) ∨
      (status ≠ .success ∧ hw' = hw.tick) := by
  unfold callIf at h
  split at h
  · split at h <;> cases h
    · exact .inl ⟨rfl, ‹_›, rfl⟩
    · exact .inr ⟨by decide, rfl⟩
  · cases h; exact .inr ⟨‹_›, rfl⟩

theorem call_cases {effect : Hw → Hw} {hw hw' : Hw} {status : SaiStatus}
    (h : call effect hw = .ok (status, hw')) :
    (status = .success ∧ hw' = effect hw.tick) ∨ (status ≠ .success ∧ hw' = hw.tick) :=
  (callIf_cases h).imp (fun h => ⟨h.1, h.2.2⟩) id

/-- A call that is always valid has the outcome of the environment. -/
theorem call_status {effect : Hw → Hw} {hw hw' : Hw} {status : SaiStatus}
    (h : call effect hw = .ok (status, hw')) : status = hw.nextOutcome := by
  unfold call callIf at h
  split at h
  next hs => cases h; exact hs.symm
  next => cases h; rfl

/-- What neither an outcome nor a success changes, a call does not change. -/
theorem callIf_rel {R : Hw → Hw → Prop} {valid : Hw → Bool} {effect : Hw → Hw}
    (ht : ∀ hw, R hw hw.tick) (he : ∀ hw, R hw (effect hw.tick)) :
    Exec.Rel R (callIf valid effect) := fun hw _ hw' h => by
  rcases callIf_cases h with ⟨-, -, rfl⟩ | ⟨-, rfl⟩
  · exact he hw
  · exact ht hw

end Hw

end SwitchdSai
