import SwitchdSai.Model.Hardware

/-!
# Port attributes

The SAI port functions (`sai-port.c`): reading and writing the configuration of a port, and its
default VLAN. What the file compiles only without `MLNX_SAI` depends on `Build.mlnxSai`.
-/

namespace SwitchdSai

open Exec

/-- `OPS_SAI_PORT_DEFAULT_PVID`. -/
def OPS_SAI_PORT_DEFAULT_PVID : Nat := 1

/-- `NETDEV_UP` of `enum netdev_flags`. -/
def NETDEV_UP : BitVec 32 := 1

structure OpsSaiPortConfig where
  hwEnable : Bool
  autoneg : Bool
  fullDuplex : Bool
  pauseTx : Bool
  pauseRx : Bool
  mtu : BitVec 32
  speed : BitVec 32
  deriving DecidableEq, Repr

/-- A configuration in zeroed memory. -/
def OpsSaiPortConfig.zero : OpsSaiPortConfig := ⟨false, false, false, false, false, 0, 0⟩

/-- `sai_port_flow_control_mode_t`. -/
def SAI_PORT_FLOW_CONTROL_DISABLE : BitVec 32 := 0
def SAI_PORT_FLOW_CONTROL_TX_ONLY : BitVec 32 := 1
def SAI_PORT_FLOW_CONTROL_RX_ONLY : BitVec 32 := 2
def SAI_PORT_FLOW_CONTROL_BOTH_ENABLE : BitVec 32 := 3

/-- A `sai_attribute_t` of a port: an attribute and its value. -/
inductive SaiPortAttr where
  | adminState (value : Bool)
  | autoNegMode (value : Bool)
  | speed (value : BitVec 32)
  | mtu (value : BitVec 32)
  | globalFlowControl (value : BitVec 32)
  | portVlanId (value : Nat)

def SaiPortAttr.set : SaiPortAttr → HwPort → HwPort
  | .adminState value, p => { p with adminState := value }
  | .autoNegMode value, p => { p with autoNegMode := value }
  | .speed value, p => { p with speed := value }
  | .mtu value, p => { p with mtu := value }
  | .globalFlowControl value, p => { p with globalFlowControl := value }
  | .portVlanId value, p => { p with portVlanId := value }

/-- SAI `set_port_attribute`. -/
def setPortAttribute (portId : Nat) (attr : SaiPortAttr) : Exec Hw SaiStatus :=
  Hw.call (Hw.setPort portId attr.set)

/-- SAI `get_port_attribute`, which reads the port through `get`. -/
def getPortAttribute {α : Type} (portId : Nat) (get : HwPort → α) : Exec Hw (SaiStatus × α) := do
  let status ← Hw.call id
  let value ← gets fun hw => get (hw.ports portId)
  pure (status, value)

/-- Set an attribute of the port with label `hwId`, with the status as an errno value. -/
def setHwIdAttr (hwId : Nat) (attr : SaiPortAttr) : Exec Hw Int := do
  let portId ← gets fun hw => hw.opsSaiApiHwId2PortId hwId
  let status ← setPortAttribute portId attr
  pure (saiError2Errno status)

def opsSaiPortPvidSet (hwId : Nat) (pvid : Nat) : Exec Hw Int := setHwIdAttr hwId (.portVlanId pvid)

def opsSaiPortMtuSet (hwId : Nat) (mtu : BitVec 32) : Exec Hw Int := setHwIdAttr hwId (.mtu mtu)

variable [Build]

def opsSaiPortConfigGet (hwId : Nat) (conf : OpsSaiPortConfig) :
    Exec Hw (Int × OpsSaiPortConfig) := do
  let portOid ← gets fun hw => hw.opsSaiApiHwId2PortId hwId
  let (status, p) ← getPortAttribute portOid id
  if status ≠ .success then return (saiError2Errno status, conf)
  let conf := { conf with hwEnable := p.adminState, autoneg := p.autoNegMode, mtu := p.mtu,
                          speed := p.speed }
  if Build.mlnxSai then return (0, conf)
  let pause := p.globalFlowControl
  return (0, { conf with
    fullDuplex := p.fullDuplexMode
    pauseTx := pause = SAI_PORT_FLOW_CONTROL_TX_ONLY || pause = SAI_PORT_FLOW_CONTROL_BOTH_ENABLE
    pauseRx := pause = SAI_PORT_FLOW_CONTROL_RX_ONLY || pause = SAI_PORT_FLOW_CONTROL_BOTH_ENABLE })

def saiPortPause (pauseTx pauseRx : Bool) : BitVec 32 :=
  if pauseTx && pauseRx then SAI_PORT_FLOW_CONTROL_BOTH_ENABLE
  else if pauseTx then SAI_PORT_FLOW_CONTROL_TX_ONLY
  else if pauseRx then SAI_PORT_FLOW_CONTROL_RX_ONLY
  else SAI_PORT_FLOW_CONTROL_DISABLE

/-- Set an attribute when it has changed. -/
def setIfChanged (changed : Bool) (hwId : Nat) (attr : SaiPortAttr) : Exec Hw Int :=
  if changed then setHwIdAttr hwId attr else pure 0

/-- An errno value taken for a SAI status: none of the nonzero ones is a code that
`sai_error_2_errno` knows. -/
def errnoAsSaiStatus (err : Int) : SaiStatus := if err = 0 then .success else .failure

/-- Set the MTU when it has changed. `ops_sai_port_mtu_set` has converted its status already. -/
def setMtuIfChanged (changed : Bool) (hwId : Nat) (mtu : BitVec 32) : Exec Hw Int :=
  if changed then do
    let err ← opsSaiPortMtuSet hwId mtu
    pure (saiError2Errno (errnoAsSaiStatus err))
  else pure 0

/-- `__set_hw_intf_config_full`, with its status as the errno value its caller makes of it. -/
def setHwIntfConfigFull (hwId : Nat) (new old : OpsSaiPortConfig) : Exec Hw Int :=
  (setIfChanged (old.autoneg != new.autoneg) hwId (.autoNegMode new.autoneg)).thenOk <|
  (setIfChanged (old.speed != new.speed) hwId (.speed new.speed)).thenOk <|
  (setMtuIfChanged (old.mtu != new.mtu) hwId new.mtu).thenOk <|
  setIfChanged (!Build.mlnxSai && (old.pauseTx != new.pauseTx || old.pauseRx != new.pauseRx)) hwId
    (.globalFlowControl (saiPortPause new.pauseTx new.pauseRx))

/-- `__port_config_set`, with the contents of `*old` after the call. -/
def opsSaiPortConfigSet (hwId : Nat) (new old : OpsSaiPortConfig) :
    Exec Hw (Int × OpsSaiPortConfig) := do
  let status ← (setHwIntfConfigFull hwId new old).thenOk <|
    setIfChanged (old.hwEnable != new.hwEnable) hwId (.adminState new.hwEnable)
  if status = 0 then return (0, new) else return (status, old)

/-- `__port_flags_update`, with the contents of `*old_flagsp` after the call. -/
def opsSaiPortFlagsUpdate (hwId : Nat) (off on oldFlags : BitVec 32) :
    Exec Hw (Int × BitVec 32) := do
  let portId ← gets fun hw => hw.opsSaiApiHwId2PortId hwId
  let (status, adminState) ← getPortAttribute portId HwPort.adminState
  if status ≠ .success then return (saiError2Errno status, oldFlags)
  let oldFlags := if adminState then oldFlags ||| NETDEV_UP else oldFlags
  if on &&& NETDEV_UP ≠ 0 then
    return (← setHwIdAttr hwId (.adminState true), oldFlags)
  else if off &&& NETDEV_UP ≠ 0 then
    return (← setHwIdAttr hwId (.adminState false), oldFlags)
  else return (0, oldFlags)

end SwitchdSai
