import SwitchdSai.Model.HostIntf
import SwitchdSai.Model.Port

/-!
# Network devices

The netdev provider (`sai-netdev.c`): the classes `system` and `internal`, over the host interface
table and the hardware. The keys and values of the OpenSwitch database and the defaults its headers
define are the fields of `OpenswitchIdl`.
-/

namespace SwitchdSai

open Exec OvsLib

inductive NetdevType where
  | system
  | internal
  | vlansubint
  | loopback
  deriving DecidableEq, Repr

/-- The address of a `struct ofbundle_sai`. -/
abbrev BundlePtr := Nat

structure NetdevSai where
  name : String
  type : NetdevType
  hwId : Nat
  isPortInitialized : Bool
  defaultConfig : OpsSaiPortConfig
  config : OpsSaiPortConfig
  macAddr : EthAddr
  netdevInternalAdminState : Bool
  /-- The bundle whose field `router_intf.rifid` the handle points to. -/
  rifHandle : Option BundlePtr
  deriving DecidableEq, Repr

/-- `netdev_sai_hw_id_get`. -/
def NetdevSai.netdevSaiHwIdGet (netdev : NetdevSai) : Nat := netdev.hwId

/-- A netdev in zeroed memory. -/
def NetdevSai.alloc (name : String) (type : NetdevType) : NetdevSai :=
  ⟨name, type, 0, false, .zero, .zero, 0, false, none⟩

/-- The keys of the maps `hw_intf_info` and `hw_intf_config` that the netdevs read. -/
inductive SmapKey where
  | switchIntfId
  | bridge
  | enable
  | autoneg
  | mtu
  | speeds
  | duplex
  | pause
  deriving DecidableEq, Repr

abbrev Smap := SmapKey → Option String

class OpenswitchIdl where
  DEFAULT_BRIDGE_NAME : String
  DFLT_INTERFACE_HW_INTF_INFO_MAP_BRIDGE : Bool
  INTERFACE_USER_CONFIG_MAP_AUTONEG_ON : String
  INTERFACE_HW_INTF_CONFIG_MAP_DUPLEX_FULL : String
  INTERFACE_HW_INTF_CONFIG_MAP_PAUSE_TX : String
  INTERFACE_HW_INTF_CONFIG_MAP_PAUSE_RX : String
  INTERFACE_HW_INTF_CONFIG_MAP_PAUSE_RXTX : String
  INTERFACE_HW_INTF_CONFIG_MAP_ENABLE_TRUE : String

open OpenswitchIdl

def VLAN_INTF_PREFIX : String := "vlan"
def VLAN_ID_MIN : Int := 1
def VLAN_ID_MAX : Int := 4094

/-- The netdevs that exist, by name, the host interfaces and the hardware. -/
structure NetdevSys where
  netdevs : String → Option NetdevSai
  hif : HostIntfs
  hw : Hw
  /-- `sai_api_mac`. -/
  saiApiMac : EthAddr

namespace NetdevSys

def onHif {α : Type} (m : Exec HostIntfs α) : Exec NetdevSys α :=
  zoom hif (fun t s => { s with hif := t }) m

def onHw {α : Type} (m : Exec Hw α) : Exec NetdevSys α := zoom hw (fun t s => { s with hw := t }) m

/-- The netdev a pointer refers to. -/
def netdev (name : String) : Exec NetdevSys NetdevSai := do
  let netdev ← gets fun s => s.netdevs name
  need (.undefined "netdev") netdev

def modifyNetdev (name : String) (f : NetdevSai → NetdevSai) : Exec NetdevSys Unit :=
  modify fun s => { s with netdevs := Function.update s.netdevs name ((s.netdevs name).map f) }

end NetdevSys

open NetdevSys

variable [OvsLib] [OpenswitchIdl]

def smapGetInt (args : Smap) (key : SmapKey) (dflt : BitVec 32) : BitVec 32 :=
  match args key with
  | some value => atoi value
  | none => dflt

def smapGetBool (args : Smap) (key : SmapKey) (dflt : Bool) : Bool :=
  let value := (args key).getD ""
  if dflt then !strcaseEq "false" value else strcaseEq "true" value

def argsAutonegGet (args : Smap) (dflt : Bool) : Bool :=
  match args .autoneg with
  | some autoneg => autoneg = INTERFACE_USER_CONFIG_MAP_AUTONEG_ON
  | none => dflt

def argsDuplexGet (args : Smap) (dflt : Bool) : Bool :=
  match args .duplex with
  | some duplex => duplex = INTERFACE_HW_INTF_CONFIG_MAP_DUPLEX_FULL
  | none => dflt

def argsPauseGet (args : Smap) (isTx dflt : Bool) : Bool :=
  let requestedPause :=
    if isTx then INTERFACE_HW_INTF_CONFIG_MAP_PAUSE_TX else INTERFACE_HW_INTF_CONFIG_MAP_PAUSE_RX
  match args .pause with
  | some pause => pause = requestedPause || pause = INTERFACE_HW_INTF_CONFIG_MAP_PAUSE_RXTX
  | none => dflt

/-- The configuration `__set_hw_intf_config` asks for, given the defaults of the port. -/
def hwIntfConfig (args : Smap) (dflt : OpsSaiPortConfig) : OpsSaiPortConfig where
  hwEnable := smapGetBool args .enable dflt.hwEnable
  autoneg := argsAutonegGet args dflt.autoneg
  mtu := smapGetInt args .mtu dflt.mtu
  speed := smapGetInt args .speeds dflt.speed
  fullDuplex := argsDuplexGet args dflt.fullDuplex
  pauseTx := argsPauseGet args true dflt.pauseTx
  pauseRx := argsPauseGet args false dflt.pauseRx

/-- `__alloc` and `__construct`; the names of netdevs are distinct. -/
def netdevConstruct (name : String) (type : NetdevType) : Exec NetdevSys Int := do
  let found ← gets fun s => s.netdevs name
  defined "netdev" found.isNone
  modify fun s => { s with netdevs := Function.update s.netdevs name (some (.alloc name type)) }
  return 0

/-- `__destruct` and `__dealloc`. The status of the removal is dropped. -/
def netdevDestruct (name : String) : Exec NetdevSys Int := do
  let netdev ← netdev name
  let _ ← (if netdev.isPortInitialized then onHif (hostIntfNetdevRemove name) else pure 0)
  modify fun s => { s with netdevs := Function.update s.netdevs name none }
  return 0

variable [Build]

/-- `__set_hw_intf_info`. Its call of `__set_etheraddr_full` comes before the netdev is marked
initialized, where that function does nothing. -/
def setHwIntfInfo (name : String) (args : Smap) : Exec NetdevSys Int := do
  let netdev ← netdev name
  let hwId := smapGetInt args .switchIntfId (-1)
  if netdev.isPortInitialized || name = DEFAULT_BRIDGE_NAME then return 0
  let mac ← gets saiApiMac
  modifyNetdev name fun netdev => { netdev with hwId := hwId.toNat, macAddr := mac }
  let status ← onHif (hostIntfNetdevCreate name .l2PortNetdev (hwId.signExtend 64).toNat mac)
  if status ≠ 0 then return status
  let (status, conf) ← onHw (opsSaiPortConfigGet hwId.toNat netdev.defaultConfig)
  modifyNetdev name fun netdev => { netdev with defaultConfig := conf }
  if status ≠ 0 then return status
  modifyNetdev name fun netdev => { netdev with isPortInitialized := true }
  return status

/-- The VLAN in the name of a VLAN interface, as an `int`. -/
def vlanIntfVlanid (name : String) : Int :=
  (BitVec.ofInt 32 (strtol (String.ofList (name.toList.drop VLAN_INTF_PREFIX.length)))).toInt

/-- The part of `__set_hw_intf_info_internal` for an interface that is not the bridge. -/
def createVlanIntf (name : String) : Exec NetdevSys Int := do
  defined "netdev_get_name" (VLAN_INTF_PREFIX.length ≤ name.length)
  let vlanid := vlanIntfVlanid name
  assert "vlanid >= VLAN_ID_MIN && vlanid <= VLAN_ID_MAX"
    (VLAN_ID_MIN ≤ vlanid ∧ vlanid ≤ VLAN_ID_MAX)
  let mac ← gets saiApiMac
  modifyNetdev name fun netdev => { netdev with macAddr := mac }
  onHif (hostIntfNetdevCreate name .l3VlanNetdev vlanid.toNat mac)

def setHwIntfInfoInternal (name : String) (args : Smap) : Exec NetdevSys Int := do
  let netdev ← netdev name
  let isBridgeIntf := smapGetBool args .bridge DFLT_INTERFACE_HW_INTF_INFO_MAP_BRIDGE
  if netdev.isPortInitialized then return 0
  (if isBridgeIntf then pure 0 else createVlanIntf name).thenOk do
    modifyNetdev name fun netdev => { netdev with isPortInitialized := true }
    return 0

/-- `__set_hw_intf_config`. It does not ask whether the netdev is initialized. -/
def setHwIntfConfig (name : String) (args : Smap) : Exec NetdevSys Int := do
  let netdev ← netdev name
  let config := hwIntfConfig args netdev.defaultConfig
  let (status, config) ← onHw (opsSaiPortConfigSet netdev.hwId config netdev.config)
  modifyNetdev name fun netdev => { netdev with config := config }
  return status

def setMtu (name : String) (mtu : BitVec 32) : Exec NetdevSys Int := do
  let netdev ← netdev name
  if netdev.isPortInitialized then onHw (opsSaiPortMtuSet netdev.hwId mtu) else pure 0

/-- `__update_flags`, with the contents of `*old_flagsp` after the call. -/
def updateFlags (name : String) (off on oldFlags : BitVec 32) :
    Exec NetdevSys (Int × BitVec 32) := do
  let netdev ← netdev name
  if netdev.isPortInitialized then onHw (opsSaiPortFlagsUpdate netdev.hwId off on oldFlags)
  else return (0, 0)

/-- `__set_hw_intf_config_internal`. -/
def setHwIntfConfigInternal (name : String) (args : Smap) : Exec NetdevSys Int :=
  match args .enable with
  | some enable => do
    let _ ← netdev name
    modifyNetdev name fun netdev => { netdev with
      netdevInternalAdminState := enable = INTERFACE_HW_INTF_CONFIG_MAP_ENABLE_TRUE }
    return 0
  | none => return 0

/-- `__update_flags_internal`, with the contents of `*old_flagsp` after the call. -/
def updateFlagsInternal (name : String) (off on oldFlags : BitVec 32) :
    Exec NetdevSys (Int × BitVec 32) := do
  let netdev ← netdev name
  if !netdev.isPortInitialized then return (0, 0) else
  let oldFlags := if netdev.netdevInternalAdminState then NETDEV_UP else oldFlags
  if on &&& NETDEV_UP ≠ 0 then
    modifyNetdev name fun netdev => { netdev with netdevInternalAdminState := true }
    return (0, oldFlags)
  else if off &&& NETDEV_UP ≠ 0 then
    modifyNetdev name fun netdev => { netdev with netdevInternalAdminState := false }
    return (0, oldFlags)
  else return (0, oldFlags)

def EOPNOTSUPP : Int := 95

/-- `NETDEV_LOOPBACK` of `enum netdev_flags`. -/
def NETDEV_LOOPBACK : BitVec 32 := 4

/-- `__update_flags_loopback`, with the contents of `*old_flagsp` after the call. -/
def updateFlagsLoopback (off on oldFlags : BitVec 32) : Int × BitVec 32 :=
  if (off ||| on) &&& ~~~NETDEV_UP ≠ 0 then (EOPNOTSUPP, oldFlags)
  else (0, NETDEV_UP ||| NETDEV_LOOPBACK)

/-- The member `update_flags` of the class of a netdev. -/
def netdevUpdateFlags (name : String) (off on oldFlags : BitVec 32) :
    Exec NetdevSys (Int × BitVec 32) := do
  let netdev ← netdev name
  match netdev.type with
  | .system => updateFlags name off on oldFlags
  | .internal | .vlansubint => updateFlagsInternal name off on oldFlags
  | .loopback => return updateFlagsLoopback off on oldFlags

/-- The member `set_hw_intf_config` of the class of a netdev; two classes have none. -/
def netdevSetHwIntfConfig (name : String) (args : Smap) : Exec NetdevSys Int := do
  let netdev ← netdev name
  match netdev.type with
  | .system => setHwIntfConfig name args
  | .internal => setHwIntfConfigInternal name args
  | .vlansubint | .loopback => halt (.undefined "set_hw_intf_config")

end SwitchdSai
