import SwitchdSai.Lib.Logged
import SwitchdSai.Model.Netdev

/-!
# Port labels

The table from port labels to port objects (`sai-api-class.c`): how it is filled at start up, from
what the switch reports about its ports, and where the configuration of a netdev reads it
(`sai-netdev.c`). Both are programs with a log: the indices at which the table is accessed, in range
or not. A write behind the end of the table has no defined meaning.
-/

namespace SwitchdSai

open Exec Exec.Logged

def SAI_PORTS_MAX : Nat := 64
def SAI_MAX_LANES : Nat := 4

/-- What the switch reports about its ports. -/
structure SwitchPorts where
  /-- `SAI_SWITCH_ATTR_PORT_LIST`. -/
  portList : List Nat
  /-- `SAI_PORT_ATTR_HW_LANE_LIST` of a port. -/
  hwLanes : Nat → List (BitVec 32)
  fits : portList.length < 2 ^ 32

/-- `SAI_SWITCH_ATTR_PORT_NUMBER`. -/
def SwitchPorts.portNumber (ports : SwitchPorts) : BitVec 32 :=
  BitVec.ofNat 32 ports.portList.length

/-- The label of a port with the lanes `hwLanes`. -/
def lableId (hwLanes : List (BitVec 32)) : BitVec 32 :=
  hwLanes.headD 0 / BitVec.ofNat 32 hwLanes.length + 1

/-- `__get_port_lable_id`, with the contents of `*label_id` after the call. -/
def getPortLableId (ports : SwitchPorts) (oid : Nat) (labelId : BitVec 32) :
    Exec Hw (SaiStatus × BitVec 32) := do
  let hwLanes := ports.hwLanes oid
  let status ← Hw.callIf (fun _ => decide (hwLanes.length ≤ SAI_MAX_LANES)) id
  if status ≠ .success then return (status, labelId)
  if hwLanes.length < 1 then return (.failure, labelId)
  return (.success, lableId hwLanes)

/-- `sai_lable_id_to_oid_map[label_id] = oid`. -/
def setLable (labelId oid : Nat) : Logged Nat Hw Unit := mark labelId do
  defined "write behind the end of the table" (decide (labelId < SAI_PORTS_MAX))
  modify fun hw =>
    { hw with saiLableIdToOidMap := Function.update hw.saiLableIdToOidMap labelId oid }

/-- The loop of `__init_ports`. -/
def initPortsLoop (ports : SwitchPorts) : List Nat → BitVec 32 → Logged Nat Hw SaiStatus
  | [], _ => pure .success
  | oid :: oids, labelId => do
    let (status, labelId) ← getPortLableId ports oid labelId
    if status ≠ .success then return status
    if labelId > ports.portNumber then return .bufferOverflow
    setLable labelId.toNat oid
    initPortsLoop ports oids labelId

/-- `__init_ports`. -/
def initPorts (ports : SwitchPorts) : Logged Nat Hw SaiStatus := do
  let status ← Hw.call id
  if status ≠ .success then return status
  let status ← Hw.call id
  if status ≠ .success then return status
  quiet (defined "sai_oids" (decide (ports.portList.length ≤ SAI_PORTS_MAX)))
  initPortsLoop ports ports.portList 0

variable [OvsLib] [OpenswitchIdl] [Build]

/-- `setHwIntfInfo` with the indices it reads the table at. The host interface of a port is created
for the object found under its handle. -/
def setHwIntfInfoReads (name : String) (args : Smap) : Logged Nat NetdevSys Int := do
  let netdev ← NetdevSys.netdev name
  let hwId := smapGetInt args .switchIntfId (-1)
  if netdev.isPortInitialized || name = OpenswitchIdl.DEFAULT_BRIDGE_NAME then return 0
  let mac ← quiet (gets NetdevSys.saiApiMac)
  quiet <| NetdevSys.modifyNetdev name fun netdev =>
    { netdev with hwId := hwId.toNat, macAddr := mac }
  let handle := hwId.signExtend 64
  let status ← mark (handle.setWidth 32).toNat
    (NetdevSys.onHif (hostIntfNetdevCreate name .l2PortNetdev handle.toNat mac))
  if status ≠ 0 then return status
  let (status, conf) ← mark hwId.toNat
    (NetdevSys.onHw (opsSaiPortConfigGet hwId.toNat netdev.defaultConfig))
  quiet (NetdevSys.modifyNetdev name fun netdev => { netdev with defaultConfig := conf })
  if status ≠ 0 then return status
  quiet (NetdevSys.modifyNetdev name fun netdev => { netdev with isPortInitialized := true })
  return status

end SwitchdSai
