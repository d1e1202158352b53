import SwitchdSai.Lib.Exec
import SwitchdSai.Model.Base

/-!
# ECMP hashing

The hash fields of the router (`vendor/mlnx/sai-vendor-hash.c`). The environment says for each call
of `__ecmp_hash_set` what the SDK answers during it.
-/

namespace SwitchdSai

open Exec

/-- The header of a packet that a hash field is of. -/
inductive HashLayer where
  | outer
  | inner
  deriving DecidableEq, Repr

inductive HashEnd where
  | source
  | destination
  deriving DecidableEq, Repr

/-- `sx_router_ecmp_hash_field_t`, as far as these functions use it. -/
inductive SxRouterEcmpHashField where
  /-- `SX_ROUTER_ECMP_HASH_OUTER_IPV4_SIP_BYTE_0` and so on. -/
  | ipv4Byte (layer : HashLayer) (hashEnd : HashEnd) (byte : Fin 4)
  /-- `SX_ROUTER_ECMP_HASH_OUTER_IPV6_SIP_BYTES_0_TO_7` and so on. -/
  | ipv6Bytes0To7 (layer : HashLayer) (hashEnd : HashEnd)
  /-- `SX_ROUTER_ECMP_HASH_OUTER_IPV6_SIP_BYTE_8` and so on; `byte` counts from 8. -/
  | ipv6Byte (layer : HashLayer) (hashEnd : HashEnd) (byte : Fin 8)
  /-- `SX_ROUTER_ECMP_HASH_OUTER_TCP_UDP_SPORT` and so on. -/
  | tcpUdpPort (layer : HashLayer) (hashEnd : HashEnd)
  deriving DecidableEq, Repr

/-- `sx_router_ecmp_hash_field_enable_t`, as far as these functions use it. -/
inductive SxRouterEcmpHashFieldEnable where
  | ipv4 (layer : HashLayer) (tcpUdp : Bool)
  | ipv6 (layer : HashLayer) (tcpUdp : Bool)
  | l4Ipv4 (layer : HashLayer)
  | l4Ipv6 (layer : HashLayer)
  deriving DecidableEq, Repr

inductive SxPortType where
  | network
  | lag
  | other
  deriving DecidableEq, Repr

/-- The log port id of the SDK. -/
abbrev SxPortId := Nat

/-- Constants of the OVS library and the SDK. -/
class HashLib where
  /-- `OFPROTO_ECMP_HASH_SRCIP`. -/
  srcIp : BitVec 64
  dstIp : BitVec 64
  srcPort : BitVec 64
  dstPort : BitVec 64
  /-- `SX_PORT_TYPE_ID_GET`. -/
  portType : SxPortId → SxPortType
  /-- `FIELDS_NUM`. -/
  fieldsNum : Nat
  /-- `FIELDS_ENABLES_NUM`. -/
  fieldsEnablesNum : Nat
  /-- There is room for the four kinds of fields. -/
  fieldsNum_le : 26 + 26 + 2 + 2 ≤ fieldsNum
  fieldsEnablesNum_le : 8 + 4 ≤ fieldsEnablesNum

/-- The parameters of a port: those of `sx_router_ecmp_port_hash_params_t` are the same for all. -/
structure EcmpHashParams where
  enables : List SxRouterEcmpHashFieldEnable
  fields : List SxRouterEcmpHashField
  deriving DecidableEq, Repr

/-- The hash fields that are wanted, and what the ports have been programmed with. -/
structure HashSai where
  /-- `ghash_fields`. -/
  ghashFields : BitVec 64
  ports : SxPortId → Option EcmpHashParams

/-- What the SDK answers during one call of `__ecmp_hash_set`. -/
structure HashSdk where
  /-- `sx_api_port_swid_port_list_get` without a list: the status and the number of ports. -/
  portCnt : SaiStatus × Nat
  /-- `sx_api_port_swid_port_list_get` with a list. -/
  portList : SaiStatus × List SxPortId
  /-- The statuses of `sx_api_router_ecmp_port_hash_params_set`; success when none is left. -/
  set : List SaiStatus

/-- The ports that the SDK writes to the list. -/
def HashSdk.ports (sdk : HashSdk) : List SxPortId := sdk.portList.2.take sdk.portCnt.2

/-- The fields of one address. -/
def ipHashFields (hashEnd : HashEnd) : List SxRouterEcmpHashField :=
  [.outer, .inner].flatMap fun layer =>
    (List.finRange 4).map (.ipv4Byte layer hashEnd) ++
      .ipv6Bytes0To7 layer hashEnd :: (List.finRange 8).map (.ipv6Byte layer hashEnd)

variable [HashLib]

/-- `__ops_hash_to_sxsdk`. -/
def opsHashToSxsdk (opsHash : BitVec 64) :
    List SxRouterEcmpHashField × List SxRouterEcmpHashFieldEnable :=
  let srcIp := opsHash &&& HashLib.srcIp ≠ 0
  let dstIp := opsHash &&& HashLib.dstIp ≠ 0
  let srcPort := opsHash &&& HashLib.srcPort ≠ 0
  let dstPort := opsHash &&& HashLib.dstPort ≠ 0
  ((if srcIp then ipHashFields .source else []) ++
    (if dstIp then ipHashFields .destination else []) ++
    (if srcPort then [.tcpUdpPort .inner .source, .tcpUdpPort .outer .source] else []) ++
    -- the fields of the source port once more
    (if dstPort then [.tcpUdpPort .inner .source, .tcpUdpPort .outer .source] else []),
  (if srcIp ∨ dstIp then
    [.ipv4 .outer false, .ipv4 .outer true, .ipv4 .inner false, .ipv4 .inner true,
      .ipv6 .outer false, .ipv6 .outer true, .ipv6 .inner false, .ipv6 .inner true] else []) ++
    (if srcPort ∨ dstPort then
      [.l4Ipv4 .inner, .l4Ipv6 .inner, .l4Ipv4 .outer, .l4Ipv6 .outer] else []))

/-- The loop of `__ecmp_hash_set` over the ports. -/
def ecmpHashSetPorts (params : EcmpHashParams) :
    List SaiStatus → List SxPortId → Exec HashSai SaiStatus
  | _, [] => pure .success
  | statuses, port :: ports =>
    if HashLib.portType port ≠ .lag ∧ HashLib.portType port ≠ .network then
      ecmpHashSetPorts params statuses ports
    else
      let status := statuses.headD .success
      if status ≠ .success then pure status
      else do
        modify fun s => { s with ports := Function.update s.ports port (some params) }
        ecmpHashSetPorts params statuses.tail ports

/-- The part of `__ecmp_hash_set` that may go to `exit`. -/
def ecmpHashProgram (sdk : HashSdk) (params : EcmpHashParams) : Exec HashSai SaiStatus :=
  if params.fields = [] then pure .invalidParameter
  else if sdk.portCnt.1 ≠ .success then pure sdk.portCnt.1
  else if sdk.portList.1 ≠ .success then pure sdk.portList.1
  else ecmpHashSetPorts params sdk.set sdk.ports

/-- `__ecmp_hash_set`. -/
def ecmpHashSet (sdk : HashSdk) (fieldsToSet : BitVec 64) (enable : Bool) : Exec HashSai Int := do
  let ghashFields ← gets HashSai.ghashFields
  let newHashValue :=
    if enable then ghashFields ||| fieldsToSet
    else ghashFields &&& (BitVec.allOnes 64 ^^^ fieldsToSet)
  let (fields, enables) := opsHashToSxsdk newHashValue
  defined "fields_list" (fields.length ≤ HashLib.fieldsNum)
  defined "enables_list" (enables.length ≤ HashLib.fieldsEnablesNum)
  let status ← ecmpHashProgram sdk ⟨enables, fields⟩
  -- also when the SDK has failed
  modify fun s => { s with ghashFields := newHashValue }
  return sxError2Errno status

end SwitchdSai
