import SwitchdSai.Model.L3

/-!
# Statistics and hit bits

Reading the counters of a port (`__get_stats` of `sai-netdev.c`, `sai-port.c` and
`sai-vendor-router-intf.c`) and the activity of a host entry (`__get_l3_host_hit_bit` of
`sai-ofproto-provider.c`, `sai-vendor-neighbor.c`). What the switch has counted by the time of a
call is the `Traffic` of that call. The counter of a router interface and a neighbor can be read
only while they exist.
-/

namespace SwitchdSai

open Exec OfprotoSai

/-- `sai_port_stat_counter_t`, as far as the port statistics use it. -/
inductive SaiPortStatCounter where
  | ifInUcastPkts
  | ifInNonUcastPkts
  | ifOutUcastPkts
  | ifOutNonUcastPkts
  | ifInOctets
  | ifOutOctets
  | ifInErrors
  | ifOutErrors
  | ifInDiscards
  | ifOutDiscards
  | etherStatsMulticastPkts
  | etherStatsCollisions
  | etherRxOversizePkts
  | etherStatsCrcAlignErrors
  deriving DecidableEq, Repr

/-- `sx_router_counter_set_t`. -/
structure SxRouterCounterSet where
  routerIngressGoodUnicastPackets : BitVec 64
  routerIngressGoodUnicastBytes : BitVec 64
  routerIngressGoodMulticastPackets : BitVec 64
  routerIngressGoodMulticastBytes : BitVec 64
  routerEgressGoodUnicastPackets : BitVec 64
  routerEgressGoodUnicastBytes : BitVec 64
  routerEgressGoodMulticastPackets : BitVec 64
  routerEgressGoodMulticastBytes : BitVec 64
  deriving DecidableEq, Repr

/-- What the switch has counted: by port object, by router counter, and for the neighbors of each
router interface. -/
structure Traffic where
  portStats : Nat → SaiPortStatCounter → BitVec 64
  routerCounters : Nat → SxRouterCounterSet
  neighActivity : Nat → SxIpAddr → Bool

/-- `struct netdev_stats`, as far as it is filled in. -/
structure NetdevStats where
  rxPackets : BitVec 64
  txPackets : BitVec 64
  rxBytes : BitVec 64
  txBytes : BitVec 64
  rxErrors : BitVec 64
  txErrors : BitVec 64
  rxDropped : BitVec 64
  txDropped : BitVec 64
  multicast : BitVec 64
  collisions : BitVec 64
  rxOverErrors : BitVec 64
  rxCrcErrors : BitVec 64
  l3UcTxPackets : BitVec 64
  l3UcTxBytes : BitVec 64
  l3UcRxPackets : BitVec 64
  l3UcRxBytes : BitVec 64
  l3McTxPackets : BitVec 64
  l3McTxBytes : BitVec 64
  l3McRxPackets : BitVec 64
  l3McRxBytes : BitVec 64
  deriving DecidableEq, Repr

/-! ## Ports -/

/-- The statistics filled in from the counters of a port. -/
def NetdevStats.withPort [Build] (counters : SaiPortStatCounter → BitVec 64)
    (stats : NetdevStats) : NetdevStats :=
  { stats with
    rxPackets := counters .ifInUcastPkts + counters .ifInNonUcastPkts
    txPackets := counters .ifOutUcastPkts + counters .ifOutNonUcastPkts
    rxBytes := counters .ifInOctets
    txBytes := counters .ifOutOctets
    rxErrors := counters .ifInErrors
    txErrors := counters .ifOutErrors
    rxDropped := counters .ifInDiscards
    txDropped := counters .ifOutDiscards
    multicast := counters .etherStatsMulticastPkts
    collisions := counters .etherStatsCollisions
    rxOverErrors :=
      if Build.mlnxSai then stats.rxOverErrors else counters .etherRxOversizePkts
    rxCrcErrors := counters .etherStatsCrcAlignErrors }

/-- `__port_stats_get`, with the contents of `*stats` after the call. -/
def opsSaiPortStatsGet [Build] (traffic : Traffic) (hwId : Nat) (stats : NetdevStats) :
    Exec Hw (Int × NetdevStats) := do
  let portOid ← gets fun hw => hw.opsSaiApiHwId2PortId hwId
  -- SAI `get_port_stats`
  let status ← sxCall
  if status ≠ .success then return (saiError2Errno status, stats)
  return (0, stats.withPort (traffic.portStats portOid))

/-! ## Router interfaces -/

/-- SDK `sx_api_router_counter_get`. -/
def sxRouterCounterGet (counter : Nat) : Exec Hw SaiStatus :=
  Hw.callIf (fun hw => decide (counter ∈ hw.counters)) id

/-- The statistics filled in from the counters of a router interface. -/
def NetdevStats.withRouterIntf (cntrSet : SxRouterCounterSet) (stats : NetdevStats) :
    NetdevStats :=
  { stats with
    l3UcTxPackets := cntrSet.routerEgressGoodUnicastPackets
    l3UcTxBytes := cntrSet.routerEgressGoodUnicastBytes
    l3UcRxPackets := cntrSet.routerIngressGoodUnicastPackets
    l3UcRxBytes := cntrSet.routerIngressGoodUnicastBytes
    l3McTxPackets := cntrSet.routerEgressGoodMulticastPackets
    l3McTxBytes := cntrSet.routerEgressGoodMulticastBytes
    l3McRxPackets := cntrSet.routerIngressGoodMulticastPackets
    l3McRxBytes := cntrSet.routerIngressGoodMulticastBytes }

/-- `__router_intf_get_stats`, with the contents of `*stats` after the call. An interface that is
not recorded is no error. -/
def opsSaiRouterIntfGetStats (traffic : Traffic) (rifHandle : Nat) (stats : NetdevStats) :
    Exec Hw (Int × NetdevStats) := do
  let found ← gets fun hw => hw.routerIntfEntryFind rifHandle
  match found with
  | none => return (0, stats)
  | some routerIntf =>
    let status ← sxRouterCounterGet routerIntf.counterId
    if status ≠ .success then return (sxError2Errno status, stats)
    return (0, stats.withRouterIntf (traffic.routerCounters routerIntf.counterId))

/-- The statistics of the port of a netdev of type `system`. -/
def getPortStats [Build] (traffic : Traffic) (netdev : NetdevSai) (stats : NetdevStats) :
    Exec Hw (Int × NetdevStats) :=
  if netdev.type = .system then opsSaiPortStatsGet traffic netdev.hwId stats else pure (0, stats)

/-- `__get_stats` on the netdev of a port, with the contents of `*stats` after the call. -/
def getStats [Build] (traffic : Traffic) (p : OfpPort) (stats : NetdevStats) :
    Exec OfprotoSai (Int × NetdevStats) := do
  let port ← ofport p
  if !port.netdev.isPortInitialized then return (0, stats)
  let (status, stats) ← onHw (getPortStats traffic port.netdev stats)
  if status ≠ 0 then return (status, stats)
  match port.netdev.rifHandle with
  | none => return (0, stats)
  | some b =>
    let bundle ← ofbundle b
    onHw (opsSaiRouterIntfGetStats traffic bundle.routerIntf.rifid stats)

/-! ## Host entries -/

/-- SDK `sx_api_router_neigh_activity_get`. -/
def sxRouterNeighActivityGet (rifid : Nat) (ip : SxIpAddr) : Exec Hw SaiStatus :=
  Hw.callIf (fun hw => (hw.neighbors rifid ip).isSome) id

section
variable [OvsLib]

/-- `__neighbor_activity_get`, with the contents of `*activity` after the call. -/
def opsSaiNeighborActivityGet (traffic : Traffic) (ipAddr : String) (rifid : Nat)
    (activity : Bool) : Exec Hw (Int × Bool) :=
  match opsSaiCommonIpToSxIp ipAddr with
  | none => pure (sxError2Errno .invalidParameter, activity)
  | some sxIp => do
    let status ← sxRouterNeighActivityGet rifid sxIp
    if status ≠ .success then return (sxError2Errno status, false)
    return (0, traffic.neighActivity rifid sxIp)

/-- `__get_l3_host_hit_bit`, with the contents of `*hit_bit` after the call. -/
def getL3HostHitBit (traffic : Traffic) (aux : Nat) (ipAddr : String) (hitBit : Bool) :
    Exec OfprotoSai (Int × Bool) := do
  let found ← ofbundleLookup aux
  let b ← need (.assertion "bundle") found
  let bundle ← ofbundle b
  match neighEntryHashFind ipAddr bundle.neighbors with
  | none => return (0, false)
  | some neigh =>
    -- no activity is read for an entry without a MAC address
    if neigh.macAddress = "" then return (0, false)
    onHw (opsSaiNeighborActivityGet traffic ipAddr bundle.routerIntf.rifid hitBit)

end

end SwitchdSai
