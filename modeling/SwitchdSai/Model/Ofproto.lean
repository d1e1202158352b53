import SwitchdSai.Model.Netdev
import SwitchdSai.Model.RouterIntf
import SwitchdSai.Model.Route
import SwitchdSai.Model.Vlan

/-!
# The state of an ofproto

The data of the ofproto provider (`sai-ofproto-provider.c`): ports, bundles and the hardware. A port
is identified by its number and a bundle by its address; an address is free again after the bundle
is destroyed. Following a pointer to a bundle or port that does not exist has no defined meaning.
-/

namespace SwitchdSai

open Exec

/-- `ofp_port_t`. -/
abbrev OfpPort := Nat

structure OfportSai where
  netdev : NetdevSai
  /-- The bundle that contains the port. -/
  bundle : Option BundlePtr
  deriving DecidableEq, Repr

inductive PortVlanMode where
  | access
  | trunk
  | nativeTagged
  | nativeUntagged
  deriving DecidableEq, Repr

/-- `PORT_VLAN_NATIVE_UNTAGGED` or `PORT_VLAN_NATIVE_TAGGED`. -/
def PortVlanMode.native (mode : PortVlanMode) : Bool :=
  mode = .nativeUntagged || mode = .nativeTagged

/-- The field `router_intf` of a bundle. -/
structure RouterIntf where
  created : Bool
  enabled : Bool
  /-- VLAN or port label. -/
  handle : Nat
  rifid : Nat
  isLoopback : Bool
  deriving DecidableEq, Repr

/-- The field in zeroed memory. -/
def RouterIntf.zero : RouterIntf := ⟨false, false, 0, 0, false⟩

/-- `struct neigbor_entry`. -/
structure NeighborEntry where
  ipAddress : String
  macAddress : String
  deriving DecidableEq, Repr

/-- `struct ofbundle_sai`; a hash table of addresses is the list of its elements. -/
structure OfbundleSai where
  aux : Nat
  ports : List OfpPort
  vlanMode : PortVlanMode
  /-- -1 for a trunk port. -/
  vlan : Int
  trunks : Option VlanBitmap
  routerIntf : RouterIntf
  ipv4Primary : Option String
  ipv6Primary : Option String
  ipv4Secondary : List String
  ipv6Secondary : List String
  localRoutes : List String
  neighbors : List NeighborEntry
  deriving DecidableEq, Repr

/-- A new bundle. -/
def OfbundleSai.alloc (aux : Nat) (trunks : Option VlanBitmap) : OfbundleSai :=
  ⟨aux, [], .access, 0, trunks, .zero, none, none, [], [], [], []⟩

/-- `enum` of `ip_change`: which addresses of the settings have changed. -/
structure IpChange where
  primaryIpv4 : Bool
  primaryIpv6 : Bool
  secondaryIpv4 : Bool
  secondaryIpv6 : Bool
  deriving DecidableEq, Repr

structure OfprotoBundleSettings where
  name : String
  slaves : List OfpPort
  /-- What a read of `slaves[0]` finds when there are no slaves, if anything. -/
  slavesBeyond : Option OfpPort
  vlanMode : PortVlanMode
  vlan : Int
  trunks : Option VlanBitmap
  enable : Bool
  ipChange : IpChange
  ip4Address : Option String
  ip6Address : Option String
  ip4AddressSecondary : List String
  ip6AddressSecondary : List String
  deriving DecidableEq, Repr

/-- `ofproto->up.type`. -/
inductive OfprotoType where
  | system
  | vrf
  deriving DecidableEq, Repr

structure OfprotoSai where
  type : OfprotoType
  vrid : Nat
  ofports : OfpPort → Option OfportSai
  /-- The bundles of the table `bundles`, by address. -/
  bundles : AList fun _ : BundlePtr => OfbundleSai
  hw : Hw

/-- An ofproto with the given ports and no bundles. -/
def OfprotoSai.new (type : OfprotoType) (vrid : Nat) (ofports : OfpPort → Option OfportSai)
    (hw : Hw) : OfprotoSai :=
  ⟨type, vrid, ofports, ∅, hw⟩

namespace OfprotoSai

def onHw {α : Type} (m : Exec Hw α) : Exec OfprotoSai α := zoom hw (fun t o => { o with hw := t }) m

/-- The port a pointer refers to. -/
def ofport (p : OfpPort) : Exec OfprotoSai OfportSai := do
  let port ← gets fun o => o.ofports p
  need (.undefined "ofport") port

/-- The bundle a pointer refers to. -/
def ofbundle (b : BundlePtr) : Exec OfprotoSai OfbundleSai := do
  let bundle ← gets fun o => o.bundles.lookup b
  need (.undefined "ofbundle") bundle

def setPort (p : OfpPort) (port : OfportSai) (o : OfprotoSai) : OfprotoSai :=
  { o with ofports := Function.update o.ofports p (some port) }

def setBundle (b : BundlePtr) (bundle : OfbundleSai) (o : OfprotoSai) : OfprotoSai :=
  { o with bundles := o.bundles.insert b bundle }

def modifyPort (p : OfpPort) (f : OfportSai → OfportSai) : Exec OfprotoSai Unit := do
  let port ← ofport p
  modify (setPort p (f port))

def modifyBundle (b : BundlePtr) (f : OfbundleSai → OfbundleSai) : Exec OfprotoSai Unit := do
  let bundle ← ofbundle b
  modify (setBundle b (f bundle))

/-- `__get_ofp_port`: the port itself, when it exists. -/
def getOfpPort (o : OfprotoSai) (p : OfpPort) : Option OfpPort := (o.ofports p).map fun _ => p

/-- The bundles in the order in which the table is walked. -/
def walkBundles : Exec OfprotoSai (List (BundlePtr × OfbundleSai)) := do
  let seed ← onHw Hw.choose
  gets fun o => walk seed (o.bundles.entries.map fun e => (e.1, e.2))

/-- The elements of a table of a bundle in the order in which it is walked. -/
def walkTable {α : Type} (table : List α) : Exec OfprotoSai (List α) := do
  let seed ← onHw Hw.choose
  pure (walk seed table)

end OfprotoSai

end SwitchdSai
