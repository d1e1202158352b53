import SwitchdSai.Model.Ofproto

/-!
# Router interfaces, addresses and VLANs of a bundle

The functions of `sai-ofproto-provider.c` that program the configuration of one bundle: its VLANs,
its router interface and its IP addresses.
-/

namespace SwitchdSai

open Exec OfprotoSai

/-! ## VLANs -/

/-- `__trunks_realloc`. -/
def OfbundleSai.trunksRealloc (trunks : Option VlanBitmap) (bundle : OfbundleSai) : OfbundleSai :=
  if bundle.trunks = trunks then bundle else { bundle with trunks := trunks }

/-- The bitmaps `added_trunks` and `removed_trunks` of `__vlan_reconfigure`. -/
def changedTrunks (bundle : OfbundleSai) (s : OfprotoBundleSettings) : VlanBitmap × VlanBitmap :=
  let added := s.trunks.getD 0
  let removed := bundle.trunks.getD 0
  let common := added &&& removed
  let removed := ~~~(~~~removed ||| common)
  let added := ~~~(~~~added ||| common)
  -- the native VLAN takes priority over a trunk of the same number
  let removed := if bundle.vlanMode.native then removed.set0 bundle.vlan.toNat else removed
  let added :=
    if bundle.vlanMode.native && s.trunks.any (·.getLsbD bundle.vlan.toNat) then
      added.set1 bundle.vlan.toNat
    else added
  let added := if s.vlanMode.native then added.set0 s.vlan.toNat else added
  (added, removed)

/-- Whether a native VLAN is an index of a bitmap. -/
def nativeInRange (mode : PortVlanMode) (vlan : Int) : Bool :=
  !mode.native || decide (0 ≤ vlan ∧ vlan < VLAN_BITMAP_SIZE)

/-- The first switch of `__vlan_reconfigure`, on one port: leave the VLANs of the bundle. -/
def vlanPortLeave (bundle : OfbundleSai) (changed : Bool) (removed : VlanBitmap) (hwId : Nat) :
    Exec Hw Int :=
  match bundle.vlanMode with
  | .access =>
    if changed then opsSaiVlanAccessPortDel (saiVlanId bundle.vlan) hwId else pure 0
  | .trunk => opsSaiVlanTrunksPortDel removed hwId
  | .nativeUntagged =>
    (if changed then opsSaiVlanAccessPortDel (saiVlanId bundle.vlan) hwId else pure 0).thenOk <|
    opsSaiVlanTrunksPortDel removed hwId
  | .nativeTagged =>
    (if changed then nativeTaggedVlanSet bundle.vlan hwId false else pure 0).thenOk <|
    opsSaiVlanTrunksPortDel removed hwId

/-- The second switch, on one port: join the VLANs of the settings. -/
def vlanPortJoin (s : OfprotoBundleSettings) (changed : Bool) (added : VlanBitmap) (hwId : Nat) :
    Exec Hw Int :=
  match s.vlanMode with
  | .access =>
    if changed then opsSaiVlanAccessPortAdd (saiVlanId s.vlan) hwId else pure 0
  | .trunk => opsSaiVlanTrunksPortAdd added hwId
  | .nativeUntagged =>
    (if changed then opsSaiVlanAccessPortAdd (saiVlanId s.vlan) hwId else pure 0).thenOk <|
    opsSaiVlanTrunksPortAdd added hwId
  | .nativeTagged =>
    (if changed then nativeTaggedVlanSet s.vlan hwId true else pure 0).thenOk <|
    opsSaiVlanTrunksPortAdd added hwId

/-- Run `f` on the label of each port in turn. -/
def forEachPort (ports : List OfpPort) (f : Nat → Exec Hw Int) : Exec OfprotoSai Int :=
  forEach ports fun p => do
    let port ← ofport p
    onHw (f port.netdev.netdevSaiHwIdGet)

def vlanReconfigure (b : BundlePtr) (s : OfprotoBundleSettings) : Exec OfprotoSai Int := do
  let bundle ← ofbundle b
  let changed := bundle.vlan != s.vlan || bundle.vlanMode != s.vlanMode
  defined "bitmap index out of range"
    (nativeInRange bundle.vlanMode bundle.vlan && nativeInRange s.vlanMode s.vlan)
  let (added, removed) := changedTrunks bundle s
  (forEachPort bundle.ports (vlanPortLeave bundle changed removed)).thenOk <|
  (forEachPort bundle.ports (vlanPortJoin s changed added)).thenOk do
    modifyBundle b fun bundle =>
      { bundle with vlan := s.vlan, vlanMode := s.vlanMode }.trunksRealloc s.trunks
    return 0

/-! ## The router interface -/

def netdevSaiSetRouterIntfHandle (p : OfpPort) (rifHandle : Option BundlePtr) :
    Exec OfprotoSai Int := do
  let port ← ofport p
  assert "netdev->is_port_initialized" port.netdev.isPortInitialized
  modifyPort p fun port => { port with netdev := { port.netdev with rifHandle := rifHandle } }
  return 0

variable [OvsLib] [Build]

/-- The first loop of `__ofbundle_router_intf_remove`. -/
def localRoutesRemove (b : BundlePtr) : Exec OfprotoSai Int := do
  let bundle ← ofbundle b
  let vrid ← gets OfprotoSai.vrid
  let addrs ← walkTable bundle.localRoutes
  forEach addrs fun addr =>
    (onHw (opsSaiRouteRemove vrid addr)).thenOk do
      modifyBundle b fun bundle => { bundle with localRoutes := bundle.localRoutes.erase addr }
      return 0

def ofbundleRouterIntfRemove (b : BundlePtr) : Exec OfprotoSai Int :=
  (localRoutesRemove b).thenOk do
    let bundle ← ofbundle b
    if bundle.routerIntf.created then
      (forEach bundle.ports fun p => netdevSaiSetRouterIntfHandle p none).thenOk <|
      (onHw (opsSaiRouterIntfRemove bundle.routerIntf.rifid)).thenOk do
        modifyBundle b fun bundle => { bundle with routerIntf := .zero }
        return 0
    else return 0

/-- Create the router interface of a bundle and hand it to the netdevs of its ports. -/
def routerIntfCreate (b : BundlePtr) (rifType : RouterIntfType) (handle : Nat) :
    Exec OfprotoSai Int := do
  let bundle ← ofbundle b
  let vrid ← gets OfprotoSai.vrid
  let (status, rifid) ← onHw (opsSaiRouterIntfCreate vrid rifType handle bundle.routerIntf.rifid)
  if status ≠ 0 then return status
  modifyBundle b fun bundle =>
    { bundle with
      routerIntf :=
        { bundle.routerIntf with
          created := true, enabled := false, handle := handle, rifid := rifid } }
  forEach bundle.ports fun p => netdevSaiSetRouterIntfHandle p (some b)

def routerIntfEnable (b : BundlePtr) (enable : Bool) : Exec OfprotoSai Int := do
  let bundle ← ofbundle b
  if bundle.routerIntf.created && bundle.routerIntf.enabled != enable then
    (onHw (opsSaiRouterIntfSetState bundle.routerIntf.rifid enable)).thenOk do
      modifyBundle b fun bundle =>
        { bundle with routerIntf := { bundle.routerIntf with enabled := enable } }
      return 0
  else return 0

/-- The part of `__ofbundle_router_intf_reconfigure` for an interface of type `rifType`. -/
def routerIntfApply (b : BundlePtr) (rifType : RouterIntfType) (handle : Nat) (enable : Bool) :
    Exec OfprotoSai Int := do
  let bundle ← ofbundle b
  (if bundle.routerIntf.created && bundle.routerIntf.handle != handle then
    ofbundleRouterIntfRemove b else pure 0).thenOk do
  let bundle ← ofbundle b
  (if bundle.routerIntf.created then pure 0 else routerIntfCreate b rifType handle).thenOk <|
  routerIntfEnable b enable

/-- The conversion of an `int` to the 64 bits of a handle. -/
def handleOfInt (value : Int) : Nat := (value % 2 ^ 64).toNat

def ofbundleRouterIntfReconfigure (b : BundlePtr) (s : OfprotoBundleSettings) :
    Exec OfprotoSai Int := do
  let type ← gets OfprotoSai.type
  assert "STR_EQ(ofproto->up.type, SAI_INTERFACE_TYPE_VRF)" (type = .vrf)
  let slave ← need (.undefined "s->slaves[0]") (s.slaves.head?.or s.slavesBeyond)
  let sPort ← gets fun o => o.getOfpPort slave
  match sPort with
  | none => return -1
  | some p =>
    let port ← ofport p
    match port.netdev.type with
    | .internal => routerIntfApply b .vlan (handleOfInt s.vlan) s.enable
    | .loopback =>
      modifyBundle b fun bundle =>
        { bundle with routerIntf := { bundle.routerIntf with isLoopback := true } }
      return 0
    | .vlansubint => return 0
    | .system => routerIntfApply b .port port.netdev.netdevSaiHwIdGet s.enable

/-! ## IP addresses -/

/-- `sizeof(prefix)` in `__ofproto_ip_add` and `__ofproto_ip_remove`: `INET6_ADDRSTRLEN + 5`. -/
def PREFIX_SIZE : Nat := 51

/-- The text of an address up to its prefix length. -/
def ipHost (ip : String) : String := String.ofList (ip.toList.takeWhile (· ≠ '/'))

/-- The prefix of the host route of an address. -/
def ipHostPrefix (ip : String) (isIpv6 : Bool) : String :=
  ipHost ip ++ if isIpv6 then "/128" else "/32"

/-- The prefix `__ofproto_ip_add` and `__ofproto_ip_remove` make of an address. -/
def ofprotoIpPrefix (ip : String) (isIpv6 : Bool) : Exec OfprotoSai String := do
  defined "strcpy" (ip.utf8ByteSize < PREFIX_SIZE)
  assert "ptr" (ip.toList.contains '/')
  defined "sprintf" ((ipHostPrefix ip isIpv6).utf8ByteSize < PREFIX_SIZE)
  return ipHostPrefix ip isIpv6

def ofprotoIpAdd (ip : String) (isIpv6 : Bool) : Exec OfprotoSai Int := do
  let pfx ← ofprotoIpPrefix ip isIpv6
  let vrid ← gets OfprotoSai.vrid
  onHw (opsSaiRouteIpToMeAdd vrid pfx)

def ofprotoIpRemove (ip : String) (isIpv6 : Bool) : Exec OfprotoSai Int := do
  let pfx ← ofprotoIpPrefix ip isIpv6
  let vrid ← gets OfprotoSai.vrid
  onHw (opsSaiRouteRemove vrid pfx)

namespace OfbundleSai

/-- `ipv4_primary` or `ipv6_primary`. -/
def primary (isIpv6 : Bool) (bundle : OfbundleSai) : Option String :=
  if isIpv6 then bundle.ipv6Primary else bundle.ipv4Primary

def setPrimary (isIpv6 : Bool) (ip : Option String) (bundle : OfbundleSai) : OfbundleSai :=
  if isIpv6 then { bundle with ipv6Primary := ip } else { bundle with ipv4Primary := ip }

/-- `ipv4_secondary` or `ipv6_secondary`. -/
def secondary (isIpv6 : Bool) (bundle : OfbundleSai) : List String :=
  if isIpv6 then bundle.ipv6Secondary else bundle.ipv4Secondary

def setSecondary (isIpv6 : Bool) (ips : List String) (bundle : OfbundleSai) : OfbundleSai :=
  if isIpv6 then { bundle with ipv6Secondary := ips } else { bundle with ipv4Secondary := ips }

/-- `__ofbundle_ip_secondary_find`. The text of the address decides the table. -/
def ipSecondaryFind (ip : String) (bundle : OfbundleSai) : Bool :=
  (bundle.secondary (OvsLib.addrIsIpv6 ip)).contains ip

end OfbundleSai

/-- The part of `__ofbundle_ip_reconfigure` for a primary address. -/
def ipPrimaryReconfigure (b : BundlePtr) (isIpv6 : Bool) (new : Option String) :
    Exec OfprotoSai Int := do
  let bundle ← ofbundle b
  (match bundle.primary isIpv6 with
    | some old =>
      if new = some old then pure 0
      else (ofprotoIpRemove old isIpv6).thenOk do
        modifyBundle b (OfbundleSai.setPrimary isIpv6 none)
        return 0
    | none => pure 0).thenOk <|
  match new with
  | some ip => (ofprotoIpAdd ip isIpv6).thenOk do
      modifyBundle b (OfbundleSai.setPrimary isIpv6 (some ip))
      return 0
  | none => pure 0

/-- Remove a secondary address. Every caller but `__ofbundle_ip_remove` passes `false` for
`ipv6Prefix`. -/
def ipSecondaryRemove (b : BundlePtr) (isIpv6 ipv6Prefix : Bool) (ip : String) :
    Exec OfprotoSai Int :=
  (ofprotoIpRemove ip ipv6Prefix).thenOk do
    modifyBundle b fun bundle => bundle.setSecondary isIpv6 ((bundle.secondary isIpv6).erase ip)
    return 0

def ipSecondaryAdd (b : BundlePtr) (isIpv6 : Bool) (ip : String) : Exec OfprotoSai Int :=
  (ofprotoIpAdd ip false).thenOk do
    modifyBundle b fun bundle => bundle.setSecondary isIpv6 (ip :: bundle.secondary isIpv6)
    return 0

def ofbundleIpSecondaryReconfigure (b : BundlePtr) (s : OfprotoBundleSettings) (isIpv6 : Bool) :
    Exec OfprotoSai Int := do
  let bundle ← ofbundle b
  let newIpList := if isIpv6 then s.ip6AddressSecondary else s.ip4AddressSecondary
  let oldIps ← walkTable (bundle.secondary isIpv6)
  let newIps ← walkTable newIpList.dedup
  (forEach oldIps fun ip =>
    if newIpList.contains ip then pure 0 else ipSecondaryRemove b isIpv6 false ip).thenOk <|
  forEach newIps fun ip => do
    let bundle ← ofbundle b
    if bundle.ipSecondaryFind ip then pure 0 else ipSecondaryAdd b isIpv6 ip

def ofbundleIpReconfigure (b : BundlePtr) (s : OfprotoBundleSettings) : Exec OfprotoSai Int :=
  (if s.ipChange.primaryIpv4 then ipPrimaryReconfigure b false s.ip4Address else pure 0).thenOk <|
  (if s.ipChange.primaryIpv6 then ipPrimaryReconfigure b true s.ip6Address else pure 0).thenOk <|
  (if s.ipChange.secondaryIpv4 then ofbundleIpSecondaryReconfigure b s false
    else pure 0).thenOk <|
  if s.ipChange.secondaryIpv6 then ofbundleIpSecondaryReconfigure b s true else pure 0

/-- The part of `__ofbundle_ip_remove` for a primary address, which stays recorded. -/
def ipPrimaryRemove (b : BundlePtr) (isIpv6 : Bool) : Exec OfprotoSai Int := do
  let bundle ← ofbundle b
  match bundle.primary isIpv6 with
  | some ip => ofprotoIpRemove ip isIpv6
  | none => return 0

/-- The part of `__ofbundle_ip_remove` for the secondary addresses. -/
def ipSecondaryRemoveAll (b : BundlePtr) (isIpv6 : Bool) : Exec OfprotoSai Int := do
  let bundle ← ofbundle b
  let ips ← walkTable (bundle.secondary isIpv6)
  forEach ips (ipSecondaryRemove b isIpv6 isIpv6)

def ofbundleIpRemove (b : BundlePtr) : Exec OfprotoSai Int :=
  (ipPrimaryRemove b false).thenOk <|
  (ipPrimaryRemove b true).thenOk <|
  (ipSecondaryRemoveAll b false).thenOk <|
  ipSecondaryRemoveAll b true

end SwitchdSai
