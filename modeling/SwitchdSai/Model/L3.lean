import SwitchdSai.Model.Bundle

/-!
# Host entries and routes

`__add_l3_host_entry`, `__delete_l3_host_entry` and `__l3_route_action` of
`sai-ofproto-provider.c`, with the neighbor cache of a bundle.
-/

namespace SwitchdSai

open Exec OfprotoSai

/-! ## The neighbor cache -/

def neighEntryHashFind (ipAddr : String) (neighbors : List NeighborEntry) :
    Option NeighborEntry :=
  neighbors.find? (·.ipAddress = ipAddr)

/-- `__neigh_entry_hash_add`. An entry that exists stays as it is. -/
def neighEntryHashAdd (macAddress ipAddr : String) (neighbors : List NeighborEntry) :
    List NeighborEntry :=
  match neighEntryHashFind ipAddr neighbors with
  | some _ => neighbors
  | none => ⟨ipAddr, macAddress⟩ :: neighbors

def neighEntryHashRemove (ipAddr : String) (neighbors : List NeighborEntry) :
    List NeighborEntry :=
  neighbors.eraseP (·.ipAddress = ipAddr)

def modifyNeighbors (b : BundlePtr) (f : List NeighborEntry → List NeighborEntry) :
    Exec OfprotoSai Int := do
  modifyBundle b fun bundle => { bundle with neighbors := f bundle.neighbors }
  return 0

variable [OvsLib]

/-- The bundle the host entry functions work on. -/
def l3HostBundle (aux : Nat) : Exec OfprotoSai (BundlePtr × OfbundleSai) := do
  let found ← ofbundleLookup aux
  let b ← need (.assertion "bundle") found
  let bundle ← ofbundle b
  assert "bundle->router_intf.created" bundle.routerIntf.created
  return (b, bundle)

def addL3HostEntry (aux : Nat) (ipAddr nextHopMacAddr : String) : Exec OfprotoSai Int := do
  let (b, bundle) ← l3HostBundle aux
  let neigh := neighEntryHashFind ipAddr bundle.neighbors
  if neigh.any (·.macAddress = nextHopMacAddr) then
    -- Not adding neighbor entry as it was already added
    return 0
  else if nextHopMacAddr = "" then
    modifyNeighbors b (neighEntryHashAdd nextHopMacAddr ipAddr)
  else
    (if neigh.any (·.macAddress = "") then modifyNeighbors b (neighEntryHashRemove ipAddr)
      else pure 0).thenOk <|
    (onHw (opsSaiNeighborCreate ipAddr nextHopMacAddr bundle.routerIntf.rifid)).thenOk <|
    modifyNeighbors b (neighEntryHashAdd nextHopMacAddr ipAddr)

def deleteL3HostEntry (aux : Nat) (ipAddr : String) : Exec OfprotoSai Int := do
  let (b, bundle) ← l3HostBundle aux
  match neighEntryHashFind ipAddr bundle.neighbors with
  | none => return 0
  | some neigh =>
    (if neigh.macAddress = "" then pure 0
      else onHw (opsSaiNeighborRemove ipAddr bundle.routerIntf.rifid)).thenOk <|
    modifyNeighbors b (neighEntryHashRemove ipAddr)

/-! ## Routes -/

/-- `enum ofproto_route_action`; any other value is `unknown`. -/
inductive OfprotoRouteAction where
  | add
  | delete
  | deleteNh
  | unknown
  deriving DecidableEq, Repr

/-- A next hop of a route: its type and `id`. -/
inductive OfprotoRouteNexthop where
  | ipaddr (id : String)
  | port (id : String)
  | unknown
  deriving DecidableEq, Repr

structure OfprotoRoute where
  pfx : String
  nexthops : List OfprotoRouteNexthop
  deriving DecidableEq, Repr

/-- The remote next hops and the egress interfaces of a route. -/
def OfprotoRoute.split (routep : OfprotoRoute) : List String × List String :=
  (routep.nexthops.filterMap fun | .ipaddr id => some id | _ => none,
   routep.nexthops.filterMap fun | .port id => some id | _ => none)

/-- `__ofbundle_lookup_by_netdev_name`. -/
def ofbundleLookupByNetdevName (name : String) : Exec OfprotoSai (Option BundlePtr) := do
  let bundles ← walkBundles
  let ofports ← gets OfprotoSai.ofports
  return (bundles.find? fun e => e.2.ports.any fun p =>
    (ofports p).any (·.netdev.name = name)).map (·.1)

variable [Build]

/-- The branch of `__l3_route_action` for remote next hops. -/
def l3RemoteRouteAction (action : OfprotoRouteAction) (pfx : String) (nextHops : List String) :
    Exec OfprotoSai Int := do
  let vrid ← gets OfprotoSai.vrid
  match action with
  | .add => onHw (opsSaiRouteRemoteAdd vrid pfx nextHops)
  | .deleteNh => onHw (opsSaiRouteRemoteNhRemove vrid pfx nextHops)
  | .delete => onHw (opsSaiRouteRemove vrid pfx)
  | .unknown => return -1

/-- Add a local route. It is recorded in the bundle whether or not the hardware took it. -/
def l3LocalRouteAdd (b : BundlePtr) (pfx : String) : Exec OfprotoSai Int := do
  let bundle ← ofbundle b
  assert "bundle->router_intf.created" bundle.routerIntf.created
  let vrid ← gets OfprotoSai.vrid
  let status ← onHw (opsSaiRouteLocalAdd vrid pfx bundle.routerIntf.rifid)
  modifyBundle b fun bundle => { bundle with localRoutes := pfx :: bundle.localRoutes }
  return status

/-- Remove a local route that the bundle has recorded. -/
def l3LocalRouteDelete (b : BundlePtr) (pfx : String) : Exec OfprotoSai Int := do
  let bundle ← ofbundle b
  let vrid ← gets OfprotoSai.vrid
  if bundle.localRoutes.contains pfx then
    (onHw (opsSaiRouteRemove vrid pfx)).thenOk do
      modifyBundle b fun bundle => { bundle with localRoutes := bundle.localRoutes.erase pfx }
      return 0
  else return 0

/-- The branch of `__l3_route_action` for an egress interface. -/
def l3LocalRouteAction (action : OfprotoRouteAction) (pfx : String) (egressIntf : String) :
    Exec OfprotoSai Int := do
  let found ← ofbundleLookupByNetdevName egressIntf
  match found with
  | none =>
    match action with
    | .add => halt (.assertion "bundle")
    -- Bundle is already removed and all local routes are cleared
    | .delete | .deleteNh => return 0
    | .unknown => return -1
  | some b =>
    let bundle ← ofbundle b
    if bundle.routerIntf.isLoopback then return 0 else
    match action with
    | .add => l3LocalRouteAdd b pfx
    | .delete | .deleteNh => l3LocalRouteDelete b pfx
    | .unknown => return -1

def l3RouteAction (action : OfprotoRouteAction) (routep : OfprotoRoute) : Exec OfprotoSai Int := do
  if routep.nexthops.contains .unknown then return -1
  match routep.split with
  | (rnh :: rnhs, lnhs) =>
    assert "lnh_count == 0" (lnhs = [])
    l3RemoteRouteAction action routep.pfx (rnh :: rnhs)
  | ([], [lnh]) => l3LocalRouteAction action routep.pfx lnh
  | ([], []) => return 0
  | ([], _ :: _ :: _) => halt (.assertion "lnh_count == 1")

end SwitchdSai
