import SwitchdSai.Model.Hardware

/-!
# Routes and neighbors

The vendor functions that program unicast routes (`sai-vendor-route.c`) and neighbors
(`sai-vendor-neighbor.c`). An add overwrites what the table has for the key, and a delete of a route
that the table does not have fails; deleting next hops leaves a route of another kind as it is.
-/

namespace SwitchdSai

open Exec

/-- `sx_access_cmd_t`, as far as these functions use it. -/
inductive SxAccessCmd where
  | add
  | delete
  deriving DecidableEq

/-- The route left when next hops are deleted from a route. With none given, the whole route is
deleted. -/
def HwRoute.deleteNextHops (route : HwRoute) (nextHops : List SxIpAddr) : Option HwRoute :=
  if nextHops = [] then none else
  match route with
  | .nextHop hops =>
    let hops := hops.filter fun hop => hop ∉ nextHops
    if hops = [] then none else some (.nextHop hops)
  | route => some route

/-- SDK `sx_api_router_uc_route_set` for a route with next hops. -/
def sxUcRouteSet (cmd : SxAccessCmd) (vrid : Nat) (pfx : SxIpPrefix) (nextHops : List SxIpAddr) :
    Exec Hw SaiStatus :=
  match cmd with
  | .add => Hw.call (Hw.setRoute vrid pfx (some (.nextHop nextHops)))
  | .delete => Hw.callIf (fun hw => (hw.routes vrid pfx).isSome) fun hw =>
      hw.setRoute vrid pfx ((hw.routes vrid pfx).bind (·.deleteNextHops nextHops))

/-- SDK `sx_api_router_uc_route_set` for a route without next hops. -/
def sxUcRouteAdd (vrid : Nat) (pfx : SxIpPrefix) (route : HwRoute) : Exec Hw SaiStatus :=
  Hw.call (Hw.setRoute vrid pfx (some route))

/-- SDK `sx_api_router_neigh_set`; without an address the neighbor is deleted. -/
def sxNeighSet (rif : Nat) (ip : SxIpAddr) (mac : Option EthAddr) : Exec Hw SaiStatus :=
  Hw.call (Hw.setNeighbor rif ip mac)

variable [OvsLib] [Build]

def routeRemoteAction (vrid : Nat) (pfx : String) (nextHops : List String) (action : SxAccessCmd) :
    Exec Hw SaiStatus :=
  match opsSaiCommonIpPrefixToSxIpPrefix pfx with
  | none => pure .invalidParameter
  | some sxPrefix =>
    match (nextHops.take Build.routerNextHopMax).mapM opsSaiCommonIpToSxIp with
    | none => pure .invalidParameter
    | some sxNextHops =>
      -- a further next hop is written past the end of `next_hop_list_p`
      if Build.routerNextHopMax < nextHops.length then halt (.undefined "next_hop_list_p")
      else sxUcRouteSet action vrid sxPrefix sxNextHops

def opsSaiRouteIpToMeAdd (vrid : Nat) (pfx : String) : Exec Hw Int :=
  match opsSaiCommonIpPrefixToSxIpPrefix pfx with
  | none => pure (sxError2Errno .invalidParameter)
  | some sxPrefix => return sxError2Errno (← sxUcRouteAdd vrid sxPrefix .ip2me)

def opsSaiRouteLocalAdd (vrid : Nat) (pfx : String) (rifid : Nat) : Exec Hw Int :=
  match opsSaiCommonIpPrefixToSxIpPrefix pfx with
  | none => pure (sxError2Errno .invalidParameter)
  | some sxPrefix => return sxError2Errno (← sxUcRouteAdd vrid sxPrefix (.local rifid))

def opsSaiRouteRemoteAdd (vrid : Nat) (pfx : String) (nextHops : List String) : Exec Hw Int := do
  assert "next_hop_count" (nextHops ≠ [])
  assert "next_hop_count <= RM_API_ROUTER_NEXT_HOP_MAX"
    (nextHops.length ≤ Build.routerNextHopMax)
  return sxError2Errno (← routeRemoteAction vrid pfx nextHops .add)

def opsSaiRouteRemoteNhRemove (vrid : Nat) (pfx : String) (nextHops : List String) :
    Exec Hw Int := return sxError2Errno (← routeRemoteAction vrid pfx nextHops .delete)

def opsSaiRouteRemove (vrid : Nat) (pfx : String) : Exec Hw Int :=
  return sxError2Errno (← routeRemoteAction vrid pfx [] .delete)

/-- `__neighbor_action`. The address family comes from the text of the address alone. -/
def neighborAction (ipAddr : String) (macAddr : Option String) (rifid : Nat) :
    Exec Hw SaiStatus :=
  match macAddr with
  | some mac =>
    match OvsLib.ethAddrFromString mac, opsSaiCommonIpToSxIp ipAddr with
    | some sxMac, some sxIp => sxNeighSet rifid sxIp (some sxMac)
    | _, _ => pure .invalidParameter
  | none =>
    match opsSaiCommonIpToSxIp ipAddr with
    | some sxIp => sxNeighSet rifid sxIp none
    | none => pure .invalidParameter

def opsSaiNeighborCreate (ipAddr macAddr : String) (rifid : Nat) : Exec Hw Int :=
  return sxError2Errno (← neighborAction ipAddr (some macAddr) rifid)

def opsSaiNeighborRemove (ipAddr : String) (rifid : Nat) : Exec Hw Int :=
  return sxError2Errno (← neighborAction ipAddr none rifid)

end SwitchdSai
