import SwitchdSai.Lib.Logged
import SwitchdSai.Model.L3
import SwitchdSai.Verify.Ofproto

/-!
# The arrays of next hops

`__l3_route_action` collects the remote next hops of a route in an array of as many elements as the
route has next hops of any kind, and `__route_remote_action` converts them into the array of
`RM_API_ROUTER_NEXT_HOP_MAX` elements that it hands to the SDK. Both are written down once more with
their writes marked. The first array always suffices. The bound of the second one is asserted where
routes are added, and nowhere where next hops are deleted.
-/

namespace SwitchdSai

open Exec Exec.Logged OfprotoSai

/-- What happens to the two arrays. -/
inductive NextHopEvent where
  /-- `next_hops[index]` is written. -/
  | nextHop (index : Nat)
  /-- `next_hop_list_p[index]` is written. -/
  | sxNextHop (index : Nat)
  /-- The SDK is called with `next_hop_cnt`. -/
  | routeSet (count : Nat)
  deriving DecidableEq, Repr

/-- The element of `next_hop_list_p` that is written. -/
def NextHopEvent.written : NextHopEvent → Option Nat
  | .sxNextHop index => some index
  | _ => none

namespace NextHops

variable [OvsLib] [Build]

/-- The loop of `__route_remote_action`; without a result if a next hop is no address. -/
def convert : Nat → List String → Logged NextHopEvent Hw (Option (List SxIpAddr))
  | _, [] => pure (some [])
  | index, nh :: nhs => do
    mark (.sxNextHop index) (.defined "next_hop_list_p" (decide (index < Build.routerNextHopMax)))
    match opsSaiCommonIpToSxIp nh with
    | none => pure none
    | some addr => do
      let addrs ← convert (index + 1) nhs
      pure (addrs.map (addr :: ·))

def routeRemoteAction (vrid : Nat) (pfx : String) (nextHops : List String) (action : SxAccessCmd) :
    Logged NextHopEvent Hw SaiStatus :=
  match opsSaiCommonIpPrefixToSxIpPrefix pfx with
  | none => pure .invalidParameter
  | some sxPrefix => do
    match ← convert 0 nextHops with
    | none => pure .invalidParameter
    | some sxNextHops =>
      mark (.routeSet nextHops.length) (sxUcRouteSet action vrid sxPrefix sxNextHops)

def opsSaiRouteRemoteAdd (vrid : Nat) (pfx : String) (nextHops : List String) :
    Logged NextHopEvent Hw Int := do
  quiet (assert "next_hop_count" (nextHops ≠ []))
  quiet (assert "next_hop_count <= RM_API_ROUTER_NEXT_HOP_MAX"
    (nextHops.length ≤ Build.routerNextHopMax))
  return sxError2Errno (← routeRemoteAction vrid pfx nextHops .add)

def opsSaiRouteRemoteNhRemove (vrid : Nat) (pfx : String) (nextHops : List String) :
    Logged NextHopEvent Hw Int :=
  return sxError2Errno (← routeRemoteAction vrid pfx nextHops .delete)

def opsSaiRouteRemove (vrid : Nat) (pfx : String) : Logged NextHopEvent Hw Int :=
  return sxError2Errno (← routeRemoteAction vrid pfx [] .delete)

/-- The loop of `__l3_route_action`; without a result if a type is unknown. -/
def collect : Nat → List OfprotoRouteNexthop →
    Logged NextHopEvent OfprotoSai (Option (List String × List String))
  | _, [] => pure (some ([], []))
  | rnhCount, .ipaddr id :: nhs => do
    mark (.nextHop rnhCount) (pure ())
    let rest ← collect (rnhCount + 1) nhs
    pure (rest.map fun (rnhs, lnhs) => (id :: rnhs, lnhs))
  | rnhCount, .port id :: nhs => do
    let rest ← collect rnhCount nhs
    pure (rest.map fun (rnhs, lnhs) => (rnhs, id :: lnhs))
  | _, .unknown :: _ => pure none

def onHw {α : Type} (t : Logged NextHopEvent Hw α) : Logged NextHopEvent OfprotoSai α :=
  zoom hw (fun t o => { o with hw := t }) t

def l3RemoteRouteAction (action : OfprotoRouteAction) (pfx : String) (nextHops : List String) :
    Logged NextHopEvent OfprotoSai Int := do
  let vrid ← gets OfprotoSai.vrid
  match action with
  | .add => onHw (opsSaiRouteRemoteAdd vrid pfx nextHops)
  | .deleteNh => onHw (opsSaiRouteRemoteNhRemove vrid pfx nextHops)
  | .delete => onHw (opsSaiRouteRemove vrid pfx)
  | .unknown => return -1

def l3LocalRouteDelete (b : BundlePtr) (pfx : String) : Logged NextHopEvent OfprotoSai Int := do
  let bundle ← ofbundle b
  let vrid ← gets OfprotoSai.vrid
  if bundle.localRoutes.contains pfx then
    (onHw (opsSaiRouteRemove vrid pfx)).thenOk do
      modifyBundle b fun bundle => { bundle with localRoutes := bundle.localRoutes.erase pfx }
      return 0
  else return 0

def l3LocalRouteAction (action : OfprotoRouteAction) (pfx : String) (egressIntf : String) :
    Logged NextHopEvent OfprotoSai Int := do
  let found ← ofbundleLookupByNetdevName egressIntf
  match found with
  | none =>
    match action with
    | .add => quiet (halt (.assertion "bundle"))
    | .delete | .deleteNh => return 0
    | .unknown => return -1
  | some b =>
    let bundle ← ofbundle b
    if bundle.routerIntf.isLoopback then return 0 else
    match action with
    | .add => quiet (l3LocalRouteAdd b pfx)
    | .delete | .deleteNh => l3LocalRouteDelete b pfx
    | .unknown => return -1

/-- `__l3_route_action` after its loop. -/
def l3CollectedRouteAction (action : OfprotoRouteAction) (pfx : String) :
    Option (List String × List String) → Logged NextHopEvent OfprotoSai Int
  | none => return -1
  | some (rnh :: rnhs, lnhs) => do
    quiet (assert "lnh_count == 0" (lnhs = []))
    l3RemoteRouteAction action pfx (rnh :: rnhs)
  | some ([], [lnh]) => l3LocalRouteAction action pfx lnh
  | some ([], []) => return 0
  | some ([], _ :: _ :: _) => quiet (halt (.assertion "lnh_count == 1"))

def l3RouteAction (action : OfprotoRouteAction) (routep : OfprotoRoute) :
    Logged NextHopEvent OfprotoSai Int := do
  l3CollectedRouteAction action routep.pfx (← collect 0 routep.nexthops)

/-! ## The conversion -/

section
variable {index vrid : Nat} {nextHops : List String} {hw : Hw} {pfx : String} {action : SxAccessCmd}

omit [OvsLib] in
theorem convert_inside (h : index < Build.routerNextHopMax) :
    (Exec.defined "next_hop_list_p" (decide (index < Build.routerNextHopMax)) : Exec Hw Unit) hw =
      .ok ((), hw) :=
  require_ok.mpr ⟨decide_eq_true h, rfl⟩

theorem convert_prog_cons (nh : String) (nhs : List String)
    (h : index < Build.routerNextHopMax) : (convert index (nh :: nhs)).prog hw =
      (opsSaiCommonIpToSxIp nh).elim (.ok (none, hw)) fun addr =>
        ((convert (index + 1) nhs).prog >>= fun addrs => pure (addrs.map (addr :: ·))) hw := by
  conv => lhs; unfold convert
  rw [prog_bind, prog_mark, bind_of_ok (convert_inside h)]
  cases opsSaiCommonIpToSxIp nh with
  | none => rfl
  | some addr => rfl

theorem convert_log_cons (nh : String) (nhs : List String)
    (h : index < Build.routerNextHopMax) : (convert index (nh :: nhs)).log hw =
      .sxNextHop index :: ((opsSaiCommonIpToSxIp nh).elim [] fun _ =>
        (convert (index + 1) nhs).log hw) := by
  conv => lhs; unfold convert
  rw [log_bind (convert_inside h)]
  cases opsSaiCommonIpToSxIp nh with
  | none => rfl
  | some addr => exact congrArg (NextHopEvent.sxNextHop index :: ·) log_bind_pure

/-- The conversion stops behind the end of the array. -/
theorem convert_outside (hw : Hw) (nh : String) (nhs : List String)
    (h : Build.routerNextHopMax ≤ index) :
    (convert index (nh :: nhs)).prog hw = .error (.undefined "next_hop_list_p") ∧
      .sxNextHop index ∈ (convert index (nh :: nhs)).log hw := by
  have hout : (Exec.defined "next_hop_list_p" (decide (index < Build.routerNextHopMax)) :
      Exec Hw Unit) = halt (.undefined "next_hop_list_p") := by
    rw [decide_eq_false (Nat.not_lt.mpr h)]
    rfl
  unfold convert
  rw [hout]
  exact ⟨rfl, List.mem_append_left _ (List.mem_singleton_self _)⟩

/-- The conversion ends with an address for every next hop, at a next hop that is no address, or
behind the end of the array. -/
theorem convert_cases (nextHops : List String) (hw : Hw) (h : index ≤ Build.routerNextHopMax) :
    (∃ sxNextHops, (nextHops.take (Build.routerNextHopMax - index)).mapM opsSaiCommonIpToSxIp =
        some sxNextHops ∧
      (convert index nextHops).prog hw = .ok (some sxNextHops, hw) ∧
      (convert index nextHops).log hw =
        (List.range' index nextHops.length).map .sxNextHop ∧
      index + nextHops.length ≤ Build.routerNextHopMax) ∨
    ((nextHops.take (Build.routerNextHopMax - index)).mapM opsSaiCommonIpToSxIp = none ∧
      (convert index nextHops).prog hw = .ok (none, hw) ∧
      ∀ e ∈ (convert index nextHops).log hw, ∃ i < Build.routerNextHopMax, e = .sxNextHop i) ∨
    (∃ sxNextHops, (nextHops.take (Build.routerNextHopMax - index)).mapM opsSaiCommonIpToSxIp =
        some sxNextHops ∧
      (convert index nextHops).prog hw = .error (.undefined "next_hop_list_p") ∧
      .sxNextHop Build.routerNextHopMax ∈ (convert index nextHops).log hw ∧
      Build.routerNextHopMax < index + nextHops.length) := by
  induction nextHops generalizing index with
  | nil => exact .inl ⟨[], by simp, rfl, rfl, h⟩
  | cons nh nhs ih =>
    rcases Nat.lt_or_ge index Build.routerNextHopMax with hin | hout
    · rw [convert_log_cons nh nhs hin, convert_prog_cons nh nhs hin,
        show Build.routerNextHopMax - index = Build.routerNextHopMax - (index + 1) + 1 by omega,
        List.take_succ_cons, List.mapM_cons]
      cases hnh : opsSaiCommonIpToSxIp nh with
      | none =>
        refine .inr (.inl ⟨rfl, rfl, ?_⟩)
        rintro e he
        exact ⟨index, hin, List.mem_singleton.mp he⟩
      | some addr =>
        rcases ih hin with ⟨addrs, haddrs, hprog, hlog, hlen⟩ | ⟨hbad, hprog, hlog⟩ |
          ⟨addrs, haddrs, hprog, hlog, hlen⟩
        · refine .inl ⟨addr :: addrs, by rw [haddrs]; rfl, bind_of_ok hprog, ?_, ?_⟩
          · rw [Option.elim_some, hlog, List.length_cons, List.range'_succ, List.map_cons]
          · rw [List.length_cons]
            omega
        · refine .inr (.inl ⟨by rw [hbad]; rfl, bind_of_ok hprog, ?_⟩)
          intro e he
          rcases List.mem_cons.mp he with rfl | he
          · exact ⟨index, hin, rfl⟩
          · exact hlog e he
        · refine .inr (.inr ⟨addr :: addrs, by rw [haddrs]; rfl, bind_of_error hprog,
            List.mem_cons_of_mem _ hlog, ?_⟩)
          rw [List.length_cons]
          omega
    · obtain rfl : index = Build.routerNextHopMax := Nat.le_antisymm h hout
      obtain ⟨hprog, hlog⟩ := convert_outside hw nh nhs (Nat.le_refl _)
      refine .inr (.inr ⟨[], by simp, hprog, hlog, ?_⟩)
      rw [List.length_cons]
      omega

/-! ## One call of the SDK -/

/-- The prefix is no prefix, or a next hop that there is room for is no address. -/
def Rejected (pfx : String) (nextHops : List String) : Prop :=
  opsSaiCommonIpPrefixToSxIpPrefix pfx = none ∨
    ∃ nh ∈ nextHops.take Build.routerNextHopMax, opsSaiCommonIpToSxIp nh = none

omit [Build] in
theorem mapM_eq_none_iff : nextHops.mapM opsSaiCommonIpToSxIp = none ↔
    ∃ nh ∈ nextHops, opsSaiCommonIpToSxIp nh = none := by
  induction nextHops with
  | nil => simp
  | cons nh nhs ih =>
    cases h : opsSaiCommonIpToSxIp nh with
    | none => simp [h]
    | some addr =>
      rw [List.mapM_cons, h, List.exists_mem_cons_iff, ← ih]
      cases nhs.mapM opsSaiCommonIpToSxIp <;> simp [h]

/-- The writes for a call of the SDK stay below the end of the array, and the SDK is told as many
next hops as there have been. -/
structure Tidy (log : List NextHopEvent) : Prop where
  sxOnly : ∀ i, .nextHop i ∉ log
  below : ∀ i, .sxNextHop i ∈ log → i < Build.routerNextHopMax
  counted : ∀ n, .routeSet n ∈ log → log.filterMap NextHopEvent.written = List.range n

omit [OvsLib] in
theorem Tidy.of_writes {log : List NextHopEvent}
    (h : ∀ e ∈ log, ∃ i < Build.routerNextHopMax, e = .sxNextHop i) : Tidy log where
  sxOnly i hi := by
    obtain ⟨j, -, heq⟩ := h _ hi
    cases heq
  below i hi := by
    obtain ⟨j, hj, heq⟩ := h _ hi
    cases heq
    exact hj
  counted n hn := by
    obtain ⟨j, -, heq⟩ := h _ hn
    cases heq

omit [OvsLib] in
theorem Tidy.nil : Tidy [] := of_writes fun _ h => absurd h List.not_mem_nil

omit [OvsLib] in
theorem Tidy.call {n : Nat} (h : n ≤ Build.routerNextHopMax) :
    Tidy ((List.range' 0 n).map .sxNextHop ++ [.routeSet n]) where
  sxOnly i hi := by
    rcases List.mem_append.mp hi with hi | hi
    · obtain ⟨j, -, heq⟩ := List.mem_map.mp hi
      cases heq
    · cases List.mem_singleton.mp hi
  below i hi := by
    rcases List.mem_append.mp hi with hi | hi
    · obtain ⟨j, hj, heq⟩ := List.mem_map.mp hi
      cases heq
      have := (List.mem_range'_1.mp hj).2
      omega
    · cases List.mem_singleton.mp hi
  counted m hm := by
    rcases List.mem_append.mp hm with hm | hm
    · obtain ⟨j, -, heq⟩ := List.mem_map.mp hm
      cases heq
    · cases List.mem_singleton.mp hm
      have hwritten : NextHopEvent.written ∘ NextHopEvent.sxNextHop = some := rfl
      simp [List.filterMap_map, hwritten, NextHopEvent.written, List.range_eq_range']

theorem routeRemoteAction_cases (vrid : Nat) (pfx : String) (nextHops : List String)
    (action : SxAccessCmd) (hw : Hw) :
    (Rejected pfx nextHops ∧
      (routeRemoteAction vrid pfx nextHops action).prog hw = .ok (.invalidParameter, hw) ∧
      Tidy ((routeRemoteAction vrid pfx nextHops action).log hw)) ∨
    (∃ sxPrefix sxNextHops, opsSaiCommonIpPrefixToSxIpPrefix pfx = some sxPrefix ∧
      nextHops.length ≤ Build.routerNextHopMax ∧
      (routeRemoteAction vrid pfx nextHops action).prog hw =
        sxUcRouteSet action vrid sxPrefix sxNextHops hw ∧
      Tidy ((routeRemoteAction vrid pfx nextHops action).log hw)) ∨
    (¬Rejected pfx nextHops ∧ Build.routerNextHopMax < nextHops.length ∧
      (routeRemoteAction vrid pfx nextHops action).prog hw =
        .error (.undefined "next_hop_list_p")) := by
  unfold routeRemoteAction
  cases hpfx : opsSaiCommonIpPrefixToSxIpPrefix pfx with
  | none => exact .inl ⟨.inl hpfx, rfl, Tidy.nil⟩
  | some sxPrefix =>
    dsimp only
    rcases convert_cases nextHops hw (Nat.zero_le _) with
      ⟨addrs, haddrs, hprog, hlog, hlen⟩ | ⟨hbad, hprog, hlog⟩ | ⟨addrs, haddrs, hprog, hlog, hlen⟩
    · refine .inr (.inl ⟨sxPrefix, addrs, rfl, by omega, bind_of_ok hprog, ?_⟩)
      rw [log_bind hprog, hlog]
      exact Tidy.call (by omega)
    · refine .inl ⟨.inr (mapM_eq_none_iff.1 hbad), bind_of_ok hprog, ?_⟩
      rw [log_bind hprog]
      exact Tidy.of_writes (by rwa [show (pure SaiStatus.invalidParameter :
        Logged NextHopEvent Hw SaiStatus).log hw = [] from rfl, List.append_nil])
    · refine .inr (.inr ⟨?_, by omega, bind_of_error hprog⟩)
      rintro (h | h)
      · rw [hpfx] at h
        cases h
      · rw [Nat.sub_zero, mapM_eq_none_iff.2 h] at haddrs
        cases haddrs

/-! ## Forgetting the log -/

theorem routeRemoteAction_prog : (routeRemoteAction vrid pfx nextHops action).prog =
    SwitchdSai.routeRemoteAction vrid pfx nextHops action := by
  unfold routeRemoteAction SwitchdSai.routeRemoteAction
  cases opsSaiCommonIpPrefixToSxIpPrefix pfx with
  | none => rfl
  | some sxPrefix =>
    funext hw
    dsimp only
    rw [prog_bind]
    rcases convert_cases nextHops hw (Nat.zero_le _) with
      ⟨addrs, haddrs, hprog, -, hlen⟩ | ⟨hbad, hprog, -⟩ | ⟨addrs, haddrs, hprog, -, hlen⟩
    · rw [bind_of_ok hprog, ← Nat.sub_zero Build.routerNextHopMax, haddrs]
      dsimp only
      rw [if_neg (by omega)]
      rfl
    · rw [bind_of_ok hprog, ← Nat.sub_zero Build.routerNextHopMax, hbad]
      rfl
    · rw [bind_of_error hprog, ← Nat.sub_zero Build.routerNextHopMax, haddrs]
      dsimp only
      rw [if_pos (by omega)]
      rfl

theorem opsSaiRouteRemoteAdd_prog : (opsSaiRouteRemoteAdd vrid pfx nextHops).prog =
    SwitchdSai.opsSaiRouteRemoteAdd vrid pfx nextHops := by
  simp only [opsSaiRouteRemoteAdd, SwitchdSai.opsSaiRouteRemoteAdd, prog_bind, prog_quiet,
    routeRemoteAction_prog, prog_pure]

theorem opsSaiRouteRemoteNhRemove_prog : (opsSaiRouteRemoteNhRemove vrid pfx nextHops).prog =
    SwitchdSai.opsSaiRouteRemoteNhRemove vrid pfx nextHops := by
  simp only [opsSaiRouteRemoteNhRemove, SwitchdSai.opsSaiRouteRemoteNhRemove, prog_bind,
    routeRemoteAction_prog, prog_pure]

theorem opsSaiRouteRemove_prog : (opsSaiRouteRemove vrid pfx).prog =
    SwitchdSai.opsSaiRouteRemove vrid pfx := by
  simp only [opsSaiRouteRemove, SwitchdSai.opsSaiRouteRemove, prog_bind, routeRemoteAction_prog,
    prog_pure]

end

section
variable {b : BundlePtr} {pfx : String} {action : OfprotoRouteAction} {o : OfprotoSai}

omit [OvsLib] [Build] in
/-- The loop of `__l3_route_action` changes nothing. -/
theorem collect_prog (pfx : String) (rnhCount : Nat) (nexthops : List OfprotoRouteNexthop) :
    (collect rnhCount nexthops).prog o =
      .ok (if .unknown ∈ nexthops then none else some (OfprotoRoute.split ⟨pfx, nexthops⟩), o) := by
  induction nexthops generalizing rnhCount with
  | nil => rfl
  | cons nh nhs ih =>
    cases nh with
    | ipaddr id =>
      refine (bind_of_ok (ih (rnhCount + 1))).trans ?_
      by_cases h : .unknown ∈ nhs <;> simp [h, OfprotoRoute.split]
    | port id =>
      refine (bind_of_ok (ih rnhCount)).trans ?_
      by_cases h : .unknown ∈ nhs <;> simp [h, OfprotoRoute.split]
    | unknown => simp [collect]

omit [OvsLib] [Build] in
/-- The array of the remote next hops of a route has an element for each. -/
theorem collect_log (rnhCount : Nat) (nexthops : List OfprotoRouteNexthop) :
    ∀ e ∈ (collect rnhCount nexthops).log o,
      ∃ i < rnhCount + nexthops.length, e = .nextHop i := by
  induction nexthops generalizing rnhCount o with
  | nil => exact fun e he => absurd he List.not_mem_nil
  | cons nh nhs ih =>
    intro e he
    rw [List.length_cons]
    cases nh with
    | ipaddr id =>
      rcases mem_log_bind.mp he with he | ⟨_, _, -, he⟩
      · exact ⟨rnhCount, by omega, List.mem_singleton.mp he⟩
      · rw [log_bind_pure] at he
        obtain ⟨i, hi, rfl⟩ := ih (rnhCount + 1) e he
        exact ⟨i, by omega, rfl⟩
    | port id =>
      rw [collect, log_bind_pure] at he
      obtain ⟨i, hi, rfl⟩ := ih rnhCount e he
      exact ⟨i, by omega, rfl⟩
    | unknown => exact absurd he List.not_mem_nil

theorem l3RemoteRouteAction_prog {nextHops : List String} :
    (l3RemoteRouteAction action pfx nextHops).prog =
      SwitchdSai.l3RemoteRouteAction action pfx nextHops := by
  unfold l3RemoteRouteAction SwitchdSai.l3RemoteRouteAction
  rw [prog_bind]
  refine bind_congr fun vrid => ?_
  cases action with
  | add => exact congrArg OfprotoSai.onHw opsSaiRouteRemoteAdd_prog
  | deleteNh => exact congrArg OfprotoSai.onHw opsSaiRouteRemoteNhRemove_prog
  | delete => exact congrArg OfprotoSai.onHw opsSaiRouteRemove_prog
  | unknown => rfl

theorem l3LocalRouteDelete_prog : (l3LocalRouteDelete b pfx).prog =
    SwitchdSai.l3LocalRouteDelete b pfx := by
  have hremove : ∀ vrid, (onHw (opsSaiRouteRemove vrid pfx)).prog =
      OfprotoSai.onHw (SwitchdSai.opsSaiRouteRemove vrid pfx) := fun vrid =>
    congrArg OfprotoSai.onHw opsSaiRouteRemove_prog
  simp only [l3LocalRouteDelete, SwitchdSai.l3LocalRouteDelete, prog_bind, prog_lift, prog_ite,
    prog_thenOk, hremove, prog_pure]

theorem l3LocalRouteAction_prog {egressIntf : String} :
    (l3LocalRouteAction action pfx egressIntf).prog =
      SwitchdSai.l3LocalRouteAction action pfx egressIntf := by
  unfold l3LocalRouteAction SwitchdSai.l3LocalRouteAction
  rw [prog_bind]
  refine bind_congr fun found => ?_
  cases found with
  | none => cases action <;> rfl
  | some b =>
    dsimp only
    rw [prog_bind]
    refine bind_congr fun bundle => ?_
    rw [prog_ite]
    refine congrArg₂ _ rfl ?_
    cases action with
    | add => rfl
    | delete => exact l3LocalRouteDelete_prog
    | deleteNh => exact l3LocalRouteDelete_prog
    | unknown => rfl

theorem l3CollectedRouteAction_prog {nextHops : List String × List String} :
    (l3CollectedRouteAction action pfx (some nextHops)).prog =
      match nextHops with
      | (rnh :: rnhs, lnhs) => do
        assert "lnh_count == 0" (lnhs = [])
        SwitchdSai.l3RemoteRouteAction action pfx (rnh :: rnhs)
      | ([], [lnh]) => SwitchdSai.l3LocalRouteAction action pfx lnh
      | ([], []) => return 0
      | ([], _ :: _ :: _) => halt (.assertion "lnh_count == 1") := by
  rcases nextHops with ⟨_ | ⟨rnh, rnhs⟩, lnhs⟩
  · rcases lnhs with _ | ⟨lnh, _ | ⟨_, _⟩⟩
    · rfl
    · exact l3LocalRouteAction_prog
    · rfl
  · exact congrArg (_ >>= ·) (funext fun _ => l3RemoteRouteAction_prog)

theorem l3RouteAction_prog {routep : OfprotoRoute} :
    (l3RouteAction action routep).prog = SwitchdSai.l3RouteAction action routep := by
  funext o
  unfold l3RouteAction SwitchdSai.l3RouteAction
  rw [prog_bind, bind_of_ok (collect_prog routep.pfx 0 routep.nexthops)]
  by_cases h : .unknown ∈ routep.nexthops
  · rw [if_pos h, if_pos (List.contains_iff_mem.mpr h)]
    rfl
  · rw [if_neg h, if_neg (mt List.contains_iff_mem.mp h)]
    exact congrFun l3CollectedRouteAction_prog o

end

/-! ## The calls of one action -/

section
variable {vrid : Nat} {b : BundlePtr} {pfx : String} {nextHops : List String} {hw : Hw}
  {o : OfprotoSai} {action : OfprotoRouteAction}

omit [OvsLib] in
theorem Tidy.lift_bind {σ α β : Type} {m : Exec σ α} {k : α → Logged NextHopEvent σ β} {s : σ}
    (h : ∀ a s', Tidy ((k a).log s')) : Tidy ((liftM m >>= k).log s) := by
  cases hm : m s with
  | error e =>
    show Tidy ([] ++ after m (fun a => (k a).log) s)
    unfold after
    rw [hm]
    exact Tidy.nil
  | ok r =>
    rw [log_lift_bind hm]
    exact h _ _

theorem opsSaiRouteRemove_tidy : Tidy ((opsSaiRouteRemove vrid pfx).log hw) := by
  rw [opsSaiRouteRemove, log_bind_pure]
  rcases routeRemoteAction_cases vrid pfx [] .delete hw with
    ⟨-, -, htidy⟩ | ⟨_, _, -, -, -, htidy⟩ | ⟨-, hlen, -⟩
  · exact htidy
  · exact htidy
  · cases hlen

theorem opsSaiRouteRemoteNhRemove_tidy
    (h : nextHops.length ≤ Build.routerNextHopMax ∨ Rejected pfx nextHops) :
    Tidy ((opsSaiRouteRemoteNhRemove vrid pfx nextHops).log hw) := by
  rw [opsSaiRouteRemoteNhRemove, log_bind_pure]
  rcases routeRemoteAction_cases vrid pfx nextHops .delete hw with
    ⟨-, -, htidy⟩ | ⟨_, _, -, -, -, htidy⟩ | ⟨hvalid, hlen, -⟩
  · exact htidy
  · exact htidy
  · rcases h with h | h
    · omega
    · exact absurd h hvalid

/-- The assertions of the addition keep the array. -/
theorem opsSaiRouteRemoteAdd_tidy : Tidy ((opsSaiRouteRemoteAdd vrid pfx nextHops).log hw) := by
  unfold opsSaiRouteRemoteAdd
  rw [log_require_bind]
  split
  · rw [log_require_bind]
    split
    next hlen =>
      rw [log_bind_pure]
      rcases routeRemoteAction_cases vrid pfx nextHops .add hw with
        ⟨-, -, htidy⟩ | ⟨_, _, -, -, -, htidy⟩ | ⟨-, hlong, -⟩
      · exact htidy
      · exact htidy
      · exact absurd (of_decide_eq_true hlen) (Nat.not_le_of_lt hlong)
    next => exact Tidy.nil
  · exact Tidy.nil

theorem l3RemoteRouteAction_tidy (h : action = .deleteNh →
    nextHops.length ≤ Build.routerNextHopMax ∨ Rejected pfx nextHops) :
    Tidy ((l3RemoteRouteAction action pfx nextHops).log o) := by
  refine Tidy.lift_bind fun vrid o' => ?_
  cases action with
  | add => exact opsSaiRouteRemoteAdd_tidy 
  | deleteNh => exact opsSaiRouteRemoteNhRemove_tidy  (h rfl)
  | delete => exact opsSaiRouteRemove_tidy 
  | unknown => exact Tidy.nil

theorem l3LocalRouteDelete_tidy : Tidy ((l3LocalRouteDelete b pfx).log o) := by
  refine Tidy.lift_bind fun bundle o₁ => Tidy.lift_bind fun vrid o₂ => ?_
  split
  · rw [log_thenOk_quiet fun _ => log_lift_pure]
    exact opsSaiRouteRemove_tidy 
  · exact Tidy.nil

theorem l3LocalRouteAction_tidy {egressIntf : String} :
    Tidy ((l3LocalRouteAction action pfx egressIntf).log o) := by
  refine Tidy.lift_bind fun found o₁ => ?_
  cases found with
  | none => cases action <;> exact Tidy.nil
  | some b =>
    refine Tidy.lift_bind fun bundle o₂ => ?_
    split
    · exact Tidy.nil
    · cases action with
      | add => exact Tidy.nil
      | delete => exact l3LocalRouteDelete_tidy
      | deleteNh => exact l3LocalRouteDelete_tidy
      | unknown => exact Tidy.nil

end

/-! ## Every route -/

/-- Both arrays suffice, the SDK is told as many next hops as it is given, and a route with too many
for it is refused. -/
structure Safe (action : OfprotoRouteAction) (routep : OfprotoRoute) (o : OfprotoSai) : Prop where
  nextHops : ∀ i, .nextHop i ∈ (l3RouteAction action routep).log o → i < routep.nexthops.length
  sxNextHops : ∀ i, .sxNextHop i ∈ (l3RouteAction action routep).log o → i < Build.routerNextHopMax
  counted : ∀ n, .routeSet n ∈ (l3RouteAction action routep).log o →
    ((l3RouteAction action routep).log o).filterMap NextHopEvent.written = List.range n
  refused : Build.routerNextHopMax < routep.split.1.length →
    ∃ st o', SwitchdSai.l3RouteAction action routep o = .ok (st, o') ∧ st ≠ 0

/-- Why an action on too many next hops is refused before they overflow the array. -/
def RefusedAnyway (pfx : String) (nextHops : List String) (o : OfprotoSai) :
    OfprotoRouteAction → Prop
  | .add => False
  | .deleteNh => Rejected pfx nextHops
  | .delete => ∀ sxPrefix, opsSaiCommonIpPrefixToSxIpPrefix pfx = some sxPrefix →
      o.hw.routes o.vrid sxPrefix = none ∨ o.hw.nextOutcome ≠ .success
  | .unknown => True

/-- The remote next hops fit the array of the SDK, a next hop has an unknown type, or all are remote
and the action is refused anyway. -/
def Fits (action : OfprotoRouteAction) (routep : OfprotoRoute) (o : OfprotoSai) : Prop :=
  routep.split.1.length ≤ Build.routerNextHopMax ∨ .unknown ∈ routep.nexthops ∨
    routep.split.2 = [] ∧ RefusedAnyway routep.pfx routep.split.1 o action

section
variable {action : OfprotoRouteAction} {routep : OfprotoRoute} {o : OfprotoSai}

theorem l3CollectedRouteAction_tidy (h : Fits action routep o)
    (hknown : .unknown ∉ routep.nexthops) :
    Tidy ((l3CollectedRouteAction action routep.pfx (some routep.split)).log o) := by
  unfold Fits at h
  generalize routep.split = nextHops at h ⊢
  rcases nextHops with ⟨_ | ⟨rnh, rnhs⟩, lnhs⟩
  · rcases lnhs with _ | ⟨lnh, _ | ⟨_, _⟩⟩
    · exact Tidy.nil
    · exact l3LocalRouteAction_tidy
    · exact Tidy.nil
  · show Tidy ((quiet _ >>= _).log o)
    rw [log_require_bind]
    split
    · apply l3RemoteRouteAction_tidy
      rintro rfl
      rcases h with h | h | ⟨-, h⟩
      · exact .inl h
      · exact absurd h hknown
      · exact .inr h
    · exact Tidy.nil

theorem l3RouteAction_remote (hknown : .unknown ∉ routep.nexthops) (hne : routep.split.1 ≠ []) :
    SwitchdSai.l3RouteAction action routep =
      (assert "lnh_count == 0" (routep.split.2 = []) >>= fun _ =>
        SwitchdSai.l3RemoteRouteAction action routep.pfx routep.split.1) := by
  unfold SwitchdSai.l3RouteAction
  rw [if_neg (mt List.contains_iff_mem.mp hknown)]
  generalize routep.split = nextHops at hne ⊢
  rcases nextHops with ⟨_ | ⟨rnh, rnhs⟩, lnhs⟩
  · exact absurd rfl hne
  · rfl

omit [OvsLib] [Build] in
theorem sxError2Errno_refused {m : Exec Hw SaiStatus} {hw : Hw} :
    (∃ st hw', (m >>= fun status => pure (sxError2Errno status)) hw = .ok (st, hw') ∧ st ≠ 0) ↔
      ∃ status hw', m hw = .ok (status, hw') ∧ status ≠ .success := by
  constructor
  · rintro ⟨st, hw', hrun, h0⟩
    obtain ⟨status, hw₁, hm, hend⟩ := bind_ok.mp hrun
    cases hend
    exact ⟨status, _, hm, mt sxError2Errno_eq_zero.mpr h0⟩
  · rintro ⟨status, hw', hm, hne⟩
    exact ⟨_, hw', bind_of_ok hm, mt sxError2Errno_eq_zero.mp hne⟩

omit [OvsLib] [Build] in
theorem callIf_refused {valid : Hw → Bool} {effect : Hw → Hw} {hw : Hw} :
    (∃ status hw', Hw.callIf valid effect hw = .ok (status, hw') ∧ status ≠ .success) ↔
      valid hw = false ∨ hw.nextOutcome ≠ .success := by
  unfold Hw.callIf
  by_cases hout : hw.nextOutcome = .success
  · rw [if_pos hout]
    cases hvalid : valid hw with
    | true => simp [hout]
    | false => exact iff_of_true ⟨_, _, rfl, by decide⟩ (.inl rfl)
  · rw [if_neg hout]
    exact iff_of_true ⟨_, _, rfl, hout⟩ (.inr hout)

theorem opsSaiRouteRemove_refused {vrid : Nat} {pfx : String} {hw : Hw} :
    (∃ st hw', SwitchdSai.opsSaiRouteRemove vrid pfx hw = .ok (st, hw') ∧ st ≠ 0) ↔
      ∀ sxPrefix, opsSaiCommonIpPrefixToSxIpPrefix pfx = some sxPrefix →
        hw.routes vrid sxPrefix = none ∨ hw.nextOutcome ≠ .success := by
  unfold SwitchdSai.opsSaiRouteRemove
  rw [sxError2Errno_refused, ← routeRemoteAction_prog]
  rcases routeRemoteAction_cases vrid pfx [] .delete hw with
    ⟨hbad, hprog, -⟩ | ⟨sxPrefix, sxNextHops, hpfx, -, hprog, -⟩ | ⟨-, hlen, -⟩
  · rw [hprog]
    refine iff_of_true ⟨_, _, rfl, by decide⟩ fun sxPrefix hpfx => ?_
    rcases hbad with hbad | ⟨nh, hnh, -⟩
    · cases hbad.symm.trans hpfx
    · rw [List.take_nil] at hnh
      cases hnh
  · rw [hprog, sxUcRouteSet, callIf_refused, hpfx, Option.isSome_eq_false_iff,
      Option.isNone_iff_eq_none]
    exact ⟨fun h _ heq => Option.some.inj heq ▸ h, fun h => h _ rfl⟩
  · cases hlen

theorem opsSaiRouteRemoteNhRemove_refused {vrid : Nat} {pfx : String} {nextHops : List String}
    {hw : Hw} (hlong : Build.routerNextHopMax < nextHops.length) :
    (∃ st hw', SwitchdSai.opsSaiRouteRemoteNhRemove vrid pfx nextHops hw = .ok (st, hw') ∧
      st ≠ 0) ↔ Rejected pfx nextHops := by
  unfold SwitchdSai.opsSaiRouteRemoteNhRemove
  rw [sxError2Errno_refused, ← routeRemoteAction_prog]
  rcases routeRemoteAction_cases vrid pfx nextHops .delete hw with
    ⟨hbad, hprog, -⟩ | ⟨_, _, -, hlen, -⟩ | ⟨hvalid, -, hprog⟩
  · rw [hprog]
    exact iff_of_true ⟨_, _, rfl, by decide⟩ hbad
  · omega
  · rw [hprog]
    refine iff_of_false ?_ hvalid
    rintro ⟨_, _, h, -⟩
    cases h

omit [OvsLib] [Build] in
theorem onHw_refused {m : Exec Hw Int} :
    (∃ st o', OfprotoSai.onHw m o = .ok (st, o') ∧ st ≠ 0) ↔
      ∃ st hw', m o.hw = .ok (st, hw') ∧ st ≠ 0 := by
  constructor
  · rintro ⟨st, o', hrun, h0⟩
    obtain ⟨hw, hm, -⟩ := onHw_ok.mp hrun
    exact ⟨st, hw, hm, h0⟩
  · rintro ⟨st, hw, hm, h0⟩
    exact ⟨st, _, onHw_ok.mpr ⟨hw, hm, rfl⟩, h0⟩

/-- An action on too many remote next hops is refused exactly if it is refused anyway. -/
theorem l3RemoteRouteAction_refused {pfx : String} {nextHops : List String}
    (hlong : Build.routerNextHopMax < nextHops.length) :
    (∃ st o', SwitchdSai.l3RemoteRouteAction action pfx nextHops o = .ok (st, o') ∧ st ≠ 0) ↔
      RefusedAnyway pfx nextHops o action := by
  cases action with
  | add =>
    refine iff_of_false ?_ id
    rintro ⟨st, o', hrun, -⟩
    obtain ⟨hw, hm, -⟩ := onHw_ok.mp hrun
    obtain ⟨-, hm⟩ := require_bind.mp hm
    obtain ⟨hfew, -⟩ := require_bind.mp hm
    exact absurd (of_decide_eq_true hfew) (Nat.not_le_of_lt hlong)
  | deleteNh => exact Iff.trans onHw_refused (opsSaiRouteRemoteNhRemove_refused hlong)
  | delete => exact Iff.trans onHw_refused opsSaiRouteRemove_refused
  | unknown => exact iff_of_true ⟨-1, o, rfl, by decide⟩ trivial

/-- Both arrays suffice, the count is right and too many next hops are refused exactly if there are
not too many, or the action is refused for another reason before they overflow the array. -/
theorem l3RouteAction_safe (action : OfprotoRouteAction) (routep : OfprotoRoute) (o : OfprotoSai) :
    (l3RouteAction action routep).prog = SwitchdSai.l3RouteAction action routep ∧
      (Safe action routep o ↔ Fits action routep o) := by
  refine ⟨l3RouteAction_prog, ?_⟩
  have hlog : (l3RouteAction action routep).log o = (collect 0 routep.nexthops).log o ++
      (l3CollectedRouteAction action routep.pfx
        (if .unknown ∈ routep.nexthops then none else some routep.split)).log o :=
    log_bind (collect_prog routep.pfx 0 routep.nexthops)
  constructor
  · intro h
    by_cases hfew : routep.split.1.length ≤ Build.routerNextHopMax
    · exact .inl hfew
    by_cases hknown : .unknown ∈ routep.nexthops
    · exact .inr (.inl hknown)
    have hlong := Nat.lt_of_not_le hfew
    obtain ⟨st, o', hrun, h0⟩ := h.refused hlong
    rw [l3RouteAction_remote hknown (by rintro h; rw [h] at hlong; cases hlong)] at hrun
    obtain ⟨hlocal, hrun⟩ := require_bind.mp hrun
    exact .inr (.inr ⟨of_decide_eq_true hlocal,
      (l3RemoteRouteAction_refused hlong).mp ⟨st, o', hrun, h0⟩⟩)
  · intro h
    have hcollect := collect_log (o := o) 0 routep.nexthops
    have htidy : Tidy ((l3CollectedRouteAction action routep.pfx
        (if .unknown ∈ routep.nexthops then none else some routep.split)).log o) := by
      split
      next => exact Tidy.nil
      next hknown => exact l3CollectedRouteAction_tidy h hknown
    refine ⟨fun i hi => ?_, fun i hi => ?_, fun n hn => ?_, fun hlong => ?_⟩
    · rw [hlog, List.mem_append] at hi
      rcases hi with hi | hi
      · obtain ⟨j, hj, heq⟩ := hcollect _ hi
        cases heq
        omega
      · exact absurd hi (htidy.sxOnly i)
    · rw [hlog, List.mem_append] at hi
      rcases hi with hi | hi
      · obtain ⟨j, -, heq⟩ := hcollect _ hi
        cases heq
      · exact htidy.below i hi
    · rw [hlog, List.mem_append] at hn
      have hnone : ((collect 0 routep.nexthops).log o).filterMap NextHopEvent.written = [] := by
        rw [List.filterMap_eq_nil_iff]
        intro e he
        obtain ⟨j, -, rfl⟩ := hcollect e he
        rfl
      rcases hn with hn | hn
      · obtain ⟨j, -, heq⟩ := hcollect _ hn
        cases heq
      · rw [hlog, List.filterMap_append, hnone, List.nil_append]
        exact htidy.counted n hn
    · by_cases hknown : .unknown ∈ routep.nexthops
      · refine ⟨-1, o, ?_, by decide⟩
        unfold SwitchdSai.l3RouteAction
        rw [if_pos (List.contains_iff_mem.mpr hknown)]
        rfl
      rcases h with hfew | hunknown | ⟨hlocal, hanyway⟩
      · exact absurd hfew (Nat.not_le_of_lt hlong)
      · exact absurd hunknown hknown
      · obtain ⟨st, o', hrun, h0⟩ := (l3RemoteRouteAction_refused hlong).mpr hanyway
        refine ⟨st, o', ?_, h0⟩
        rw [l3RouteAction_remote hknown (by rintro h; rw [h] at hlong; cases hlong)]
        exact require_bind.mpr ⟨decide_eq_true hlocal, hrun⟩

end

end NextHops

/-! ## Next hops that are deleted -/

section

attribute [local instance] sampleOvs sampleBuild

/-- One next hop too many is written behind the array when next hops are deleted. -/
theorem l3RouteAction_overflows :
    ¬NextHops.Safe .deleteNh ⟨"10.1.0.0/16", List.replicate 65 (.ipaddr "10.0.0.1")⟩
      (.new .vrf 0 samplePorts .reset) := by
  intro h
  have hbelow := h.sxNextHops 64 (by decide)
  exact absurd hbelow (by decide)

end

end SwitchdSai
