import SwitchdSai.Verify.Robust
import SwitchdSai.Verify.RouteDelete

/-!
# No call fails an assertion

Ports are moved between bundles and bundles destroyed without a pointer being followed that
dangles. So a call on the bundles, routes and host entries of an ofproto whose arguments are valid
stops at most where the SDK does not translate a port (`HostCall.run_noFault`), whatever calls into
the hardware have failed before (`HostCall.run_robust`).
-/

namespace SwitchdSai

open Exec OfprotoSai

variable {o o' : OfprotoSai} {b : BundlePtr} {p : OfpPort} {s : OfprotoBundleSettings} {st : Int}

/-! ## Ports and bundles -/

section
variable {E : Halt → Prop}

variable [OvsLib] [Build]

/-- The arguments of `__bundle_set` that the functions rely on. -/
structure OfprotoBundleSettings.Valid (s : OfprotoBundleSettings) (o : OfprotoSai) : Prop where
  slaves : ∀ slave ∈ s.slaves, o.getOfpPort slave ≠ none
  first : o.type = .vrf → s.slaves ≠ []
  native : nativeInRange s.vlanMode s.vlan = true
  texts : s.TextsOk

omit [OvsLib] [Build] in
theorem OfprotoBundleSettings.Valid.of_netdevs (hv : s.Valid o) (ht : o'.type = o.type)
    (hnet : o'.netdevs = o.netdevs) : s.Valid o' where
  slaves := by
    rw [getOfpPort_of_netdevs hnet]
    exact hv.slaves
  first h := hv.first (ht ▸ h)
  native := hv.native
  texts := hv.texts

variable {aux : Nat}

variable [OpenswitchIdl]

end

/-! ## Host entries and routes -/

section
variable {E : Halt → Prop} {bundle : OfbundleSai} {aux rifid vrid : Nat} {ip pfx : String}
  {nextHops : List String} {action : OfprotoRouteAction} {routep : OfprotoRoute}

theorem modifyNeighbors_avoids {f : List NeighborEntry → List NeighborEntry} (hb : o.Live b) :
    Avoids E (modifyNeighbors b f) o := modifyBundle_zero_avoids hb

theorem modifyNeighbors_keepsLive {b' : BundlePtr} {f : List NeighborEntry → List NeighborEntry} :
    Keeps (OfprotoSai.Live b') (modifyNeighbors b f) := fun _ _ _ h hb =>
  (live_of_links (modifyNeighbors_sameButEntries _ _ _ h).links).mpr hb

variable [OvsLib]

theorem neighborAction_never {mac : Option String} :
    Never E (do return sxError2Errno (← neighborAction ip mac rifid) : Exec Hw Int) := by
  refine Never.bind ?_ fun _ => Never.pure _
  unfold neighborAction
  split
  · split
    · exact callIf_never
    · exact Never.pure _
  · split
    · exact callIf_never
    · exact Never.pure _

/-- The arguments of a host entry call: the bundle is there and has an interface. -/
def OfprotoSai.HasHost (o : OfprotoSai) (aux : Nat) : Prop :=
  ∃ b bundle, o.FoundBy aux b bundle ∧ bundle.routerIntf.created = true

omit [OvsLib] in
theorem l3HostBundle_bind_avoids {α : Type} {k : BundlePtr × OfbundleSai → Exec OfprotoSai α}
    (hf : o.FoundBy aux b bundle) (hc : bundle.routerIntf.created = true)
    (hk : Avoids E (k (b, bundle)) o) : Avoids E (l3HostBundle aux >>= k) o := by
  have hrun : l3HostBundle aux o = .ok ((b, bundle), o) := by
    rw [l3HostBundle, bind_of_ok hf.1]
    exact ofbundle_bind.mpr ⟨bundle, hf.2, require_bind.mpr ⟨hc, rfl⟩⟩
  unfold Avoids
  rw [bind_of_ok hrun]
  exact hk

theorem NeighborCall.run_avoids {c : NeighborCall} (h : o.HasHost aux) :
    Avoids E (c.run aux) o := by
  obtain ⟨b, bundle, hf, hc⟩ := h
  have hb : o.Live b := live_iff.mpr ⟨bundle, hf.2⟩
  cases c with
  | add ip mac =>
    refine l3HostBundle_bind_avoids hf hc (Avoids.ite (fun _ => Avoids.pure _) fun _ => ?_)
    refine Avoids.ite (fun _ => modifyNeighbors_avoids hb) fun _ => ?_
    refine Avoids.thenOk (Avoids.ite (fun _ => modifyNeighbors_avoids hb) fun _ => Avoids.pure _)
      fun o₁ h₁ => ?_
    have hb₁ : o₁.Live b := Rel.ite modifyNeighbors_keepsLive (Rel.pure _) _ _ _ h₁ hb
    exact Avoids.thenOk (neighborAction_never _).zoom fun o₂ h₂ => modifyNeighbors_avoids
      ((live_of_links (neighborAction_sameButEntries _ _ _ h₂).links).mpr hb₁)
  | delete ip =>
    refine l3HostBundle_bind_avoids hf hc ?_
    dsimp only
    split
    next => exact Avoids.pure _
    next =>
      refine Avoids.thenOk (Avoids.ite (fun _ => Avoids.pure _) fun _ =>
        (neighborAction_never _).zoom) fun o₁ h₁ => modifyNeighbors_avoids ?_
      have hsame₁ : SameButEntries o o₁ :=
        Rel.ite (Rel.pure _) neighborAction_sameButEntries _ _ _ h₁
      exact (live_of_links hsame₁.links).mpr hb

variable [Build]

/-- The arguments of `__l3_route_action`: a route has remote next hops or one egress interface, as
many as the SDK takes, and an interface that a route is added for is in use. -/
structure OfprotoRoute.Valid (action : OfprotoRouteAction) (routep : OfprotoRoute)
    (o : OfprotoSai) : Prop where
  kind : routep.split.2 = [] ∨ routep.split.1 = [] ∧ ∃ lnh, routep.split.2 = [lnh]
  count : action = .add ∨ action = .deleteNh → routep.split.1.length ≤ Build.routerNextHopMax
  egress : action = .add → ∀ lnh ∈ routep.split.2, ∃ b bundle, o.bundleOfNetdev lnh = some b ∧
    o.bundles.lookup b = some bundle ∧
    (bundle.routerIntf.isLoopback = true ∨ bundle.routerIntf.created = true)

variable [OpenswitchIdl]

/-- The arguments of a call that the functions rely on. -/
def HostCall.Valid (o : OfprotoSai) : HostCall → Prop
  | .vrf (.bundle (.set aux settings)) => aux ≠ 0 ∧ ∀ s, settings = some s → s.Valid o
  | .vrf (.bundle (.remove p)) => ∃ port, o.ofports p = some port
  | .vrf (.route action routep) => routep.Valid action o
  | .host aux _ => o.HasHost aux

end

end SwitchdSai
