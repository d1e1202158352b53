import SwitchdSai.Lib.Run
import SwitchdSai.Verify.LocalRoutes

/-!
# Deleted routes

`__l3_route_action` chooses how to delete a route by the next hops of the record it is given, not by
what is installed. Without next hops it does nothing, and with a local one it trusts the records of
the bundle that has the port of this name now. A deletion that reports success has deleted the route
exactly if it asks the hardware, or if there was nothing to delete (`routeDeleted_iff`).
-/

namespace SwitchdSai

open Exec OfprotoSai

/-- The next hops are all remote, or there is one and it is local. -/
def OfprotoRoute.Uniform (routep : OfprotoRoute) : Prop :=
  (∃ ids : List String, routep.nexthops = ids.map .ipaddr) ∨ ∃ id, routep.nexthops = [.port id]

/-- The first bundle with a port of this name, in the order in which the table is walked next. -/
def OfprotoSai.bundleOfNetdev (o : OfprotoSai) (name : String) : Option BundlePtr :=
  ((walk (o.hw.choices.headD 0) (o.bundles.entries.map fun e => (e.1, e.2))).find? fun e =>
    e.2.ports.any fun p => (o.ofports p).any (·.netdev.name = name)).map (·.1)

/-- What a deletion needs to ask the hardware: a remote next hop, or a local one through a bundle
that is no loopback and has recorded the prefix. -/
inductive OfprotoRoute.Asks (o : OfprotoSai) (routep : OfprotoRoute) : Prop
  | remote {id : String} : .ipaddr id ∈ routep.nexthops → Asks o routep
  | local {name : String} {b : BundlePtr} {bundle : OfbundleSai} :
      routep.nexthops = [.port name] → o.bundleOfNetdev name = some b →
      o.bundles.lookup b = some bundle → bundle.routerIntf.isLoopback = false →
      routep.pfx ∈ bundle.localRoutes → Asks o routep

theorem ofbundleLookupByNetdevName_run {o : OfprotoSai} {name : String} :
    ofbundleLookupByNetdevName name o = .ok (o.bundleOfNetdev name,
      { o with hw := { o.hw with choices := o.hw.choices.tail } }) := rfl

section
variable [OvsLib]

/-- The virtual router has no remote and no local route for the prefix. -/
def OfprotoSai.NoRoute (o : OfprotoSai) (str : String) : Prop :=
  ∀ pfx, opsSaiCommonIpPrefixToSxIpPrefix str = some pfx →
    o.hw.routes o.vrid pfx = none ∨ o.hw.routes o.vrid pfx = some .ip2me

/-- The route of one prefix is gone, and every other route is as it was. -/
structure RouteGone (o o' : OfprotoSai) (str : String) : Prop where
  gone : o'.NoRoute str
  others : ∀ vrid pfx, (vrid = o.vrid → opsSaiCommonIpPrefixToSxIpPrefix str ≠ some pfx) →
    o'.hw.routes vrid pfx = o.hw.routes vrid pfx

variable {o o' : OfprotoSai} {st : Int} {routep : OfprotoRoute}

theorem OfprotoSai.NoRoute.of_routes {str : String} (h : o.NoRoute str) (hvrid : o'.vrid = o.vrid)
    (hroutes : o'.hw.routes = o.hw.routes) : o'.NoRoute str := by
  intro pfx hpfx
  rw [hvrid, hroutes]
  exact h pfx hpfx

variable [Build]

/-- What is left when the hardware was asked and took it. -/
theorem opsSaiRouteRemove_gone {hw hw' : Hw} {str : String} (hroutes : hw.routes = o.hw.routes)
    (h : opsSaiRouteRemove o.vrid str hw = .ok (0, hw')) (hvrid : o'.vrid = o.vrid)
    (hroutes' : o'.hw.routes = hw'.routes) : RouteGone o o' str := by
  obtain ⟨pfx, hpfx, rfl⟩ := opsSaiRouteRemove_ok h
  have hset : ∀ vrid pfx', o'.hw.routes vrid pfx' =
      if vrid = o.vrid ∧ pfx' = pfx then none else o.hw.routes vrid pfx' := by
    intro vrid pfx'
    rw [hroutes', Hw.setRoute_routes, ← hroutes]
    rfl
  refine ⟨fun pfx' hpfx' => .inl ?_, fun vrid pfx' hne => ?_⟩
  · obtain rfl : pfx = pfx' := Option.some.inj (hpfx.symm.trans hpfx')
    rw [hset, if_pos ⟨hvrid, rfl⟩]
  · rw [hset, if_neg]
    rintro ⟨hv, rfl⟩
    exact hne hv hpfx

/-! ## One deletion -/

omit [OvsLib] [Build] in
theorem split_remote (pfx : String) (ids : List String) :
    OfprotoRoute.split ⟨pfx, ids.map .ipaddr⟩ = (ids, []) := by
  simp [OfprotoRoute.split, List.filterMap_map]

/-- A deletion with remote next hops is one call of the hardware. -/
theorem l3RouteAction_remote {action : OfprotoRouteAction} (pfx id : String) (ids : List String) :
    l3RouteAction action ⟨pfx, (id :: ids).map .ipaddr⟩ =
      l3RemoteRouteAction action pfx (id :: ids) := by
  have hknown : (List.map OfprotoRouteNexthop.ipaddr (id :: ids)).contains .unknown = false := by
    simp
  unfold l3RouteAction
  simp only [hknown, split_remote]
  rfl

/-- A deletion asks the hardware, or it reports success and leaves the routes as they are. -/
theorem l3RouteAction_delete (hform : routep.Uniform)
    (h : l3RouteAction .delete routep o = .ok (st, o')) :
    (routep.Asks o ∧ (st = 0 → RouteGone o o' routep.pfx)) ∨
      (¬routep.Asks o ∧ st = 0 ∧ o'.vrid = o.vrid ∧ o'.hw.routes = o.hw.routes) := by
  obtain ⟨pfx, nexthops⟩ := routep
  rcases hform with ⟨ids, hids⟩ | ⟨name, hname⟩
  · obtain rfl : nexthops = ids.map .ipaddr := hids
    cases ids with
    | nil =>
      cases h
      refine .inr ⟨?_, rfl, rfl, rfl⟩
      rintro (h | ⟨h, -⟩) <;> cases h
    | cons id ids =>
      rw [l3RouteAction_remote] at h
      obtain ⟨hw, hremove, rfl⟩ := onHw_ok.mp h
      have hmem : .ipaddr id ∈ (id :: ids).map OfprotoRouteNexthop.ipaddr := List.mem_cons_self ..
      refine .inl ⟨.remote hmem, ?_⟩
      rintro rfl
      exact opsSaiRouteRemove_gone rfl hremove rfl rfl
  · obtain rfl : nexthops = [.port name] := hname
    have h : l3LocalRouteAction .delete pfx name o = .ok (st, o') := h
    unfold l3LocalRouteAction at h
    rw [bind_of_ok ofbundleLookupByNetdevName_run] at h
    -- the lookup has taken one choice, which no table depends on
    generalize ho₁ : { o with hw := { o.hw with choices := o.hw.choices.tail } } = o₁ at h
    have hvrid : o₁.vrid = o.vrid := by subst ho₁; rfl
    have hroutes : o₁.hw.routes = o.hw.routes := by subst ho₁; rfl
    have hbundles : o₁.bundles = o.bundles := by subst ho₁; rfl
    have hasks : OfprotoRoute.Asks o ⟨pfx, [.port name]⟩ ↔ ∃ b bundle,
        o.bundleOfNetdev name = some b ∧ o.bundles.lookup b = some bundle ∧
          bundle.routerIntf.isLoopback = false ∧ pfx ∈ bundle.localRoutes := by
      constructor
      · rintro (hmem | ⟨hname, hb⟩)
        · simp at hmem
        · cases hname
          exact ⟨_, _, hb, by assumption, by assumption, by assumption⟩
      · rintro ⟨b, bundle, hfound, hb, hloop, hmem⟩
        exact .local rfl hfound hb hloop hmem
    rw [hasks]
    cases hfound : o.bundleOfNetdev name with
    | none =>
      rw [hfound] at h
      cases h
      exact .inr ⟨by simp, rfl, hvrid, hroutes⟩
    | some b =>
      rw [hfound] at h
      obtain ⟨bundle, hb, h⟩ := ofbundle_bind.mp h
      rw [hbundles] at hb
      split at h
      next hloop =>
        cases h
        refine .inr ⟨?_, rfl, hvrid, hroutes⟩
        rintro ⟨b₁, bundle₁, hb₁, hbundle₁, hloop₁, -⟩
        cases hb₁
        cases hb.symm.trans hbundle₁
        exact absurd hloop (by simp [hloop₁])
      next hloop =>
        obtain ⟨bundle₁, hb₁, h⟩ := ofbundle_bind.mp h
        rw [hbundles] at hb₁
        cases hb.symm.trans hb₁
        rw [gets_bind] at h
        split at h
        next hmem =>
          refine .inl ⟨⟨b, bundle, rfl, hb, by simpa using hloop, by simpa using hmem⟩, ?_⟩
          rintro rfl
          obtain ⟨o₂, hcall, hend⟩ := thenOk_zero.mp h
          obtain ⟨hw, hremove, rfl⟩ := onHw_ok.mp hcall
          obtain ⟨_, _, hend⟩ := modifyBundle_bind.mp hend
          cases hend
          exact opsSaiRouteRemove_gone hroutes (hvrid ▸ hremove) hvrid rfl
        next hmem =>
          cases h
          refine .inr ⟨?_, rfl, hvrid, hroutes⟩
          rintro ⟨b₁, bundle₁, hb₁, hbundle₁, -, hmem₁⟩
          cases hb₁
          cases hb.symm.trans hbundle₁
          exact absurd hmem₁ (by simpa using hmem)

/-! ## Runs -/

variable [OpenswitchIdl]

/-- A deletion that reports success has deleted the route. -/
def RouteDeleted (e : Event OfprotoSai VrfCall Int) : Prop :=
  ∀ routep, e.call = .route .delete routep → routep.Uniform → e.result = 0 →
    RouteGone e.before e.after routep.pfx

/-- A deletion asks the hardware, unless there is nothing to delete. -/
def DeletionAsks (e : Event OfprotoSai VrfCall Int) : Prop :=
  ∀ routep, e.call = .route .delete routep → routep.Uniform →
    routep.Asks e.before ∨ e.before.NoRoute routep.pfx

/-- **A deletion that reports success has deleted the route**, in every run of bundle and route
calls, exactly if every deletion of the run asks the hardware or has nothing to delete. -/
theorem routeDeleted_iff {o₀ : OfprotoSai} {es : List (Event OfprotoSai VrfCall Int)}
    (H : Trace VrfCall.run o₀ es o) :
    (∀ e ∈ es, RouteDeleted e) ↔ ∀ e ∈ es, DeletionAsks e := by
  refine forall₂_congr fun e he => forall₃_congr fun routep hc hform => ?_
  have hrun := H.of_mem he
  rw [hc] at hrun
  rcases l3RouteAction_delete hform hrun with ⟨hasks, hgone⟩ | ⟨hnot, h0, hvrid, hroutes⟩
  · exact iff_of_true hgone (.inl hasks)
  · -- nothing was done, so there was nothing to do
    constructor
    · intro hgone
      exact .inr ((hgone h0).gone.of_routes hvrid.symm hroutes.symm)
    · rintro (hasks | hnone) _
      · exact absurd hasks hnot
      · exact ⟨hnone.of_routes hvrid hroutes, fun vrid pfx _ => by rw [hroutes]⟩

end

section
attribute [local instance] sampleOvs sampleBuild sampleIdl

/-- A local route is added and deleted through the port 1. -/
theorem routeDeleted_iff_local : ∃ (o : OfprotoSai) (es : List (Event OfprotoSai VrfCall Int)),
    Trace VrfCall.run (.new .vrf 0 samplePorts .reset) es o ∧ (∀ e ∈ es, RouteDeleted e) ∧
      ∃ e ∈ es, e.call = .route .delete ⟨"10.1.0.0/16", [.port "1"]⟩ ∧ e.result = 0 ∧
        e.before.hw.routes 0 samplePrefix = some (.local 0) ∧
        e.after.hw.routes 0 samplePrefix = none := by
  obtain ⟨o₃, hrun⟩ := result_eq_some.mp (show result (do
    let _ ← VrfCall.run (.bundle (.set 1 (some (accessSettings 2))))
    let _ ← VrfCall.run (.route .add ⟨"10.1.0.0/16", [.port "1"]⟩)
    let r ← gets fun o => decide (o.hw.routes 0 samplePrefix = some (.local 0) ∧
      o.bundleOfNetdev "1" = some 0 ∧
      (o.bundles.lookup 0).map (fun bundle => (bundle.routerIntf.isLoopback, bundle.localRoutes)) =
        some (false, ["10.1.0.0/16"]))
    let st ← VrfCall.run (.route .delete ⟨"10.1.0.0/16", [.port "1"]⟩)
    let r' ← gets fun o => o.hw.routes 0 samplePrefix
    pure (r, st, r')) (.new .vrf 0 samplePorts .reset) = some (true, 0, none) by decide +kernel)
  obtain ⟨st₁, o₁, h₁, hrun⟩ := bind_ok.mp hrun
  obtain ⟨st₂, o₂, h₂, hrun⟩ := bind_ok.mp hrun
  rw [gets_bind] at hrun
  obtain ⟨st₃, o₄, h₃, hend⟩ := bind_ok.mp hrun
  rw [gets_bind] at hend
  simp only [pure_apply, Except.ok.injEq, Prod.mk.injEq] at hend
  obtain ⟨⟨hr, rfl, hr'⟩, rfl⟩ := hend
  obtain ⟨hroute, hfound, hrecord⟩ := of_decide_eq_true hr
  obtain ⟨bundle, hb, hbundle⟩ := Option.map_eq_some_iff.mp hrecord
  simp only [Prod.mk.injEq] at hbundle
  have hmem : "10.1.0.0/16" ∈ bundle.localRoutes := hbundle.2 ▸ List.mem_singleton_self _
  have H : Trace VrfCall.run (.new .vrf 0 samplePorts .reset) _ o₄ :=
    .snoc (.snoc (.snoc .nil h₁) h₂) h₃
  refine ⟨o₄, _, H, (routeDeleted_iff H).mpr ?_, _, List.mem_cons_self .., rfl, rfl, hroute, hr'⟩
  simp only [List.forall_mem_cons]
  refine ⟨fun routep hc _ => ?_, fun routep hc => ?_, fun routep hc => ?_, fun _ he => by cases he⟩
  · cases hc
    exact .inl (.local rfl hfound hb hbundle.1 hmem)
  · cases hc
  · cases hc

/-- The port 1 has left the bundle 0 with its route, by a bundle of two ports that is refused. The
deletion through port 1 looks at the records of the bundle 1, and the one without next hops at none.
Both report success, and the route of the bundle 0 stays. -/
theorem routeDeleted_moved :
    ∃ (o : OfprotoSai) (es : List (Event OfprotoSai VrfCall Int))
      (e₁ e₂ : Event OfprotoSai VrfCall Int),
      Hw.reset.Willing ∧ Trace VrfCall.run (.new .vrf 0 samplePorts .reset) es o ∧
      e₁ ∈ es ∧ e₁.call = .route .delete ⟨"10.1.0.0/16", [.port "1"]⟩ ∧
      e₁.result = 0 ∧ ¬RouteDeleted e₁ ∧
      e₂ ∈ es ∧ e₂.call = .route .delete ⟨"10.1.0.0/16", []⟩ ∧ e₂.result = 0 ∧ ¬RouteDeleted e₂ ∧
      o.rif 0 = some 0 ∧ o.hw.routes 0 samplePrefix = some (.local 0) := by
  obtain ⟨o, hrun⟩ := result_eq_some.mp (show result (do
    let _ ← VrfCall.run (.bundle (.set 1 (some (accessSettings 2))))
    let _ ← VrfCall.run (.route .add ⟨"10.1.0.0/16", [.port "1"]⟩)
    let _ ← VrfCall.run (.bundle (.set 1 (some { accessSettings 2 with slaves := [1, 2] })))
    let _ ← VrfCall.run (.bundle (.set 2 (some (accessSettings 2))))
    let st ← VrfCall.run (.route .delete ⟨"10.1.0.0/16", [.port "1"]⟩)
    let r ← gets fun o => decide (o.vrid = 0 ∧ o.hw.routes 0 samplePrefix = some (.local 0))
    let st' ← VrfCall.run (.route .delete ⟨"10.1.0.0/16", []⟩)
    let r' ← gets fun o => decide (o.vrid = 0 ∧ o.rif 0 = some 0 ∧
      o.hw.routes 0 samplePrefix = some (.local 0))
    pure (st, r, st', r')) (.new .vrf 0 samplePorts .reset) = some (0, true, 0, true) by
      decide +kernel)
  obtain ⟨st₁, o₁, h₁, hrun⟩ := bind_ok.mp hrun
  obtain ⟨st₂, o₂, h₂, hrun⟩ := bind_ok.mp hrun
  obtain ⟨st₃, o₃, h₃, hrun⟩ := bind_ok.mp hrun
  obtain ⟨st₄, o₄, h₄, hrun⟩ := bind_ok.mp hrun
  obtain ⟨st₅, o₅, h₅, hrun⟩ := bind_ok.mp hrun
  rw [gets_bind] at hrun
  obtain ⟨st₆, o₆, h₆, hend⟩ := bind_ok.mp hrun
  rw [gets_bind] at hend
  simp only [pure_apply, Except.ok.injEq, Prod.mk.injEq] at hend
  obtain ⟨⟨rfl, hr₁, rfl, hr₂⟩, rfl⟩ := hend
  obtain ⟨hvrid₁, hroute₁⟩ := of_decide_eq_true hr₁
  obtain ⟨hvrid₂, hrif, hroute₂⟩ := of_decide_eq_true hr₂
  have hstays : ∀ {o : OfprotoSai}, o.vrid = 0 → o.hw.routes 0 samplePrefix = some (.local 0) →
      ¬o.NoRoute "10.1.0.0/16" := by
    intro o hvrid hroute hnone
    have h := hnone samplePrefix (by decide)
    rw [hvrid, hroute] at h
    simp at h
  have H : Trace VrfCall.run (.new .vrf 0 samplePorts .reset) _ o₆ :=
    .snoc (.snoc (.snoc (.snoc (.snoc (.snoc .nil h₁) h₂) h₃) h₄) h₅) h₆
  refine ⟨o₆, _, _, _, rfl, H, List.mem_cons_of_mem _ (List.mem_cons_self ..), rfl, rfl,
    fun h => ?_, List.mem_cons_self .., rfl, rfl, fun h => ?_, hrif, hroute₂⟩
  · exact hstays hvrid₁ hroute₁ (h _ rfl (.inr ⟨_, rfl⟩) rfl).gone
  · exact hstays hvrid₂ hroute₂ (h _ rfl (.inl ⟨[], rfl⟩) rfl).gone

end

end SwitchdSai
