import SwitchdSai.Verify.Destroy
import SwitchdSai.Verify.RifsFound

/-!
# No router interface is lost

A bundle keeps the record of its interface until the hardware has removed it, so that an interface
is lost only when its bundle is destroyed while the removal fails. When every call into the hardware
succeeds, the removal fails only for a recorded local route that has gone by another way
(`LocalsRemovable`). The interfaces of other ofprotos are recorded in the same table: `F` stands for
them.
-/

namespace SwitchdSai

open Exec OfprotoSai

variable {o o' : OfprotoSai} {b b' : BundlePtr} {p : OfpPort} {bundle : OfbundleSai}
  {s : OfprotoBundleSettings} {st : Int} {F : Nat → Prop}

/-! ## Recorded interfaces have an owner -/

/-- Every recorded interface is that of a bundle or one of `F`. -/
def Accounted (F : Nat → Prop) (o : OfprotoSai) : Prop :=
  ∀ e ∈ o.hw.allRouterIntf, F e.rifId ∨ ∃ b, o.rif b = some e.rifId

theorem RifsSame.accounted (h : RifsSame o o') (hA : Accounted F o) : Accounted F o' := by
  unfold Accounted
  rw [h.hw.1, h.rif]
  exact hA

/-- A bundle that has no interface gets one. -/
theorem routerIntfCreate_accounted {rifType : RouterIntfType} {handle : Nat}
    (hnone : o.rif b = none) (hA : Accounted F o)
    (h : routerIntfCreate b rifType handle o = .ok (st, o')) : Accounted F o' := by
  rcases routerIntfCreate_rifs h with hsame | ⟨e, -, -, -, hentries, hrif⟩
  · exact hsame.accounted hA
  intro e' he'
  rw [hentries] at he'
  rcases List.mem_cons.mp he' with rfl | he'
  · exact .inr ⟨b, by rw [hrif, if_pos rfl]⟩
  · refine (hA e' he').imp_right fun ⟨b', hb'⟩ => ⟨b', ?_⟩
    rw [hrif, if_neg, hb']
    rintro rfl
    cases hnone.symm.trans hb'

/-- An erased bundle must not have an interface. -/
theorem Accounted.erase (hA : Accounted F o) (hnone : o.rif b = none) :
    Accounted F { o with bundles := o.bundles.erase b } := by
  intro e he
  refine (hA e he).imp_right fun ⟨b', hb'⟩ => ⟨b', ?_⟩
  rw [erase_rif, if_neg, hb']
  rintro rfl
  cases hnone.symm.trans hb'

section
variable [OvsLib] [Build]

theorem ofbundleRouterIntfRemove_accounted (hok : RifsFound o) (hA : Accounted F o)
    (h : ofbundleRouterIntfRemove b o = .ok (st, o')) : Accounted F o' := by
  rcases ofbundleRouterIntfRemove_entries h with ⟨hsame, -⟩ | ⟨rif, hb, -, hentries, hrif⟩
  · exact hsame.accounted hA
  intro e he
  rw [hentries, List.mem_eraseP_key hok.recorded.rifIds] at he
  refine (hA e he.1).imp_right fun ⟨b', hb'⟩ => ⟨b', ?_⟩
  rw [hrif, if_neg, hb']
  rintro rfl
  exact he.2 (Option.some.inj (hb'.symm.trans hb))

theorem routerIntfApply_accounted {rifType : RouterIntfType} {handle : Nat} {enable : Bool}
    (hok : RifsFound o) (hA : Accounted F o)
    (h : routerIntfApply b rifType handle enable o = .ok (st, o')) : Accounted F o' := by
  obtain ⟨bundle, -, h⟩ := ofbundle_bind.mp h
  have hremove : ∀ {st o'}, (if bundle.routerIntf.created && bundle.routerIntf.handle != handle then
      ofbundleRouterIntfRemove b else pure 0) o = .ok (st, o') → Accounted F o' := by
    intro st o' h
    split at h
    next => exact ofbundleRouterIntfRemove_accounted hok hA h
    next =>
      cases h
      exact hA
  rcases thenOk_ok.mp h with ⟨hfail, -⟩ | ⟨o₁, h₁, h⟩
  · exact hremove hfail
  have hA₁ := hremove h₁
  obtain ⟨bundle₁, hb₁, h⟩ := ofbundle_bind.mp h
  have hcreate : ∀ {st o'}, (if bundle₁.routerIntf.created then pure 0
      else routerIntfCreate b rifType handle) o₁ = .ok (st, o') → Accounted F o' := by
    intro st o' h
    split at h
    next =>
      cases h
      exact hA₁
    next hc =>
      refine routerIntfCreate_accounted ?_ hA₁ h
      rw [rif_of_lookup hb₁, OfbundleSai.rif, if_neg hc]
  rcases thenOk_ok.mp h with ⟨hfail, -⟩ | ⟨o₂, h₂, h⟩
  · exact hcreate hfail
  · exact (routerIntfEnable_rifsSame _ _ _ h).accounted (hcreate h₂)

theorem ofbundleRouterIntfReconfigure_accounted (hok : RifsFound o) (hA : Accounted F o)
    (h : ofbundleRouterIntfReconfigure b s o = .ok (st, o')) : Accounted F o' := by
  obtain ⟨-, slave, -, ⟨-, -, rfl⟩ | ⟨port, -, hport⟩⟩ := ofbundleRouterIntfReconfigure_cases h
  · exact hA
  rcases hport with ⟨-, -, rfl⟩ | ⟨-, -, bundle, hb, rfl⟩ | ⟨rifType, handle, -, happly⟩
  · exact hA
  · have hsame : RifsSame o (o.setBundle b { bundle with
        routerIntf := { bundle.routerIntf with isLoopback := true } }) :=
      ⟨refl_of Hw.RifsSame o.hw, rif_congr (setBundle_bundlesBy hb rfl)⟩
    exact hsame.accounted hA
  · exact routerIntfApply_accounted hok hA happly

end

/-! ## The routes that a bundle gives up -/

section
variable [OvsLib]

/-- The prefixes of the recorded local routes. -/
def OfbundleSai.localPrefixes (bundle : OfbundleSai) : List (Option SxIpPrefix) :=
  bundle.localRoutes.map opsSaiCommonIpPrefixToSxIpPrefix

theorem mem_removedHosts {x : Option SxIpPrefix} : x ∈ bundle.removedHosts ↔ ∃ v,
    (∃ ip, bundle.primary v = some ip ∧ ipHostRoute ip v = x) ∨
      ∃ ip ∈ bundle.secondary v, ipHostRoute ip v = x := by
  simp only [OfbundleSai.removedHosts, List.mem_append, List.mem_map, Option.mem_toList,
    Bool.exists_bool]
  rw [← or_assoc, or_or_or_comm]

variable [Build]

/-- Removing the host route of an address changes no other route. -/
theorem ofprotoIpRemove_routeAt {ip : String} {isIpv6 : Bool}
    (h : ofprotoIpRemove ip isIpv6 o = .ok (st, o')) : o'.bundles = o.bundles ∧
      ∀ x, x ≠ ipHostRoute ip isIpv6 → o'.routeAt x = o.routeAt x := by
  obtain ⟨pfx, o₁, hprefix, hrun⟩ := bind_ok.mp h
  obtain ⟨rfl, rfl⟩ := ofprotoIpPrefix_ok hprefix
  rw [gets_bind] at hrun
  obtain ⟨hw, hremove, rfl⟩ := onHw_ok.mp hrun
  refine ⟨rfl, fun x hx => ?_⟩
  by_cases h0 : st = 0
  · subst h0
    obtain ⟨sxPrefix, hpfx, rfl⟩ := opsSaiRouteRemove_ok hremove
    cases x with
    | none => rfl
    | some y =>
      refine (Hw.setRoute_routes ..).trans (if_neg ?_)
      rintro ⟨-, rfl⟩
      exact hx hpfx.symm
  · have hroutes := opsSaiRouteRemove_failed hremove h0
    unfold OfprotoSai.routeAt
    rw [hroutes]

/-- While the addresses of the bundle `b` are given up: no further one has been recorded, and the
route for `x` is as it was. -/
structure HostsGiven (b : BundlePtr) (hosts : List (Option SxIpPrefix)) (x : Option SxIpPrefix)
    (route : Option HwRoute) (o : OfprotoSai) : Prop where
  hosts : ∀ bundle, o.bundles.lookup b = some bundle → bundle.removedHosts ⊆ hosts
  kept : o.routeAt x = route

section
variable {hosts : List (Option SxIpPrefix)} {x : Option SxIpPrefix} {route : Option HwRoute}
  {isIpv6 : Bool} {ip : String} (hx : x ∉ hosts)
include hx

theorem ofprotoIpRemove_given (hip : ipHostRoute ip isIpv6 ∈ hosts) :
    Keeps (HostsGiven b hosts x route) (ofprotoIpRemove ip isIpv6) := by
  rintro o st o' h ⟨hsub, hkept⟩
  obtain ⟨hbundles, hroutes⟩ := ofprotoIpRemove_routeAt h
  refine ⟨hbundles ▸ hsub, (hroutes x ?_).trans hkept⟩
  rintro rfl
  exact hx hip

theorem ipPrimaryRemove_given : Keeps (HostsGiven b hosts x route) (ipPrimaryRemove b isIpv6) := by
  intro o st o' h hI
  obtain ⟨bundle, hb, h⟩ := ofbundle_bind.mp h
  cases hip : bundle.primary isIpv6 with
  | none =>
    rw [hip] at h
    cases h
    exact hI
  | some ip =>
    rw [hip] at h
    refine ofprotoIpRemove_given hx (hI.hosts bundle hb ?_) _ _ _ h hI
    exact mem_removedHosts.2 ⟨isIpv6, .inl ⟨ip, hip, rfl⟩⟩

theorem ipSecondaryRemove_given (hip : ipHostRoute ip isIpv6 ∈ hosts) :
    Keeps (HostsGiven b hosts x route) (ipSecondaryRemove b isIpv6 isIpv6 ip) := by
  refine (ofprotoIpRemove_given hx hip).thenOk (Rel.bind (modifyBundle_rel fun o bundle hb hI => ?_)
    fun _ => Rel.pure _)
  refine ⟨fun bundle' hb' y hy => hI.hosts bundle hb ?_, hI.kept⟩
  rw [setBundle_lookup, if_pos rfl, Option.some.injEq] at hb'
  subst hb'
  obtain ⟨v, ⟨ip', hip', rfl⟩ | ⟨ip', hip', rfl⟩⟩ := mem_removedHosts.1 hy
  · refine mem_removedHosts.2 ⟨v, .inl ⟨ip', ?_, rfl⟩⟩
    rw [← hip']
    cases v <;> cases isIpv6 <;> rfl
  · refine mem_removedHosts.2 ⟨v, .inr ⟨ip', ?_, rfl⟩⟩
    cases v <;> cases isIpv6
    · exact List.mem_of_mem_erase hip'
    · exact hip'
    · exact hip'
    · exact List.mem_of_mem_erase hip'

theorem ipSecondaryRemoveAll_given :
    Keeps (HostsGiven b hosts x route) (ipSecondaryRemoveAll b isIpv6) := by
  intro o st o' h hI
  obtain ⟨bundle, hb, h⟩ := ofbundle_bind.mp h
  obtain ⟨ips, o₁, hwalk, h⟩ := bind_ok.mp h
  obtain ⟨hperm, cs, rfl⟩ := walkTable_ok hwalk
  refine Rel.forEach_mem (fun ip hip => ipSecondaryRemove_given hx ?_) _ _ _ h ⟨hI.hosts, hI.kept⟩
  exact hI.hosts bundle hb
    (mem_removedHosts.2 ⟨isIpv6, .inr ⟨ip, hperm.mem_iff.mp hip, rfl⟩⟩)

end

/-- Giving up the addresses of a bundle changes no route but their host routes. -/
theorem ofbundleIpRemove_routeAt (hb : o.bundles.lookup b = some bundle)
    (h : ofbundleIpRemove b o = .ok (st, o')) {x : Option SxIpPrefix}
    (hx : x ∉ bundle.removedHosts) : o'.routeAt x = o.routeAt x := by
  have hkeeps : Keeps (HostsGiven b bundle.removedHosts x (o.routeAt x)) (ofbundleIpRemove b) :=
    (ipPrimaryRemove_given hx).thenOk <| (ipPrimaryRemove_given hx).thenOk <|
    (ipSecondaryRemoveAll_given hx).thenOk (ipSecondaryRemoveAll_given hx)
  refine (hkeeps _ _ _ h ⟨fun bundle' hb' => ?_, rfl⟩).kept
  rw [Option.some.inj (hb'.symm.trans hb)]
  exact List.Subset.refl _

/-! ## Local routes that can be removed -/

omit [Build] in
/-- The local routes that bundles have recorded can be removed one by one: each has a route of its
own, which is none of the host routes that bundles give up with their addresses. -/
structure LocalsRemovable (o : OfprotoSai) : Prop where
  nodup : ∀ b bundle, o.bundles.lookup b = some bundle → bundle.localPrefixes.Nodup
  present : ∀ b bundle, o.bundles.lookup b = some bundle →
    ∀ x ∈ bundle.localPrefixes, (o.routeAt x).isSome
  apart : ∀ b b' bundle bundle', o.bundles.lookup b = some bundle →
    o.bundles.lookup b' = some bundle' → b' ≠ b →
    bundle.localPrefixes.Disjoint bundle'.localPrefixes
  hosts : ∀ b b' bundle bundle', o.bundles.lookup b = some bundle →
    o.bundles.lookup b' = some bundle' → bundle.removedHosts.Disjoint bundle'.localPrefixes

/-- What a bundle has recorded of routes. -/
def OfbundleSai.routesRecord (bundle : OfbundleSai) : List (Option SxIpPrefix) × List String :=
  (bundle.removedHosts, bundle.localRoutes)

omit [Build] in
/-- The bundles that are left have what they had. -/
theorem LocalsRemovable.shrink (hrem : LocalsRemovable o)
    (hbundles : BundlesShrink OfbundleSai.routesRecord o o')
    (hroutes : ∀ b bundle, o'.bundles.lookup b = some bundle →
      ∀ x ∈ bundle.localPrefixes, o'.routeAt x = o.routeAt x) : LocalsRemovable o' := by
  have hold : ∀ {b bundle}, o'.bundles.lookup b = some bundle → ∃ old,
      o.bundles.lookup b = some old ∧ bundle.removedHosts = old.removedHosts ∧
        bundle.localPrefixes = old.localPrefixes := by
    intro b bundle hb
    obtain ⟨old, hold, heq⟩ := hbundles.lookup hb
    simp only [OfbundleSai.routesRecord, Prod.mk.injEq] at heq
    exact ⟨old, hold, heq.1, congrArg (List.map _) heq.2⟩
  refine ⟨fun b bundle hb => ?_, fun b bundle hb x hx => ?_,
    fun b b' bundle bundle' hb hb' hne => ?_, fun b b' bundle bundle' hb hb' => ?_⟩
  · obtain ⟨old, hold, -, hlocal⟩ := hold hb
    rw [hlocal]
    exact hrem.nodup b old hold
  · obtain ⟨old, hold, -, hlocal⟩ := hold hb
    rw [hroutes b bundle hb x hx]
    exact hrem.present b old hold x (hlocal ▸ hx)
  · obtain ⟨old, hold₁, -, hlocal⟩ := hold hb
    obtain ⟨old', hold₂, -, hlocal'⟩ := hold hb'
    rw [hlocal, hlocal']
    exact hrem.apart b b' old old' hold₁ hold₂ hne
  · obtain ⟨old, hold₁, hhosts, -⟩ := hold hb
    obtain ⟨old', hold₂, -, hlocal'⟩ := hold hb'
    rw [hhosts, hlocal']
    exact hrem.hosts b b' old old' hold₁ hold₂

omit [OvsLib] [Build] in
theorem routeAt_of_l3 (hv : o'.vrid = o.vrid) (hl3 : o'.hw.l3 = o.hw.l3) :
    o'.routeAt = o.routeAt := by
  have hroutes : o'.hw.routes = o.hw.routes := congrArg Hw.L3.routes hl3
  unfold OfprotoSai.routeAt
  rw [hv, hroutes]

omit [Build] in
theorem ofbundlePortDel_removable : Keeps LocalsRemovable (ofbundlePortDel p) :=
  fun _ _ _ h hrem => hrem.shrink (ofbundlePortDel_shrink (fun _ _ => rfl) _ _ _ h) fun _ _ _ x _ =>
    congrFun (routeAt_of_l3 (ofbundlePortDel_evolves _ _ _ h).vrid (ofbundlePortDel_l3 h)) x

omit [Build] in
theorem vlanReconfigure_removable : Keeps LocalsRemovable (vlanReconfigure b s) := by
  intro o st o' h hrem
  have hsame := vlanReconfigure_sameButVlan _ _ _ h
  refine hrem.shrink (bundlesShrink_of_eq ?_) fun _ _ _ x _ =>
    congrFun (routeAt_of_l3 hsame.vrid hsame.hw.1) x
  exact bundlesBy_of (k := OfbundleSai.routesRecord) hsame.bundles fun _ => rfl

/-! ## The operations -/

/-- The invariant: the tables of router interfaces are sound, and the recorded interfaces have an
owner. -/
structure NoneLost (F : Nat → Prop) (o : OfprotoSai) : Prop where
  sound : o.RifsSound
  locals : LocalRoutesOk o
  accounted : Accounted F o

omit [Build] in
theorem NoneLost.rifsFound (h : NoneLost F o) : RifsFound o where
  recorded := ⟨fun e he => (h.sound.tables.recorded _).mpr ⟨e, he, rfl⟩, h.sound.tables.rifIds⟩
  found b rif hb := (h.sound.tables.recorded _).mp (h.locals.exists_rif b rif hb)
  distinct := h.locals.distinct

omit [Build] in
theorem ofbundlePortDel_noneLost : Keeps (NoneLost F) (ofbundlePortDel p) := fun _ _ _ h hN =>
  ⟨ofbundlePortDel_rifsSound _ _ _ h hN.sound, ofbundlePortDel_localsOk _ _ _ h hN.locals,
    (ofbundlePortDel_rifsSame _ _ _ h).accounted hN.accounted⟩

theorem ofbundleRouterIntfRemove_noneLost : Keeps (NoneLost F) (ofbundleRouterIntfRemove b) :=
  fun _ _ _ h hN => ⟨ofbundleRouterIntfRemove_rifsSound _ _ _ h hN.sound,
    ofbundleRouterIntfRemove_localsOk _ _ _ h hN.locals,
    ofbundleRouterIntfRemove_accounted hN.rifsFound hN.accounted h⟩

theorem ofbundleRouterIntfReconfigure_noneLost :
    Keeps (NoneLost F) (ofbundleRouterIntfReconfigure b s) := fun _ _ _ h hN =>
  ⟨ofbundleRouterIntfReconfigure_rifsSound _ _ _ h hN.sound,
    ofbundleRouterIntfReconfigure_localsOk _ _ _ h hN.locals,
    ofbundleRouterIntfReconfigure_accounted hN.rifsFound hN.accounted h⟩

omit [Build] in
theorem SameButIp.noneLost (h : SameButIp o o') (hN : NoneLost F o) : NoneLost F o' :=
  ⟨h.sound hN.sound, h.localsShrink.ok hN.locals, h.rifsSame.accounted hN.accounted⟩

/-- The interface of a bundle whose local routes can be removed is gone. -/
theorem ofbundleRouterIntfRemove_rif (hN : NoneLost F o) (hb : o.bundles.lookup b = some bundle)
    (hnodup : bundle.localPrefixes.Nodup)
    (hthere : ∀ x ∈ bundle.localPrefixes, (o.routeAt x).isSome)
    (h : ofbundleRouterIntfRemove b o = .ok (st, o')) :
    o'.rif b = none ∧ ∀ x, x ∉ bundle.localPrefixes → o'.routeAt x = o.routeAt x := by
  have hgone := ofbundleRouterIntfRemove_gone hN.sound hN.locals hb hnodup hthere h
  refine ⟨?_, fun x hx => hgone.routes.kept x hx⟩
  rcases ofbundleRouterIntfRemove_entries h with ⟨hsame, -⟩ | ⟨rif, -, -, -, hrif⟩
  · cases hr : o'.rif b with
    | none => rfl
    | some rif =>
      have hlocals := ofbundleRouterIntfRemove_localsOk _ _ _ h hN.locals
      rw [hsame.rif, rif_of_lookup hb] at hr
      refine absurd (hlocals.exists_rif b rif ?_) (hgone.rif.gone rif hr)
      rw [hsame.rif, rif_of_lookup hb, hr]
  · rw [hrif, if_pos rfl]

theorem ofbundleDestroy_noneLost :
    Keeps (fun o => NoneLost F o ∧ LocalsRemovable o) (ofbundleDestroy b) := by
  rintro o _ o' h ⟨hN, hrem⟩
  have hshrink := ofbundleDestroy_shrink (f := OfbundleSai.routesRecord) (fun _ _ => rfl) _ _ _ h
  obtain ⟨st₁, o₁, st₂, o₂, bundle₂, o₃, hip, hrif, hb₂, hports, rfl⟩ := ofbundleDestroy_ok h
  -- the bundle keeps its local routes while it gives up its addresses
  have hsame₁ := ofbundleIpRemove_sameButIp _ _ _ hip
  have hN₁ := hsame₁.noneLost hN
  obtain ⟨bundle₁, hb₁, -⟩ := Option.map_eq_some_iff.mp
    ((congrFun (ofbundleRouterIntfRemove_sameButRif _ _ _ hrif).bundles b).symm.trans
      (congrArg (Option.map OfbundleSai.butRif) hb₂))
  obtain ⟨bundle, hb, hbut⟩ := Option.map_eq_some_iff.mp
    ((congrFun hsame₁.bundles b).symm.trans (congrArg (Option.map OfbundleSai.butIp) hb₁))
  have hlocal : bundle₁.localRoutes = bundle.localRoutes :=
    (congrArg OfbundleSai.localRoutes hbut.symm :)
  have hlocal : bundle₁.localPrefixes = bundle.localPrefixes := congrArg (List.map _) hlocal
  have hroutes₁ : ∀ x, x ∉ bundle.removedHosts → o₁.routeAt x = o.routeAt x := fun x =>
    ofbundleIpRemove_routeAt hb hip
  obtain ⟨hnone, hroutes₂⟩ := ofbundleRouterIntfRemove_rif hN₁ hb₁
    (hlocal ▸ hrem.nodup b bundle hb) (fun x hx => by
      rw [hlocal] at hx
      rw [hroutes₁ x fun hx' => hrem.hosts b b bundle bundle hb hb hx' hx]
      exact hrem.present b bundle hb x hx) hrif
  have hN₂ := ofbundleRouterIntfRemove_noneLost _ _ _ hrif hN₁
  -- its ports leave
  have hkeeps : Keeps (NoneLost F) (forAll bundle₂.ports fun p => do
      let _ ← ofbundlePortDel p
      pure ()) := Rel.forAll fun _ => Rel.bind ofbundlePortDel_noneLost fun _ => Rel.pure _
  have hframe : Frame (fun o => (o.rif, o.routeAt)) (forAll bundle₂.ports fun p => do
      let _ ← ofbundlePortDel p
      pure ()) := Rel.forAll fun _ => Rel.bind (fun _ _ _ h =>
    Prod.ext (ofbundlePortDel_rifsSame _ _ _ h).rif
      (routeAt_of_l3 (ofbundlePortDel_evolves _ _ _ h).vrid (ofbundlePortDel_l3 h)))
    fun _ => Rel.pure _
  have hframe := hframe _ _ _ hports
  simp only [Prod.mk.injEq] at hframe
  have hN₃ := hkeeps _ _ _ hports hN₂
  refine ⟨⟨hN₃.sound, erase_localsShrink.ok hN₃.locals, hN₃.accounted.erase ?_⟩,
    hrem.shrink hshrink fun b' bundle' hb' x hx => ?_⟩
  · rw [hframe.1, hnone]
  · obtain ⟨old, hold, heq⟩ := hshrink.lookup hb'
    have hne : b' ≠ b := by
      rintro rfl
      rw [lookup_erase, if_pos rfl] at hb'
      cases hb'
    have hx' : x ∈ old.localPrefixes := by
      simp only [OfbundleSai.routesRecord, Prod.mk.injEq] at heq
      rw [OfbundleSai.localPrefixes, ← heq.2]
      exact hx
    have h₁ := hroutes₁ x fun h => hrem.hosts b b' bundle old hb hold h hx'
    have h₂ := hroutes₂ x fun h => hrem.apart b b' bundle old hb hold hne (hlocal ▸ h) hx'
    exact (congrFun hframe.2 x).trans (h₂.trans h₁)

theorem bundleRemove_noneLost :
    Keeps (fun o => NoneLost F o ∧ LocalsRemovable o) (bundleRemove p) :=
  bundleRemove_rel (fun _ _ _ _ h hI => ⟨ofbundlePortDel_noneLost _ _ _ h hI.1,
    ofbundlePortDel_removable _ _ _ h hI.2⟩) fun _ => ofbundleDestroy_noneLost

theorem ofbundlePortAdd_noneLost {sPort : Option OfpPort} :
    Keeps (fun o => NoneLost F o ∧ LocalsRemovable o) (ofbundlePortAdd b sPort) := by
  intro o st o' h hI
  have hsound := ofbundlePortAdd_rifsSound _ _ _ h hI.1.sound
  have hlocals := ofbundlePortAdd_localsOk _ _ _ h hI.1.locals
  obtain ⟨p, port, o₁, port₁, bundle, hw, -, -, hremove, -, hb, hvlans, rfl⟩ :=
    ofbundlePortAdd_ok h
  obtain ⟨hN₁, hrem₁⟩ := bundleRemove_noneLost _ _ _ hremove hI
  have hl3 := (Rel.ite portVlansJoin_l3 (Rel.pure 0) _ _ _ hvlans).1
  refine ⟨⟨hsound, hlocals, RifsSame.accounted ⟨?_, ?_⟩ hN₁.accounted⟩, hrem₁.shrink
    (bundlesShrink_of_eq (setBundle_bundlesBy hb rfl)) fun _ _ _ x _ => ?_⟩
  · exact rifsSame_of_l3 hl3
  · exact rif_congr (setBundle_bundlesBy hb rfl)
  · refine congrFun (routeAt_of_l3 ?_ ?_) x
    · rfl
    · exact hl3

theorem ofbundlePortsReconfigure_noneLost :
    Keeps (fun o => NoneLost F o ∧ LocalsRemovable o) (ofbundlePortsReconfigure b s) := by
  refine ofbundlePortsReconfigure_rel (fun _ _ _ _ h hI => ⟨ofbundlePortDel_noneLost _ _ _ h hI.1,
    ofbundlePortDel_removable _ _ _ h hI.2⟩) (fun _ _ _ h hI => ?_)
    fun _ => ofbundlePortAdd_noneLost
  have hsame := vlanReconfigure_sameButVlan _ _ _ h
  exact ⟨⟨hsame.sound hI.1.sound, hsame.localsShrink.ok hI.1.locals,
    hsame.rifsSame.accounted hI.1.accounted⟩, vlanReconfigure_removable _ _ _ h hI.2⟩

/-- The ports are moved first; then the interface and the addresses of the bundle are set. -/
theorem bundleApply_noneLost (hN : NoneLost F o) (hrem : LocalsRemovable o)
    (h : bundleApply b s o = .ok (st, o')) : NoneLost F o' := by
  rcases thenOk_ok.mp h with ⟨hfail, -⟩ | ⟨o₁, hports, h⟩
  · exact (ofbundlePortsReconfigure_noneLost _ _ _ hfail ⟨hN, hrem⟩).1
  have hrest : Keeps (NoneLost F) (do
      let _ ← ofbundleRouterIntfReconfigure b s
      let _ ← ofbundleIpReconfigure b s
      return (0 : Int)) :=
    Rel.bind ofbundleRouterIntfReconfigure_noneLost fun _ =>
      (ofbundleIpReconfigure_sameButIp.mono fun _ _ => SameButIp.noneLost).bind fun _ => Rel.pure _
  exact Rel.ite (R := fun o o' => NoneLost F o → NoneLost F o') (Rel.pure _)
    ((Rel.gets _).bind fun _ => hrest.ite (Rel.pure _)) _ _ _ h
    (ofbundlePortsReconfigure_noneLost _ _ _ hports ⟨hN, hrem⟩).1

omit [Build] in
/-- A new bundle has recorded nothing. -/
theorem ofbundleLookupOrCreate_noneLost {aux : Nat} :
    Keeps (fun o => NoneLost F o ∧ LocalsRemovable o) (ofbundleLookupOrCreate aux s) := by
  rintro o b o' h ⟨hN, hrem⟩
  refine ⟨⟨ofbundleLookupOrCreate_rifsSound _ _ _ h hN.sound,
    ofbundleLookupOrCreate_localsOk _ _ _ h hN.locals,
    (ofbundleLookupOrCreate_rifsSame _ _ _ h).accounted hN.accounted⟩, ?_⟩
  rcases ofbundleLookupOrCreate_ok h with ⟨rfl, -⟩ | ⟨-, h⟩
  · exact hrem
  obtain ⟨cs, hb, rfl⟩ := ofbundleCreate_ok h
  have hcases : ∀ {b' bundle}, (OfprotoSai.setBundle b (.alloc aux s.trunks)
      { o with hw := { o.hw with choices := cs } }).bundles.lookup b' = some bundle →
      (bundle.localPrefixes = [] ∧ bundle.removedHosts = []) ∨
        o.bundles.lookup b' = some bundle := by
    intro b' bundle hb'
    rw [setBundle_lookup] at hb'
    split at hb'
    next =>
      cases hb'
      exact .inl ⟨rfl, rfl⟩
    next => exact .inr hb'
  refine ⟨fun b bundle hb => ?_, fun b bundle hb x hx => ?_,
    fun b b' bundle bundle' hb hb' hne => ?_, fun b b' bundle bundle' hb hb' => ?_⟩
  · rcases hcases hb with ⟨hnil, -⟩ | hb
    · rw [hnil]
      exact .nil
    · exact hrem.nodup b bundle hb
  · rcases hcases hb with ⟨hnil, -⟩ | hb
    · rw [hnil] at hx
      cases hx
    · exact hrem.present b bundle hb x hx
  · rcases hcases hb with ⟨hnil, -⟩ | hb <;> rcases hcases hb' with ⟨hnil', -⟩ | hb'
    · simp [hnil]
    · simp [hnil]
    · simp [hnil']
    · exact hrem.apart b b' bundle bundle' hb hb' hne
  · rcases hcases hb with ⟨-, hnil⟩ | hb <;> rcases hcases hb' with ⟨hnil', -⟩ | hb'
    · simp [hnil]
    · simp [hnil]
    · simp [hnil']
    · exact hrem.hosts b b' bundle bundle' hb hb'

variable [OpenswitchIdl]

theorem BundleCall.run_noneLost {c : BundleCall} (hN : NoneLost F o) (hrem : LocalsRemovable o)
    (h : c.run o = .ok (st, o')) : NoneLost F o' := by
  cases c with
  | set aux s =>
    cases s with
    | none =>
      obtain ⟨found, o₁, hlookup, h⟩ := bind_ok.mp h
      obtain ⟨rfl, -⟩ := ofbundleLookup_ok hlookup
      cases found with
      | none =>
        cases h
        exact hN
      | some b =>
        obtain ⟨_, o₂, hdestroy, hend⟩ := bind_ok.mp h
        cases hend
        exact (ofbundleDestroy_noneLost _ _ _ hdestroy ⟨hN, hrem⟩).1
    | some s =>
      change (if s.name = OpenswitchIdl.DEFAULT_BRIDGE_NAME then pure 0 else do
        let b ← ofbundleLookupOrCreate aux s
        bundleApply b s) o = .ok (st, o') at h
      split at h
      next =>
        cases h
        exact hN
      next =>
        obtain ⟨b, o₁, hfind, happly⟩ := bind_ok.mp h
        obtain ⟨hN₁, hrem₁⟩ := ofbundleLookupOrCreate_noneLost _ _ _ hfind ⟨hN, hrem⟩
        exact bundleApply_noneLost hN₁ hrem₁ happly
  | remove p =>
    obtain ⟨_, o₁, hremove, hend⟩ := bind_ok.mp h
    cases hend
    exact (bundleRemove_noneLost _ _ _ hremove ⟨hN, hrem⟩).1

/-- Calls on bundles are made when local routes can be removed. -/
def HostCall.Removable (o : OfprotoSai) : HostCall → Prop
  | .vrf (.bundle _) => LocalsRemovable o
  | _ => True

theorem HostCall.run_noneLost {c : HostCall} (hN : NoneLost F o) (hrem : c.Removable o)
    (h : c.run o = .ok (st, o')) : NoneLost F o' := by
  have hentries : SameButEntries o o' → LocalRoutesOk o' → NoneLost F o' := fun hsame hlocals =>
    ⟨hsame.sound hN.sound, hlocals, hsame.rifsSame.accounted hN.accounted⟩
  cases c with
  | vrf c =>
    cases c with
    | bundle c => exact BundleCall.run_noneLost hN hrem h
    | route action routep =>
      exact hentries (l3RouteAction_sameButEntries _ _ _ h)
        (l3RouteAction_localsOk _ _ _ h hN.locals)
  | host aux c =>
    obtain ⟨b, bundle, -, -, honly⟩ := NeighborCall.run_onlyNeighbors h
    exact hentries (NeighborCall.run_sameButEntries _ _ _ h) (honly.localsShrink.ok hN.locals)

/-- A call leaves no interface behind: one that no bundle has afterwards existed before, and no
bundle had it. -/
theorem HostCall.run_left {c : HostCall} (hsound : o.RifsSound) (hlocals : LocalRoutesOk o)
    (hrem : c.Removable o) (h : c.run o = .ok (st, o')) : o'.RifsSound ∧
      ∀ rif ∈ o'.hw.routerIntfs, (∀ b, o'.rif b ≠ some rif) →
        rif ∈ o.hw.routerIntfs ∧ ∀ b, o.rif b ≠ some rif := by
  have hN : NoneLost (fun rif => rif ∈ o.hw.routerIntfs ∧ ∀ b, o.rif b ≠ some rif) o := by
    refine ⟨hsound, hlocals, fun e he => ?_⟩
    by_cases hown : ∃ b, o.rif b = some e.rifId
    · exact .inr hown
    · exact .inl ⟨(hsound.tables.recorded _).mpr ⟨e, he, rfl⟩, not_exists.mp hown⟩
  have hN' := HostCall.run_noneLost hN hrem h
  refine ⟨hN'.sound, fun rif hin hnot => ?_⟩
  obtain ⟨e, he, rfl⟩ := (hN'.sound.tables.recorded rif).mp hin
  exact (hN'.accounted e he).resolve_right (not_exists.mpr hnot)

end

end SwitchdSai
