import SwitchdSai.Lib.Clear
import SwitchdSai.Verify.HostRoutes
import SwitchdSai.Verify.LocalExact
import SwitchdSai.Verify.Memberships

/-!
# What a destroyed bundle leaves behind

`__ofbundle_destroy` removes the host routes of a bundle, then its local routes and its router
interface, and takes its ports out. It drops every status and it removes no neighbor. So it removes
everything the bundle has programmed when no neighbor is on the interface and each recorded prefix,
rebuilt the way it was added, has a route of its own in the hardware (`OfbundleSai.Removable`).
-/

namespace SwitchdSai

open Exec OfprotoSai

variable {o o' : OfprotoSai} {b b' : BundlePtr} {bundle : OfbundleSai} {st : Int} {vrid : Nat}
  {isIpv6 ipv6Prefix : Bool} {ip str : String} {aux : Nat} {p : OfpPort}

/-- The route for a prefix; a text that is no prefix has none. -/
def OfprotoSai.routeAt (o : OfprotoSai) (pfx : Option SxIpPrefix) : Option HwRoute :=
  pfx.bind (o.hw.routes o.vrid)

/-! ## Removing routes -/

/-- While routes are being removed: every call to come succeeds, and `I` holds of the bundles. -/
structure Removing (vrid : Nat) (I : (AList fun _ : BundlePtr => OfbundleSai) → Prop)
    (o : OfprotoSai) : Prop where
  willing : o.Willing
  vrid : o.vrid = vrid
  bundles : I o.bundles

section
variable [OvsLib] [Build] {I : (AList fun _ : BundlePtr => OfbundleSai) → Prop}

theorem opsSaiRouteRemove_clears : Clears routeAt (Removing vrid I)
    [opsSaiCommonIpPrefixToSxIpPrefix str] (onHw (opsSaiRouteRemove vrid str))
    (Removing vrid I) := by
  intro o st o' hP _ hthere h
  obtain ⟨hw, hremove, rfl⟩ := onHw_ok.mp h
  obtain ⟨route, hroute⟩ := Option.isSome_iff_exists.mp (hthere _ (List.mem_singleton_self _))
  obtain ⟨pfx, hpfx, hroute⟩ := Option.bind_eq_some_iff.mp hroute
  rw [hP.vrid] at hroute
  obtain rfl := opsSaiRouteRemove_accepts hpfx (Option.isSome_of_eq_some hroute)
    (hP.willing.accepts 0) hremove
  obtain ⟨pfx', hpfx', rfl⟩ := opsSaiRouteRemove_ok hremove
  obtain rfl : pfx = pfx' := Option.some.inj (hpfx.symm.trans hpfx')
  have hat : ∀ x, OfprotoSai.routeAt { o with hw := o.hw.tick.setRoute vrid pfx none } x =
      if x = some pfx then none else o.routeAt x := by
    intro x
    cases x with
    | none => rfl
    | some pfx' =>
      show (o.hw.tick.setRoute vrid pfx none).routes o.vrid pfx' = _
      rw [Hw.setRoute_routes]
      exact if_congr (by simp [hP.vrid]) rfl rfl
  refine ⟨rfl, ⟨hP.willing.of_suffix (List.tail_suffix _), hP.vrid, hP.bundles⟩,
    fun x hx => ?_, fun x hx => ?_⟩
  · rw [hat, if_pos ((List.mem_singleton.mp hx).trans hpfx)]
  · rw [hat, if_neg fun h => hx (List.mem_singleton.mpr (h.trans hpfx.symm))]

omit [OvsLib] [Build] in
/-- Changing the record of a bundle. -/
theorem modifyBundle_clears {J : (AList fun _ : BundlePtr => OfbundleSai) → Prop}
    {f : OfbundleSai → OfbundleSai}
    (hf : ∀ bundles bundle, I bundles → bundles.lookup b = some bundle →
      J (bundles.insert b (f bundle))) :
    Clears routeAt (Removing vrid I) [] (do modifyBundle b f; return 0) (Removing vrid J) := by
  refine Clears.quiet fun o st o' hP h => ?_
  obtain ⟨bundle, hb, hend⟩ := modifyBundle_bind.mp h
  cases hend
  exact ⟨rfl, ⟨hP.willing, hP.vrid, hf _ _ hP.bundles hb⟩, rfl⟩

omit [OvsLib] [Build] in
theorem ofbundle_clears {k : OfbundleSai → Exec OfprotoSai Int} {ks : List (Option SxIpPrefix)}
    {Q : OfprotoSai → Prop} (hI : ∀ bundles, I bundles → bundles.lookup b = some bundle)
    (hk : Clears routeAt (Removing vrid I) ks (k bundle) Q) :
    Clears routeAt (Removing vrid I) ks (ofbundle b >>= k) Q := by
  intro o st o' hP hnodup hthere h
  obtain ⟨bundle', hb, h⟩ := ofbundle_bind.mp h
  obtain rfl : bundle' = bundle := Option.some.inj (hb.symm.trans (hI _ hP.bundles))
  exact hk _ _ _ hP hnodup hthere h

omit [OvsLib] [Build] in
theorem walkTable_clears {α : Type} {table : List α} {k : List α → Exec OfprotoSai Int}
    {ks : List (Option SxIpPrefix)} {Q : OfprotoSai → Prop}
    (hk : ∀ l, l.Perm table → Clears routeAt (Removing vrid I) ks (k l) Q) :
    Clears routeAt (Removing vrid I) ks (walkTable table >>= k) Q := by
  intro o st o' hP hnodup hthere h
  obtain ⟨l, o₁, hwalk, h⟩ := bind_ok.mp h
  obtain ⟨hperm, cs, rfl⟩ := walkTable_ok hwalk
  obtain ⟨h0, hQ, hcleared⟩ := hk l hperm { o with hw := { o.hw with choices := cs } } st o'
    ⟨hP.willing, hP.vrid, hP.bundles⟩ hnodup hthere h
  exact ⟨h0, hQ, hcleared.gone, hcleared.kept⟩

/-! ## The host routes -/

theorem ofprotoIpRemove_clears : Clears routeAt (Removing vrid I) [ipHostRoute ip isIpv6]
    (ofprotoIpRemove ip isIpv6) (Removing vrid I) := by
  intro o st o' hP hnodup hthere h
  obtain ⟨pfx, o₁, hprefix, hrun⟩ := bind_ok.mp h
  obtain ⟨rfl, rfl⟩ := ofprotoIpPrefix_ok hprefix
  rw [gets_bind, hP.vrid] at hrun
  exact opsSaiRouteRemove_clears _ _ _ hP hnodup hthere hrun

theorem ipPrimaryRemove_clears (hI : ∀ bundles, I bundles → bundles.lookup b = some bundle) :
    Clears routeAt (Removing vrid I) ((bundle.primary isIpv6).toList.map (ipHostRoute · isIpv6))
      (ipPrimaryRemove b isIpv6) (Removing vrid I) := by
  refine ofbundle_clears hI ?_
  cases bundle.primary isIpv6 with
  | none => exact .pure
  | some ip => exact ofprotoIpRemove_clears

/-- The bundle exists and has the secondary addresses `ips` of the version `isIpv6`. -/
def HasSecondary (b : BundlePtr) (isIpv6 : Bool) (ips : List String)
    (bundles : AList fun _ : BundlePtr => OfbundleSai) : Prop :=
  ∃ bundle, bundles.lookup b = some bundle ∧ bundle.secondary isIpv6 = ips

theorem ipSecondaryRemove_clears {ips : List String} :
    Clears routeAt (Removing vrid (HasSecondary b (!isIpv6) ips)) [ipHostRoute ip ipv6Prefix]
      (ipSecondaryRemove b isIpv6 ipv6Prefix ip)
      (Removing vrid (HasSecondary b (!isIpv6) ips)) := by
  refine Clears.thenOk ofprotoIpRemove_clears (modifyBundle_clears ?_)
  rintro bundles bundle ⟨bundle', hb', hips⟩ hb
  obtain rfl : bundle' = bundle := Option.some.inj (hb'.symm.trans hb)
  refine ⟨_, AList.lookup_insert _, ?_⟩
  rw [← hips]
  cases isIpv6 <;> rfl

/-- The secondary addresses of one version go, and those of the other stay recorded. -/
theorem ipSecondaryRemoveAll_clears {bundle : OfbundleSai}
    (hI : ∀ bundles, I bundles → bundles.lookup b = some bundle) :
    Clears routeAt (Removing vrid I) ((bundle.secondary isIpv6).map (ipHostRoute · isIpv6))
      (ipSecondaryRemoveAll b isIpv6)
      (Removing vrid (HasSecondary b (!isIpv6) (bundle.secondary !isIpv6))) := by
  refine ofbundle_clears hI (walkTable_clears fun l hperm => ?_)
  have hloop : Clears routeAt (Removing vrid (HasSecondary b (!isIpv6) (bundle.secondary !isIpv6)))
      (l.map (ipHostRoute · isIpv6)) (forEach l (ipSecondaryRemove b isIpv6 isIpv6)) _ :=
    Clears.forEach (fun _ => ipSecondaryRemove_clears) l
  exact (hloop.perm (hperm.map _)).imp
    (fun o hP => ⟨hP.willing, hP.vrid, bundle, hI _ hP.bundles, rfl⟩) fun _ => id

/-- The host routes that `__ofbundle_ip_remove` asks to be removed. -/
def OfbundleSai.removedHosts (bundle : OfbundleSai) : List (Option SxIpPrefix) :=
  (bundle.primary false).toList.map (ipHostRoute · false) ++
  ((bundle.primary true).toList.map (ipHostRoute · true) ++
  ((bundle.secondary false).map (ipHostRoute · false) ++
  (bundle.secondary true).map (ipHostRoute · true)))

theorem ofbundleIpRemove_clears :
    Clears routeAt (Removing vrid fun bundles => bundles.lookup b = some bundle)
      bundle.removedHosts (ofbundleIpRemove b) (Removing vrid fun _ => True) := by
  refine (ipPrimaryRemove_clears fun _ => id).thenOk <|
    (ipPrimaryRemove_clears fun _ => id).thenOk <|
    (ipSecondaryRemoveAll_clears fun _ => id).thenOk ?_
  intro o st o' hP hnodup hthere h
  obtain ⟨bundle', hb', hips⟩ := hP.bundles
  have hips : bundle'.secondary true = bundle.secondary true := hips
  rw [← hips] at hnodup hthere ⊢
  obtain ⟨h0, hQ, hcleared⟩ := ipSecondaryRemoveAll_clears (fun _ => id) o st o'
    ⟨hP.willing, hP.vrid, hb'⟩ hnodup hthere h
  exact ⟨h0, ⟨hQ.willing, hQ.vrid, trivial⟩, hcleared⟩

/-! ## The local routes -/

theorem localRoutesRemove_clears :
    Clears routeAt (Removing vrid fun bundles => bundles.lookup b = some bundle)
      (bundle.localRoutes.map opsSaiCommonIpPrefixToSxIpPrefix) (localRoutesRemove b)
      (Removing vrid fun _ => True) := by
  refine ofbundle_clears (fun _ => id) fun o st o' hP hnodup hthere h => ?_
  rw [gets_bind, hP.vrid] at h
  refine walkTable_clears (fun l hperm => ?_) o st o' hP hnodup hthere h
  have hloop : Clears routeAt (Removing vrid fun _ => True)
      (l.map opsSaiCommonIpPrefixToSxIpPrefix)
      (forEach l fun addr => (onHw (opsSaiRouteRemove vrid addr)).thenOk do
        modifyBundle b fun bundle => { bundle with localRoutes := bundle.localRoutes.erase addr }
        return 0) _ :=
    Clears.forEach (fun _ => Clears.thenOk opsSaiRouteRemove_clears
      (modifyBundle_clears fun _ _ _ _ => trivial)) l
  exact (hloop.perm (hperm.map _)).imp (fun o hP => ⟨hP.willing, hP.vrid, trivial⟩) fun _ => id

end

/-! ## The log of a teardown -/

/-- A call that removes a local route or the router interface of a bundle. -/
inductive TeardownCall where
  | route (pfx : String) (status : Int)
  /-- `hw` is the hardware when the interface is about to be removed. -/
  | routerIntf (rif : Nat) (hw : Hw) (status : Int)

namespace Teardown

variable [OvsLib] [Build]

def localRoutesRemove (b : BundlePtr) : Logged TeardownCall OfprotoSai Int := do
  let bundle ← ofbundle b
  let vrid ← gets OfprotoSai.vrid
  let addrs ← walkTable bundle.localRoutes
  Logged.forEach addrs fun addr =>
    (Logged.event (.route addr) (onHw (opsSaiRouteRemove vrid addr))).thenOk do
      modifyBundle b fun bundle => { bundle with localRoutes := bundle.localRoutes.erase addr }
      return 0

def routerIntfRemove (rif : Nat) : Logged TeardownCall OfprotoSai Int := do
  let hw ← gets OfprotoSai.hw
  Logged.event (.routerIntf rif hw) (onHw (opsSaiRouterIntfRemove rif))

def ofbundleRouterIntfRemove (b : BundlePtr) : Logged TeardownCall OfprotoSai Int :=
  (localRoutesRemove b).thenOk do
    let bundle ← ofbundle b
    if bundle.routerIntf.created then
      (forEach bundle.ports fun p => netdevSaiSetRouterIntfHandle p none :
        Logged TeardownCall OfprotoSai Int).thenOk <|
      (routerIntfRemove bundle.routerIntf.rifid).thenOk do
        modifyBundle b fun bundle => { bundle with routerIntf := .zero }
        return 0
    else return 0

def ofbundleDestroy (b : BundlePtr) : Logged TeardownCall OfprotoSai Unit := do
  let _ ← ofbundleIpRemove b
  let _ ← ofbundleRouterIntfRemove b
  let bundle ← ofbundle b
  forAll bundle.ports fun p => do
    let _ ← ofbundlePortDel p
    pure ()
  Logged.quiet (Exec.modify fun o : OfprotoSai => { o with bundles := o.bundles.erase b })

/-- `__bundle_set` without settings. -/
def bundleSet (aux : Nat) : Logged TeardownCall OfprotoSai Int := do
  let bundle ← ofbundleLookup aux
  match bundle with
  | none => return 0
  | some b =>
    ofbundleDestroy b
    return 0

@[simp] theorem localRoutesRemove_prog :
    (localRoutesRemove b).prog = SwitchdSai.localRoutesRemove b := by
  simp [localRoutesRemove, SwitchdSai.localRoutesRemove]

omit [OvsLib] [Build] in
@[simp] theorem routerIntfRemove_prog {rif : Nat} :
    (routerIntfRemove rif).prog = onHw (opsSaiRouterIntfRemove rif) := rfl

@[simp] theorem ofbundleRouterIntfRemove_prog :
    (ofbundleRouterIntfRemove b).prog = SwitchdSai.ofbundleRouterIntfRemove b := by
  simp [ofbundleRouterIntfRemove, SwitchdSai.ofbundleRouterIntfRemove]

@[simp] theorem ofbundleDestroy_prog :
    (ofbundleDestroy b).prog = SwitchdSai.ofbundleDestroy b := by
  simp [ofbundleDestroy, SwitchdSai.ofbundleDestroy]

theorem bundleSet_prog [OpenswitchIdl] : (bundleSet aux).prog = SwitchdSai.bundleSet aux none := by
  simp only [bundleSet, SwitchdSai.bundleSet, Logged.prog_bind, Logged.prog_lift]
  refine bind_congr fun found => ?_
  cases found <;> simp

end Teardown

/-! ## The router interface -/

section
variable [OvsLib] [Build]

theorem Teardown.localRoutesRemove_log (hb : o.bundles.lookup b = some bundle)
    (h : SwitchdSai.localRoutesRemove b o = .ok (0, o')) :
    ∃ strs : List String, strs.Perm bundle.localRoutes ∧
      (Teardown.localRoutesRemove b).log o = strs.map (.route · 0) := by
  obtain ⟨bundle', hb', h⟩ := ofbundle_bind.mp h
  obtain rfl : bundle' = bundle := Option.some.inj (hb'.symm.trans hb)
  rw [gets_bind] at h
  obtain ⟨strs, o₁, hwalk, hloop⟩ := bind_ok.mp h
  refine ⟨strs, (walkTable_ok hwalk).1, ?_⟩
  rw [Teardown.localRoutesRemove, Logged.log_lift_bind (ofbundle_apply hb),
    Logged.log_lift_bind (m := gets OfprotoSai.vrid) rfl, Logged.log_lift_bind hwalk]
  refine Logged.log_forEach (fun addr s s' hturn => ?_) (by simpa using hloop)
  exact (thenRecord_log (e := TeardownCall.route addr) (fun _ _ _ => Logged.log_event) hturn).1

/-- Only routes and the records of them change. -/
theorem localRoutesRemove_frame :
    Frame (fun o => (o.hw.butRoutes, o.bundlesBy OfbundleSai.butEntries))
      (localRoutesRemove b) := by
  refine (ofbundle_rel b).bind fun _ => (Rel.gets _).bind fun _ =>
    (Rel.bind (onHw_rel fun _ _ _ h => by cases h; rfl) fun _ => Rel.pure _).bind fun _ => ?_
  refine Rel.forEach fun addr => Rel.thenOk (onHw_rel fun _ _ _ h => ?_) ?_
  · exact congrArg (·, _) (routeRemove_noLocalAdded _ _ _ h).same.1
  · refine Rel.bind (modifyBundle_rel fun o bundle hb => ?_) fun _ => Rel.pure _
    exact congrArg (_, ·) (setBundle_bundlesBy (g := OfbundleSai.butEntries) hb rfl)

end

/-- The interface `rif`, if there is one, is gone with its counter, and the others are as they
were. -/
structure Hw.RifRemoved (rif : Option Nat) (hw hw' : Hw) : Prop where
  gone : ∀ r, rif = some r → r ∉ hw'.routerIntfs
  counter : ∀ r row c, rif = some r → hw.routerIntfs.lookup r = some row → row.counter = some c →
    c ∉ hw'.counters
  routerIntfs : ∀ r, rif ≠ some r → hw'.routerIntfs.lookup r = hw.routerIntfs.lookup r
  neighbors : ∀ r, rif ≠ some r → hw'.neighbors r = hw.neighbors r

theorem Hw.RifRemoved.of_eq {rif : Option Nat} {hw hw' hw₁ hw₁' : Hw} (h : hw.RifRemoved rif hw')
    (hintfs : hw₁.routerIntfs = hw.routerIntfs) (hneighbors : hw₁.neighbors = hw.neighbors)
    (hintfs' : hw₁'.routerIntfs = hw'.routerIntfs) (hcounters' : hw₁'.counters = hw'.counters)
    (hneighbors' : hw₁'.neighbors = hw'.neighbors) : hw₁.RifRemoved rif hw₁' where
  gone := hintfs' ▸ h.gone
  counter := by
    rw [hintfs, hcounters']
    exact h.counter
  routerIntfs := by
    rw [hintfs, hintfs']
    exact h.routerIntfs
  neighbors := by
    rw [hneighbors, hneighbors']
    exact h.neighbors

theorem opsSaiRouterIntfRemove_removed {hw hw' : Hw} {rif : Nat} (hsound : hw.RifsSound)
    (hin : rif ∈ hw.routerIntfs) (h : opsSaiRouterIntfRemove rif hw = .ok (st, hw')) :
    st = 0 ∧ hw.RifRemoved (some rif) hw' := by
  obtain ⟨e, -, he, hid⟩ := exists_entry hsound.tables.toMirrored hin
  obtain ⟨hw₁, hrun⟩ := opsSaiRouterIntfRemove_willing hsound.willing hsound.tables.toMirrored he
  cases hrun.symm.trans h
  have hneighbors := opsSaiRouterIntfRemove_neighbors h
  rw [if_pos rfl] at hneighbors
  rcases opsSaiRouterIntfRemove_cases hsound.tables.toMirrored he h with
    ⟨h0, -⟩ | ⟨h0, -⟩ | ⟨-, -, -, -, row, htables⟩
  · exact absurd rfl h0
  · exact absurd rfl h0
  have hintfs : hw'.routerIntfs = (hw.routerIntfs.insert e.rifId row).erase e.rifId :=
    congrArg RifTables.routerIntfs htables
  have hcounters : hw'.counters = hw.counters.erase e.counterId :=
    congrArg RifTables.counters htables
  obtain ⟨row', hrow', hbound⟩ := hsound.tables.bound e (List.mem_of_find?_eq_some he)
  rw [hid] at hintfs hrow'
  refine ⟨rfl, fun r hr => ?_, fun r row c hr hrow hc => ?_, fun r hr => ?_, fun r hr => ?_⟩
  · cases hr
    rw [hintfs]
    simp
  · cases hr
    obtain rfl : row' = row := Option.some.inj (hrow'.symm.trans hrow)
    obtain rfl : e.counterId = c := Option.some.inj (hbound.symm.trans hc)
    rw [hcounters]
    exact hsound.tables.nodup.not_mem_erase
  · have hne : r ≠ rif := fun h => hr (congrArg some h.symm)
    rw [hintfs, AList.lookup_erase_ne hne, AList.lookup_insert_ne hne]
  · rw [hneighbors, Function.update_of_ne fun h => hr (congrArg some h.symm)]

/-- What giving up the interface of a bundle comes to. -/
structure RouterIntfGone [OvsLib] [Build] (b : BundlePtr) (bundle : OfbundleSai)
    (o o' : OfprotoSai) : Prop where
  routes : Cleared routeAt (bundle.localRoutes.map opsSaiCommonIpPrefixToSxIpPrefix) o o'
  rif : o.hw.RifRemoved bundle.rif o'.hw
  order : ∀ rif, bundle.rif = some rif → ∃ (strs : List String) (hw : Hw),
    strs.Perm bundle.localRoutes ∧ (Teardown.ofbundleRouterIntfRemove b).log o =
      strs.map (.route · 0) ++ [.routerIntf rif hw 0] ∧
    (∀ vrid pfx, hw.routes vrid pfx ≠ some (.local rif)) ∧ hw.neighbors = o.hw.neighbors

section
variable [OvsLib] [Build] {o₁ o₂ : OfprotoSai} {hw : Hw}

theorem Teardown.ofbundleRouterIntfRemove_log
    (hlocal : SwitchdSai.localRoutesRemove b o = .ok (0, o₁))
    (hb₁ : o₁.bundles.lookup b = some bundle) (hc : bundle.routerIntf.created = true)
    (hclear : (Exec.forEach bundle.ports fun p => netdevSaiSetRouterIntfHandle p none) o₁ =
      .ok (0, o₂))
    (hhw : opsSaiRouterIntfRemove bundle.routerIntf.rifid o₂.hw = .ok (0, hw)) :
    (Teardown.ofbundleRouterIntfRemove b).log o = (Teardown.localRoutesRemove b).log o ++
      [.routerIntf bundle.routerIntf.rifid o₂.hw 0] := by
  have hremove : onHw (opsSaiRouterIntfRemove bundle.routerIntf.rifid) o₂ =
      .ok (0, { o₂ with hw := hw }) := onHw_ok.mpr ⟨hw, hhw, rfl⟩
  rw [Teardown.ofbundleRouterIntfRemove, Logged.log_thenOk (by simpa using hlocal),
    Logged.log_lift_bind (ofbundle_apply hb₁), if_pos hc, Logged.log_thenOk (t := liftM _) hclear,
    Logged.log_thenOk (by simpa using hremove), Logged.log_lift_pure,
    Teardown.routerIntfRemove, Logged.log_lift_bind (m := gets OfprotoSai.hw) rfl,
    Logged.log_event hremove]
  rfl

theorem localRoutesRemove_rif (h : localRoutesRemove b o = .ok (st, o')) : o'.rif b = o.rif b := by
  have hbundles : o'.bundlesBy OfbundleSai.butEntries = o.bundlesBy OfbundleSai.butEntries :=
    congrArg (·.2) (localRoutesRemove_frame _ _ _ h)
  have hrif : o'.bundlesBy (·.rif) = o.bundlesBy (·.rif) :=
    bundlesBy_of (k := (·.rif)) hbundles fun _ => rfl
  rw [rif_bundlesBy, hrif, ← rif_bundlesBy]

theorem ofbundleRouterIntfRemove_gone (hsound : o.RifsSound) (hlocals : LocalRoutesOk o)
    (hb : o.bundles.lookup b = some bundle)
    (hnodup : (bundle.localRoutes.map opsSaiCommonIpPrefixToSxIpPrefix).Nodup)
    (hthere : ∀ x ∈ bundle.localRoutes.map opsSaiCommonIpPrefixToSxIpPrefix,
      (o.routeAt x).isSome)
    (h : ofbundleRouterIntfRemove b o = .ok (st, o')) : RouterIntfGone b bundle o o' := by
  have hrem : Removing o.vrid (fun bundles => bundles.lookup b = some bundle) o :=
    ⟨hsound.willing, rfl, hb⟩
  have hclears := fun st' o₁ => localRoutesRemove_clears o st' o₁ hrem hnodup hthere
  rcases ofbundleRouterIntfRemove_ok h with ⟨hfail, h0⟩ | ⟨o₁, bundle₁, hlocal, hb₁, hrest⟩
  · exact absurd (hclears _ _ hfail).1 h0
  obtain ⟨-, -, hcleared⟩ := hclears _ _ hlocal
  obtain ⟨hlocals₁, hnil⟩ := localRoutesRemove_ok hlocals hlocal
  have hhw₁ : o₁.hw.butRoutes = o.hw.butRoutes :=
    congrArg (·.1) (localRoutesRemove_frame _ _ _ hlocal)
  have hintfs : o₁.hw.routerIntfs = o.hw.routerIntfs := congrArg Hw.ButRoutes.routerIntfs hhw₁
  have hneighbors : o₁.hw.neighbors = o.hw.neighbors := congrArg Hw.ButRoutes.neighbors hhw₁
  have hrif : bundle₁.rif = bundle.rif := by
    rw [← rif_of_lookup hb₁, ← rif_of_lookup hb, localRoutesRemove_rif hlocal]
  rcases hrest with ⟨hc, rfl, rfl⟩ | ⟨hc, o₂, hw, hclear, hhw, hend⟩
  · -- the bundle has no interface
    have hnone : bundle.rif = none := by
      rw [← hrif, OfbundleSai.rif, hc]
      rfl
    refine ⟨hcleared, ⟨fun r hr => ?_, fun r _ _ hr => ?_, fun r _ => ?_, fun r _ => ?_⟩,
      fun r hr => ?_⟩
    · cases hnone.symm.trans hr
    · cases hnone.symm.trans hr
    · rw [hintfs]
    · rw [hneighbors]
    · cases hnone.symm.trans hr
  · rw [OfbundleSai.rif, if_pos hc] at hrif
    have hframe : Frame (fun o => (o.vrid, o.bundles, o.hw)) (Exec.forEach bundle₁.ports fun p =>
        netdevSaiSetRouterIntfHandle p none) := Rel.forEach fun _ => setRouterIntfHandle_frame
    have hvrid₂ : o₂.vrid = o₁.vrid := congrArg (fun t => t.1) (hframe _ _ _ hclear)
    have hhw₂ : o₂.hw = o₁.hw := congrArg (fun t => t.2.2) (hframe _ _ _ hclear)
    have hrif₁ : o₁.rif b = some bundle₁.routerIntf.rifid := by
      rw [rif_of_lookup hb₁, OfbundleSai.rif, if_pos hc]
    obtain ⟨rfl, hremoved⟩ := opsSaiRouterIntfRemove_removed
      (hhw₂ ▸ localRoutesRemove_rifsSound _ _ _ hlocal hsound)
      (hhw₂ ▸ hlocals₁.exists_rif b _ hrif₁) hhw
    rcases hend with ⟨h0, -⟩ | ⟨-, rfl⟩
    · exact absurd rfl h0
    have hroutes : hw.routes = o₁.hw.routes := by
      rw [(opsSaiRouterIntfRemove_kept hhw).1.1, hhw₂]
    have hat : OfprotoSai.routeAt (OfprotoSai.setBundle b { bundle₁ with routerIntf := .zero }
        { o₂ with hw := hw }) = o₁.routeAt := by
      funext x
      show x.bind (hw.routes o₂.vrid) = x.bind (o₁.hw.routes o₁.vrid)
      rw [hroutes, hvrid₂]
    rw [hhw₂, hrif] at hremoved
    refine ⟨hcleared.trans_eq hat, hremoved.of_eq hintfs.symm hneighbors.symm rfl rfl rfl,
      fun rif hr => ?_⟩
    obtain rfl : bundle₁.routerIntf.rifid = rif := Option.some.inj (hrif.trans hr)
    obtain ⟨strs, hperm, hlog⟩ := Teardown.localRoutesRemove_log hb hlocal
    refine ⟨strs, o₂.hw, hperm, ?_, fun vrid pfx hroute => ?_, ?_⟩
    · rw [Teardown.ofbundleRouterIntfRemove_log hlocal hb₁ hc hclear hhw, hlog]
    · -- a local route would be recorded
      rw [hhw₂] at hroute
      obtain ⟨-, str, hstr, -⟩ := hlocals₁.recorded b _ vrid pfx hrif₁ hroute
      rw [hnil rfl] at hstr
      cases hstr
    · rw [hhw₂, hneighbors]

end

/-! ## The ports -/

/-- Taking ports out of their bundles empties the rows of the system ports among them, and leaves
the other rows and the layer 3 tables as they are. -/
structure PortsLeft (ports : List OfpPort) (o o' : OfprotoSai) : Prop where
  rows : ∀ oid, o'.vlanRow oid =
    if some oid ∈ ports.map o.systemOid then fun _ => none else o.vlanRow oid
  vrid : o'.vrid = o.vrid
  l3 : o'.hw.l3 = o.hw.l3

theorem ofbundlePortDel_l3 (h : ofbundlePortDel p o = .ok (st, o')) :
    o'.hw.l3 = o.hw.l3 := by
  obtain ⟨port, b, bundle, hw, -, -, -, hvlans, rfl⟩ := ofbundlePortDel_ok h
  exact (Rel.ite portVlansLeave_l3 (Rel.pure 0) _ _ _ hvlans).1

theorem forAll_portDel_left {ports : List OfpPort} (hI : VlansInv o)
    (h : (forAll ports fun p => do let _ ← ofbundlePortDel p; pure ()) o = .ok ((), o')) :
    PortsLeft ports o o' := by
  induction ports generalizing o with
  | nil =>
    cases h
    exact ⟨fun _ => rfl, rfl, rfl⟩
  | cons p ports ih =>
    obtain ⟨_, o₁, h₁, h⟩ := bind_ok.mp h
    obtain ⟨st, o₂, h₁, hpure⟩ := bind_ok.mp h₁
    cases hpure
    have hsetup := (ofbundlePortDel_evolves _ _ _ h₁).sameSetup
    obtain ⟨hrows, hvrid, hl3⟩ := ih (ofbundlePortDel_vlansInv _ _ _ h₁ hI) h
    refine ⟨fun oid => ?_, hvrid.trans hsetup.vrid, hl3.trans (ofbundlePortDel_l3 h₁)⟩
    rw [hrows, hsetup.systemOid, ofbundlePortDel_row hI h₁]
    simp only [List.map_cons, List.mem_cons, eq_comm (a := some oid)]
    by_cases hports : some oid ∈ ports.map o.systemOid
    · rw [if_pos hports, if_pos (.inr hports)]
    · rw [if_neg hports]
      exact if_congr (by simp [hports]) rfl rfl

/-! ## The teardown -/

namespace OfbundleSai

variable [OvsLib]

/-- The host routes of a bundle, as they were asked for: those of secondary addresses with the flag
of IPv4, whatever their version is. -/
def hostRoutes (bundle : OfbundleSai) : List (Option SxIpPrefix) :=
  (bundle.primary false).toList.map (ipHostRoute · false) ++
  ((bundle.primary true).toList.map (ipHostRoute · true) ++
  ((bundle.secondary false).map (ipHostRoute · false) ++
  (bundle.secondary true).map (ipHostRoute · false)))

/-- The host routes and the local routes. -/
def routes (bundle : OfbundleSai) : List (Option SxIpPrefix) :=
  bundle.hostRoutes ++ bundle.localRoutes.map opsSaiCommonIpPrefixToSxIpPrefix

/-- No neighbor is on the interface of the bundle, no secondary IPv6 address is recorded, and each
recorded prefix has a route of its own. -/
structure Removable (o : OfprotoSai) (bundle : OfbundleSai) : Prop where
  neighbors : ∀ rif, bundle.rif = some rif → o.hw.neighbors rif = fun _ => none
  ipv6Secondary : bundle.ipv6Secondary = []
  nodup : bundle.routes.Nodup
  routes : ∀ x ∈ bundle.routes, (o.routeAt x).isSome

theorem Removable.removedHosts (h : bundle.Removable o) :
    bundle.removedHosts = bundle.hostRoutes := by
  have hnone : bundle.secondary true = [] := h.ipv6Secondary
  rw [OfbundleSai.removedHosts, OfbundleSai.hostRoutes, hnone]
  rfl

end OfbundleSai

/-- What a bundle and the hardware have in common is gone. -/
structure Removed [OvsLib] [Build] (b : BundlePtr) (bundle : OfbundleSai) (o o' : OfprotoSai) :
    Prop where
  routes : Cleared routeAt bundle.routes o o'
  rif : o.hw.RifRemoved bundle.rif o'.hw
  rows : ∀ oid, o'.vlanRow oid =
    if some oid ∈ bundle.ports.map o.systemOid then fun _ => none else o.vlanRow oid
  order : ∀ rif, bundle.rif = some rif → ∃ (strs : List String) (hw : Hw),
    strs.Perm bundle.localRoutes ∧
    (Teardown.ofbundleDestroy b).log o = strs.map (.route · 0) ++ [.routerIntf rif hw 0] ∧
    (∀ vrid pfx, hw.routes vrid pfx ≠ some (.local rif)) ∧ hw.neighbors = o.hw.neighbors

section
variable [OvsLib] [Build]

theorem ofbundleDestroy_removed (hinv : WillingInv o) (hvlans : VlansInv o)
    (hb : o.bundles.lookup b = some bundle) (hrem : bundle.Removable o)
    (h : ofbundleDestroy b o = .ok ((), o')) : Removed b bundle o o' := by
  obtain ⟨st₁, o₁, st₂, o₂, bundle₂, o₃, hip, hrif, hb₂, hports, rfl⟩ := ofbundleDestroy_ok h
  obtain ⟨hhosts, hlocals, hdisjoint⟩ := List.nodup_append'.mp hrem.nodup
  -- the host routes
  have hsame := ofbundleIpRemove_sameButIp _ _ _ hip
  have hstart : Removing o.vrid (fun bundles => bundles.lookup b = some bundle) o :=
    ⟨hvlans.willing, rfl, hb⟩
  obtain ⟨-, -, hcleared₁⟩ := ofbundleIpRemove_clears o st₁ o₁ hstart
    (hrem.removedHosts ▸ hhosts) (by
      rw [hrem.removedHosts]
      exact fun x hx => hrem.routes x (List.mem_append_left _ hx)) hip
  rw [hrem.removedHosts] at hcleared₁
  -- the local routes and the interface
  obtain ⟨bundle₁, hb₁, hbut⟩ : ∃ bundle₁, o₁.bundles.lookup b = some bundle₁ ∧
      bundle₁.butIp = bundle.butIp := by
    have hbundle := congrFun hsame.bundles b
    simpa [bundlesBy, hb] using hbundle
  have hlocalRoutes : bundle₁.localRoutes = bundle.localRoutes :=
    congrArg (·.localRoutes) hbut
  have hrif₁ : bundle₁.rif = bundle.rif := congrArg (·.rif) hbut
  obtain ⟨hcleared₂, hremoved, horder⟩ := ofbundleRouterIntfRemove_gone
    (hsame.sound hinv.sound) (hsame.localsShrink.ok hinv.locals) hb₁ (hlocalRoutes ▸ hlocals) (by
      intro x hx
      rw [hlocalRoutes] at hx
      rw [hcleared₁.kept x fun hx' => hdisjoint hx' hx]
      exact hrem.routes x (List.mem_append_right _ hx)) hrif
  rw [hlocalRoutes] at hcleared₂ horder
  rw [hrif₁] at hremoved horder
  -- the ports
  have hsame' := ofbundleRouterIntfRemove_sameButRif _ _ _ hrif
  have hvlans₂ := hsame'.vlansInv (hsame.vlansInv hvlans)
  obtain ⟨hrows, hvrid₃, hl3⟩ := forAll_portDel_left hvlans₂ hports
  have hmembers : bundle₂.ports = bundle.ports := by
    have hlinks : o₂.links = o.links := hsame'.links.trans hsame.links
    refine Option.some.inj ((links_members hb₂).symm.trans ?_)
    rw [hlinks]
    exact links_members hb
  have hrows₂ : o₂.vlanRow = o.vlanRow := by
    funext oid
    have hports₂ : o₂.hw.ports = o₁.hw.ports := congrArg Hw.L2.ports hsame'.hw.1
    have hports₁ : o₁.hw.ports = o.hw.ports := congrArg Hw.ButRoutes.ports hsame.hw.same.1
    rw [OfprotoSai.vlanRow, OfprotoSai.vlanRow, hports₂, hports₁]
  have hat : OfprotoSai.routeAt { o₃ with bundles := o₃.bundles.erase b } = o₂.routeAt := by
    funext x
    show x.bind (o₃.hw.routes o₃.vrid) = x.bind (o₂.hw.routes o₂.vrid)
    rw [show o₃.hw.routes = o₂.hw.routes from congrArg Hw.L3.routes hl3, hvrid₃]
  have hneighbors : o₁.hw.neighbors = o.hw.neighbors :=
    congrArg Hw.ButRoutes.neighbors hsame.hw.same.1
  refine ⟨hcleared₁.append (hcleared₂.trans_eq hat),
    hremoved.of_eq (congrArg Hw.ButRoutes.routerIntfs hsame.hw.same.1).symm hneighbors.symm
      (congrArg Hw.L3.routerIntfs hl3) (congrArg Hw.L3.counters hl3)
      (congrArg Hw.L3.neighbors hl3), fun oid => ?_, fun rif hr => ?_⟩
  · have hsystem : o₂.systemOid = o.systemOid := by
      rw [hsame'.evolves.sameSetup.systemOid, hsame.evolves.sameSetup.systemOid]
    rw [show OfprotoSai.vlanRow { o₃ with bundles := o₃.bundles.erase b } oid = o₃.vlanRow oid
      from rfl, hrows, hmembers, hsystem, hrows₂]
  · obtain ⟨strs, hw, hperm, hlog, hlocal, hon⟩ := horder rif hr
    refine ⟨strs, hw, hperm, ?_, hlocal, hon.trans hneighbors⟩
    rw [Teardown.ofbundleDestroy, Logged.log_lift_bind hip,
      Logged.log_bind (by simpa using hrif), Logged.log_lift_bind (ofbundle_apply hb₂),
      Logged.log_lift_bind hports, hlog]
    exact List.append_nil _

end

section
variable [OvsLib]

/-- No route that one bundle asked for is one that another bundle asked for. -/
def OfprotoSai.NoSharing (o : OfprotoSai) : Prop :=
  ∀ b b' bundle bundle', o.bundles.lookup b = some bundle → o.bundles.lookup b' = some bundle' →
    b ≠ b' → bundle.routes.Disjoint bundle'.routes

/-- The hardware has what it had for a bundle. -/
structure ObjectsKept (bundle : OfbundleSai) (o o' : OfprotoSai) : Prop where
  routerIntf : ∀ rif, bundle.rif = some rif →
    o'.hw.routerIntfs.lookup rif = o.hw.routerIntfs.lookup rif
  counter : ∀ rif row c, bundle.rif = some rif → o.hw.routerIntfs.lookup rif = some row →
    row.counter = some c → c ∈ o'.hw.counters
  neighbors : ∀ rif, bundle.rif = some rif → o'.hw.neighbors rif = o.hw.neighbors rif
  routes : ∀ x ∈ bundle.routes, o'.routeAt x = o.routeAt x
  vlans : ∀ p ∈ bundle.ports, ∀ oid, o.portOid p = some oid → o'.vlanRow oid = o.vlanRow oid

/-- `__bundle_set` without settings has removed everything that bundle `b`, which was configured for
`aux`, had in the hardware. -/
structure TornDown [Build] (aux : Nat) (b : BundlePtr) (bundle : OfbundleSai)
    (o o' : OfprotoSai) : Prop where
  /-- The interface goes last, when no route or neighbor is on it, and each local route that was on
  it has been removed by a call of its own. -/
  order : ∀ rif, bundle.rif = some rif → ∃ (strs : List String) (hw : Hw),
    (Teardown.bundleSet aux).log o = strs.map (.route · 0) ++ [.routerIntf rif hw 0] ∧
    (∀ vrid pfx, hw.routes vrid pfx ≠ some (.local rif)) ∧
    (∀ addr, hw.neighbors rif addr = none) ∧
    ∀ vrid pfx, o.hw.routes vrid pfx = some (.local rif) →
      vrid = o.vrid ∧ ∃ str ∈ strs, opsSaiCommonIpPrefixToSxIpPrefix str = some pfx
  routerIntf : ∀ rif, bundle.rif = some rif → rif ∉ o'.hw.routerIntfs
  counter : ∀ rif row c, bundle.rif = some rif → o.hw.routerIntfs.lookup rif = some row →
    row.counter = some c → c ∉ o'.hw.counters
  hostRoutes : ∀ x ∈ bundle.hostRoutes, o'.routeAt x = none
  vlans : ∀ p ∈ bundle.ports, ∀ oid, o.systemOid p = some oid → o'.vlanRow oid = fun _ => none
  others : ∀ b' bundle', o.bundles.lookup b' = some bundle' → b' ≠ b → ObjectsKept bundle' o o'

variable [Build]

/-- Bundles that share nothing do not touch each other. -/
theorem Removed.objectsKept {bundle' : OfbundleSai} (h : Removed b bundle o o')
    (hinv : WillingInv o) (hown : o.OwnObjects) (hsharing : o.NoSharing) (hsound : o'.RifsSound)
    (hb : o.bundles.lookup b = some bundle) (hb' : o.bundles.lookup b' = some bundle')
    (hne : b' ≠ b) : ObjectsKept bundle' o o' := by
  have hrif : ∀ rif, bundle'.rif = some rif → bundle.rif ≠ some rif := fun rif h' h =>
    hne (hinv.locals.distinct b' b rif ((rif_of_lookup hb').trans h') ((rif_of_lookup hb).trans h))
  have hkept : ∀ rif, bundle'.rif = some rif →
      o'.hw.routerIntfs.lookup rif = o.hw.routerIntfs.lookup rif := fun rif hr =>
    h.rif.routerIntfs rif (hrif rif hr)
  refine ⟨hkept, fun rif row c hr hrow hc => ?_, fun rif hr => h.rif.neighbors rif (hrif rif hr),
    fun x hx => h.routes.kept x fun hx' => hsharing b b' _ _ hb hb' hne.symm hx' hx,
    fun p hp oid hoid => ?_⟩
  · exact hsound.tables.counter_mem ((hkept rif hr).trans hrow) hc
  · rw [h.rows, if_neg]
    intro hmem
    obtain ⟨q, hq, hsystem⟩ := List.mem_map.mp hmem
    obtain rfl : p = q := hown q p oid hsystem hoid
    -- the port would be in both bundles
    have hown : o.links.owner p = some b := (hinv.links.mem_iff (links_members hb)).mp hq
    have hown' : o.links.owner p = some b' := (hinv.links.mem_iff (links_members hb')).mp hp
    exact hne (Option.some.inj (hown'.symm.trans hown))

theorem Removed.tornDown (h : Removed b bundle o o') (hinv : WillingInv o) (hown : o.OwnObjects)
    (hsharing : o.NoSharing) (hsound : o'.RifsSound) (hb : o.bundles.lookup b = some bundle)
    (hrem : bundle.Removable o)
    (hlog : (Teardown.bundleSet aux).log o = (Teardown.ofbundleDestroy b).log o) :
    TornDown aux b bundle o o' where
  order rif hr := by
    obtain ⟨strs, hw, hperm, hlog', hlocal, hon⟩ := h.order rif hr
    refine ⟨strs, hw, hlog.trans hlog', hlocal, fun addr => ?_, fun vrid pfx hroute => ?_⟩
    · rw [hon, hrem.neighbors rif hr]
    · obtain ⟨hvrid, str, hstr, hpfx⟩ :=
        hinv.locals.recorded b rif vrid pfx ((rif_of_lookup hb).trans hr) hroute
      rw [localRoutes_of_lookup hb] at hstr
      exact ⟨hvrid, str, hperm.mem_iff.mpr hstr, hpfx⟩
  routerIntf := h.rif.gone
  counter := h.rif.counter
  hostRoutes x hx := h.routes.gone x (List.mem_append_left _ hx)
  vlans p hp oid hoid := by
    rw [h.rows, if_pos (List.mem_map.mpr ⟨p, hp, hoid⟩)]
  others b' bundle' hb' hne := h.objectsKept hinv hown hsharing hsound hb hb' hne

variable [OpenswitchIdl] {type : OfprotoType} {ofports : OfpPort → Option OfportSai} {hw : Hw}

/-- **Nothing of a destroyed bundle is left**: in every run in which the hardware takes every call,
`__bundle_set` without settings tears a bundle down that shares no route with another one and can be
removed. -/
theorem bundleSet_tornDown (hwill : hw.Willing) (hrifs : hw.rifTables = ⟨∅, [], []⟩)
    (hroutes : ∀ vrid pfx, hw.routes vrid pfx = none)
    (hrows : ∀ oid, (hw.ports oid).vlans = fun _ => none) (hnew : Unbundled ofports)
    (hown : (OfprotoSai.new type vrid ofports hw).OwnObjects)
    (H : Reaches (fun _ c => c.SettingsWF) HostCall.run (.new type vrid ofports hw) o)
    (hsharing : o.NoSharing) (hb : o.bundles.lookup b = some bundle) (hrem : bundle.Removable o)
    (h : bundleSet bundle.aux none o = .ok (st, o')) : TornDown bundle.aux b bundle o o' := by
  have hinv := H.invariant (fun _ _ _ _ _ => HostCall.run_willingInv _ _ _)
    (new_willingInv hwill hrifs hroutes hnew)
  have hvlans := H.invariant (fun _ _ hwf _ _ => HostCall.run_vlansInv hwf _ _ _)
    (new_vlansInv hwill hrows hnew hown)
  have hsound : o'.RifsSound :=
    (HostCall.run_willingInv (c := .vrf (.bundle (.set bundle.aux none))) _ _ _ h hinv).sound
  obtain ⟨found, o₁, hlookup, h⟩ := bind_ok.mp h
  obtain ⟨rfl, hsome, hnone⟩ := ofbundleLookup_ok hlookup
  have haux : o₁.bundlesBy (·.aux) b = some bundle.aux := by
    rw [bundlesBy, hb]
    rfl
  cases found with
  | none => exact absurd haux (hnone rfl b)
  | some b' =>
    obtain rfl : b' = b := hinv.auxInj b' b _ (hsome b' rfl) haux
    obtain ⟨_, o₂, hdestroy, hend⟩ := bind_ok.mp h
    cases hend
    refine (ofbundleDestroy_removed hinv hvlans hb hrem hdestroy).tornDown hinv hvlans.own hsharing
      hsound hb hrem ?_
    rw [Teardown.bundleSet, Logged.log_lift_bind hlookup, Logged.log_bind (by simpa using hdestroy)]
    exact List.append_nil _

end

/-! ### Examples -/

theorem noSharing_of_single [OvsLib] (h : o.bundles.keys = [b]) : o.NoSharing := by
  have hkey : ∀ b' bundle', o.bundles.lookup b' = some bundle' → b' = b := by
    intro b' bundle' hb'
    have hmem : b' ∈ o.bundles := AList.lookup_isSome.mp (Option.isSome_of_eq_some hb')
    rwa [AList.mem_keys, h, List.mem_singleton] at hmem
  intro b₁ b₂ _ _ h₁ h₂ hne
  exact absurd ((hkey b₁ _ h₁).trans (hkey b₂ _ h₂).symm) hne

theorem samplePorts_ownObjects : (OfprotoSai.new .vrf 0 samplePorts .reset).OwnObjects := by
  intro p q oid hp hq
  have hown : ∀ p oid, (OfprotoSai.new .vrf 0 samplePorts .reset).portOid p = some oid →
      p = oid := by
    intro p oid h
    obtain ⟨port, hport, rfl⟩ := Option.map_eq_some_iff.mp h
    have hport : samplePorts p = some port := hport
    unfold samplePorts at hport
    split at hport <;> cases hport
    rfl
  exact (hown q oid hq).trans (hown p oid (systemOid_portOid hp)).symm

section
attribute [local instance] ip6Ovs sampleBuild sampleIdl

/-- A bundle with an address and a local route is torn down. -/
theorem bundleSet_tornDown_routes : ∃ (o o' : OfprotoSai) (bundle : OfbundleSai),
    bundle.routes.length = 2 ∧ bundle.rif = some 0 ∧ TornDown 1 0 bundle o o' := by
  obtain ⟨o', hrun⟩ := result_eq_some.mp (show result (do
    let st₁ ← HostCall.run (.vrf (.bundle (.set 1 (some primarySettings))))
    let st₂ ← HostCall.run (.vrf (.route .add ⟨"10.1.0.0/16", [.port "1"]⟩))
    let r ← gets fun o => decide (o.bundles.keys = [0] ∧ (o.bundles.lookup 0).any fun bundle =>
      decide (bundle.aux = 1 ∧ bundle.rif = some 0 ∧ bundle.neighbors = [] ∧
        bundle.ipv6Secondary = [] ∧ bundle.routes.length = 2 ∧ bundle.routes.Nodup ∧
        ∀ x ∈ bundle.routes, (o.routeAt x).isSome))
    let st₃ ← bundleSet 1 none
    pure (st₁, st₂, r, st₃)) (.new .vrf 0 samplePorts .reset) = some (0, 0, true, 0) by
      decide +kernel)
  obtain ⟨st₁, o₁, hset, hrun⟩ := bind_ok.mp hrun
  obtain ⟨st₂, o₂, hadd, hrun⟩ := bind_ok.mp hrun
  rw [gets_bind] at hrun
  obtain ⟨st₃, o₃, hdestroy, hend⟩ := bind_ok.mp hrun
  simp only [pure_apply, Except.ok.injEq, Prod.mk.injEq] at hend
  obtain ⟨⟨-, -, hr, -⟩, rfl⟩ := hend
  obtain ⟨hkeys, hany⟩ := of_decide_eq_true hr
  obtain ⟨bundle, hb, hbundle⟩ := (Option.any_eq_true _ _).mp hany
  obtain ⟨haux, hrif, hcache, hip6, hlength, hnodup, hthere⟩ := of_decide_eq_true hbundle
  -- with nothing cached there is no neighbor
  have hsafe : HostCall.Safe (.new .vrf 0 samplePorts .reset)
      (.vrf (.bundle (.set 1 (some primarySettings)))) := by
    intro _ _ b bundle hb
    cases hb
  have hsafe' : HostCall.Safe o₁ (.vrf (.route .add ⟨"10.1.0.0/16", [.port "1"]⟩)) := trivial
  have hok : NeighborsOk (fun _ => True) o₂ := HostCall.run_neighborsOk hsafe' hadd
    (HostCall.run_neighborsOk hsafe hset (new_neighborsOk (fun _ _ => rfl) fun _ _ => rfl))
  have hnone : ∀ rif, bundle.rif = some rif → o₂.hw.neighbors rif = fun _ => none := by
    intro rif hr
    funext addr
    refine Option.eq_none_iff_forall_ne_some.mpr fun eth hn => ?_
    obtain ⟨e, he, -⟩ := (hok.caches 0 bundle trivial hb).mirrors.complete addr eth (by
      rw [hr]
      exact hn)
    rw [hcache] at he
    cases he
  have hwf : HostCall.SettingsWF (.vrf (.bundle (.set 1 (some primarySettings)))) :=
    ⟨by decide, by decide, rfl⟩
  have hwf' : HostCall.SettingsWF (.vrf (.route .add ⟨"10.1.0.0/16", [.port "1"]⟩)) := trivial
  have H : Reaches (fun _ c => c.SettingsWF) HostCall.run (.new .vrf 0 samplePorts .reset) o₂ :=
    .tail (.tail .refl ⟨_, st₁, hwf, hset⟩) ⟨_, st₂, hwf', hadd⟩
  have hwill : Hw.reset.Willing := rfl
  have htorn := bundleSet_tornDown hwill rfl (fun _ _ => rfl) (fun _ => rfl) samplePorts_unbundled
    samplePorts_ownObjects H (noSharing_of_single hkeys) hb ⟨hnone, hip6, hnodup, hthere⟩
    (haux.symm ▸ hdestroy)
  exact ⟨o₂, o₃, bundle, hlength, hrif, haux ▸ htorn⟩

/-- The neighbor at `addr` on the interface that is about to be removed. -/
def TeardownCall.neighborAt (addr : SxIpAddr) : TeardownCall → Option (Option EthAddr)
  | .route _ _ => none
  | .routerIntf rif hw _ => some (hw.neighbors rif addr)

/-- The interface of a bundle is removed while a neighbor is programmed on it. -/
theorem bundleSet_neighbor_left : ∃ (o o' : OfprotoSai) (bundle : OfbundleSai),
    Reaches (fun _ c => c.SettingsWF) HostCall.run (.new .vrf 0 samplePorts .reset) o ∧
      o.NoSharing ∧ o.bundles.lookup 0 = some bundle ∧ bundle.aux = 1 ∧
      bundleSet 1 none o = .ok (0, o') ∧ ¬TornDown 1 0 bundle o o' := by
  obtain ⟨o', hrun⟩ := result_eq_some.mp (show result (do
    let st₁ ← HostCall.run (.vrf (.bundle (.set 1 (some (accessSettings 2)))))
    let st₂ ← HostCall.run (.host 1 (.add "10.0.0.1" "00:00:00:00:00:01"))
    let r ← gets fun o => decide (o.bundles.keys = [0] ∧ ((o.bundles.lookup 0).any fun bundle =>
        decide (bundle.aux = 1 ∧ bundle.rif = some 0)) ∧
      ((Teardown.bundleSet 1).log o).filterMap (TeardownCall.neighborAt sampleIp) = [some 1])
    let st₃ ← bundleSet 1 none
    pure (st₁, st₂, r, st₃)) (.new .vrf 0 samplePorts .reset) = some (0, 0, true, 0) by
      decide +kernel)
  obtain ⟨st₁, o₁, hset, hrun⟩ := bind_ok.mp hrun
  obtain ⟨st₂, o₂, hadd, hrun⟩ := bind_ok.mp hrun
  rw [gets_bind] at hrun
  obtain ⟨st₃, o₃, hdestroy, hend⟩ := bind_ok.mp hrun
  simp only [pure_apply, Except.ok.injEq, Prod.mk.injEq] at hend
  obtain ⟨⟨-, -, hr, rfl⟩, rfl⟩ := hend
  obtain ⟨hkeys, hany, hlog⟩ := of_decide_eq_true hr
  obtain ⟨bundle, hb, hbundle⟩ := (Option.any_eq_true _ _).mp hany
  obtain ⟨haux, hrif⟩ := of_decide_eq_true hbundle
  have hwf : HostCall.SettingsWF (.vrf (.bundle (.set 1 (some (accessSettings 2))))) :=
    ⟨by decide, by decide, rfl⟩
  have hwf' : HostCall.SettingsWF (.host 1 (.add "10.0.0.1" "00:00:00:00:00:01")) := trivial
  have H : Reaches (fun _ c => c.SettingsWF) HostCall.run (.new .vrf 0 samplePorts .reset) o₂ :=
    .tail (.tail .refl ⟨_, st₁, hwf, hset⟩) ⟨_, st₂, hwf', hadd⟩
  refine ⟨o₂, o₃, bundle, H, noSharing_of_single hkeys, hb, haux, hdestroy, fun htorn => ?_⟩
  obtain ⟨strs, hw, hlog', -, hnone, -⟩ := htorn.order 0 hrif
  have hroutes : (strs.map (TeardownCall.route · 0)).filterMap
      (TeardownCall.neighborAt sampleIp) = [] := by
    simp [TeardownCall.neighborAt]
  rw [hlog', List.filterMap_append, hroutes, List.nil_append] at hlog
  have hone : hw.neighbors 0 sampleIp = some 1 := (List.cons.inj hlog).1
  rw [hnone] at hone
  cases hone

/-- The host route of a secondary IPv6 address is left. -/
theorem bundleSet_ip6Secondary_left : ∃ (o o' : OfprotoSai) (bundle : OfbundleSai),
    Reaches (fun _ c => c.SettingsWF) HostCall.run (.new .vrf 0 samplePorts .reset) o ∧
      o.NoSharing ∧ o.bundles.lookup 0 = some bundle ∧ bundle.ipv6Secondary = ["fd00::1/64"] ∧
      bundleSet 1 none o = .ok (0, o') ∧ ¬TornDown 1 0 bundle o o' := by
  obtain ⟨o', hrun⟩ := result_eq_some.mp (show result (do
    let st₁ ← HostCall.run (.vrf (.bundle (.set 1 (some ip6SecondarySettings))))
    let r ← gets fun o => decide (o.bundles.keys = [0] ∧ (o.bundles.lookup 0).any fun bundle =>
        decide (bundle.ipv6Secondary = ["fd00::1/64"] ∧
          ipHostRoute "fd00::1/64" false ∈ bundle.hostRoutes))
    let st₂ ← bundleSet 1 none
    let left ← gets fun o => o.routeAt (ipHostRoute "fd00::1/64" false)
    pure (st₁, r, st₂, left)) (.new .vrf 0 samplePorts .reset) =
      some (0, true, 0, some .ip2me) by decide +kernel)
  obtain ⟨st₁, o₁, hset, hrun⟩ := bind_ok.mp hrun
  rw [gets_bind] at hrun
  obtain ⟨st₂, o₂, hdestroy, hend⟩ := bind_ok.mp hrun
  rw [gets_bind, pure_apply] at hend
  simp only [Except.ok.injEq, Prod.mk.injEq] at hend
  obtain ⟨⟨-, hr, rfl, hleft⟩, rfl⟩ := hend
  obtain ⟨hkeys, hany⟩ := of_decide_eq_true hr
  obtain ⟨bundle, hb, hbundle⟩ := (Option.any_eq_true _ _).mp hany
  obtain ⟨hip6, hmem⟩ := of_decide_eq_true hbundle
  have hwf : HostCall.SettingsWF (.vrf (.bundle (.set 1 (some ip6SecondarySettings)))) :=
    ⟨by decide, by decide, rfl⟩
  have H : Reaches (fun _ c => c.SettingsWF) HostCall.run (.new .vrf 0 samplePorts .reset) o₁ :=
    .tail .refl ⟨_, st₁, hwf, hset⟩
  refine ⟨o₁, o₂, bundle, H, noSharing_of_single hkeys, hb, hip6, hdestroy, fun htorn => ?_⟩
  cases hleft.symm.trans (htorn.hostRoutes _ hmem)

end

end SwitchdSai
