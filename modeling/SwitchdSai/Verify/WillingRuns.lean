import SwitchdSai.Verify.NeighborsLive
import SwitchdSai.Verify.RifFollows

/-!
# Runs without failing calls

What holds in every state of a run of bundle, route and host entry calls in which the hardware takes
every call (`WillingInv`). The calls on routes and host entries change those tables and their
records and nothing else (`SameButEntries`), and the tables of router interfaces stay a mirror of
each other whatever becomes of the records in bundles.
-/

namespace SwitchdSai

open Exec OfprotoSai

/-! ## Routes and host entries -/

/-- All tables but routes and neighbors. -/
structure Hw.ButEntries where
  oid : Nat → Nat
  ports : Nat → HwPort
  routerIntfs : AList fun _ : Nat => HwRouterIntf
  counters : List Nat
  allRouterIntf : List RifEntry

def Hw.butEntries (hw : Hw) : Hw.ButEntries :=
  ⟨hw.opsSaiApiHwId2PortId, hw.ports, hw.routerIntfs, hw.counters, hw.allRouterIntf⟩

/-- A bundle without its records of local routes and neighbors. -/
def OfbundleSai.butEntries (bundle : OfbundleSai) : OfbundleSai :=
  { bundle with localRoutes := [], neighbors := [] }

/-- `o'` differs from `o` at most in routes, neighbors and the records of them. -/
structure SameButEntries (o o' : OfprotoSai) : Prop where
  type : o'.type = o.type
  vrid : o'.vrid = o.vrid
  ofports : o'.ofports = o.ofports
  bundles : o'.bundlesBy OfbundleSai.butEntries = o.bundlesBy OfbundleSai.butEntries
  hw : Hw.Same Hw.butEntries o.hw o'.hw

instance : IsPreorder OfprotoSai SameButEntries where
  refl _ := ⟨rfl, rfl, rfl, rfl, refl_of _ _⟩
  trans _ _ _ h h' := ⟨h'.type.trans h.type, h'.vrid.trans h.vrid, h'.ofports.trans h.ofports,
    h'.bundles.trans h.bundles, trans_of _ h.hw h'.hw⟩

variable {o o' : OfprotoSai} {b : BundlePtr} {p : OfpPort} {s : OfprotoBundleSettings} {st : Int}

theorem onHw_sameButEntries {α : Type} {m : Exec Hw α} (h : Rel (Hw.Same Hw.butEntries) m) :
    Rel SameButEntries (onHw m) :=
  onHw_rel fun _ a hw hm => ⟨rfl, rfl, rfl, rfl, h _ a hw hm⟩

theorem modifyBundle_sameButEntries {f : OfbundleSai → OfbundleSai}
    (h : ∀ x, (f x).butEntries = x.butEntries) : Rel SameButEntries (modifyBundle b f) :=
  modifyBundle_rel fun _ bundle hb =>
    ⟨rfl, rfl, rfl, setBundle_bundlesBy hb (h bundle), refl_of _ _⟩

theorem Hw.Same.butEntries {hw hw' : Hw} (h : Hw.Same Hw.butRoutes hw hw') :
    Hw.Same Hw.butEntries hw hw' :=
  ⟨congrArg (fun t : Hw.ButRoutes => (⟨t.oid, t.ports, t.routerIntfs, t.counters,
    t.allRouterIntf⟩ : Hw.ButEntries)) h.1, h.2⟩

theorem SameButEntries.evolves (h : SameButEntries o o') : Evolves o o' := by
  have haux : o'.bundlesBy (·.aux) = o.bundlesBy (·.aux) :=
    bundlesBy_of (k := (·.aux)) h.bundles fun _ => rfl
  refine ⟨h.type, h.vrid, ?_, congrArg Hw.ButEntries.oid h.hw.1, h.hw.2, fun b a ha => haux ▸ ha⟩
  exact netdevs_of_butRif fun p => by rw [h.ofports]

theorem SameButEntries.links (h : SameButEntries o o') : o'.links = o.links := by
  have hmem : o'.bundlesBy (·.ports) = o.bundlesBy (·.ports) :=
    bundlesBy_of (k := (·.ports)) h.bundles fun _ => rfl
  simp only [OfprotoSai.links, h.ofports, hmem]

theorem SameButEntries.rifTables (h : SameButEntries o o') :
    o'.hw.rifTables = o.hw.rifTables :=
  congrArg (fun t : Hw.ButEntries => (⟨t.routerIntfs, t.counters, t.allRouterIntf⟩ : RifTables))
    h.hw.1

section
variable [OvsLib]

theorem l3RouteAction_sameButEntries [Build] {action : OfprotoRouteAction}
    {routep : OfprotoRoute} : Rel SameButEntries (l3RouteAction action routep) := by
  refine l3RouteAction_rel
    (fun hm => onHw_sameButEntries (hm.mono fun _ _ h => h.same.butEntries))
    (onHw_sameButEntries (Hw.choose_same fun _ _ => rfl)) (fun b pfx => ?_) fun b pfx => ?_
  · refine (ofbundle_rel b).bind fun _ => (Rel.require _ _).bind fun _ => (Rel.gets _).bind fun _ =>
      (onHw_sameButEntries (opsSaiRouteLocalAdd_butRoutes.mono
        fun _ _ => Hw.Same.butEntries)).bind fun _ => ?_
    exact Rel.bind (modifyBundle_sameButEntries fun _ => rfl) fun _ => Rel.pure _
  · refine (ofbundle_rel b).bind fun _ => (Rel.gets _).bind fun _ =>
      Rel.ite (Rel.thenOk ?_ ?_) (Rel.pure _)
    · exact onHw_sameButEntries (routeRemove_noLocalAdded.mono fun _ _ h => h.same.butEntries)
    · exact Rel.bind (modifyBundle_sameButEntries fun _ => rfl) fun _ => Rel.pure _

theorem neighborAction_sameButEntries {ip : String} {mac : Option String} {rifid : Nat} :
    Rel SameButEntries (onHw (do return sxError2Errno (← neighborAction ip mac rifid))) := by
  have hset : ∀ addr eth, Rel (Hw.Same Hw.butEntries) (sxNeighSet rifid addr eth) := fun _ _ =>
    Hw.callIf_same (fun _ => rfl) fun _ => ⟨rfl, rfl⟩
  refine onHw_sameButEntries (Rel.bind ?_ fun _ => Rel.pure _)
  unfold neighborAction
  split
  · split
    · exact hset _ _
    · exact Rel.pure _
  · split
    · exact hset _ _
    · exact Rel.pure _

omit [OvsLib] in
theorem modifyNeighbors_sameButEntries {f : List NeighborEntry → List NeighborEntry} :
    Rel SameButEntries (modifyNeighbors b f) := by
  unfold modifyNeighbors
  exact Rel.bind (modifyBundle_sameButEntries fun _ => rfl) fun _ => Rel.pure _

omit [OvsLib] in
theorem l3HostBundle_rel {R : OfprotoSai → OfprotoSai → Prop} [IsPreorder OfprotoSai R]
    {aux : Nat} : Rel R (l3HostBundle aux) :=
  Rel.bind ((Rel.require _ _).bind fun _ => Rel.gets _) fun _ => (Rel.need _ _).bind fun b =>
    (ofbundle_rel b).bind fun _ => (Rel.require _ _).bind fun _ => Rel.pure _

theorem NeighborCall.run_sameButEntries {aux : Nat} {c : NeighborCall} :
    Rel SameButEntries (c.run aux) := by
  cases c with
  | add ip mac =>
    refine Rel.bind l3HostBundle_rel fun _ => (Rel.pure _).ite (Rel.ite ?_ ?_)
    · exact modifyNeighbors_sameButEntries
    · refine (Rel.ite modifyNeighbors_sameButEntries (Rel.pure _)).thenOk ?_
      exact Rel.thenOk neighborAction_sameButEntries modifyNeighbors_sameButEntries
  | delete ip =>
    refine Rel.bind l3HostBundle_rel fun found => ?_
    dsimp only
    split
    next => exact Rel.pure _
    next =>
      exact ((Rel.pure _).ite neighborAction_sameButEntries).thenOk modifyNeighbors_sameButEntries

end

/-! ## The tables of router interfaces -/

/-- Every call to come succeeds, and the tables of router interfaces mirror each other. -/
structure Hw.RifsSound (hw : Hw) : Prop where
  willing : hw.Willing
  tables : hw.rifTables.Ok

section
variable {hw hw' : Hw} {rif handle vrid rifHandle : Nat} {type : RouterIntfType} {state : Bool}

theorem Hw.RifsSound.of_eq (h : hw.RifsSound) (ht : hw'.rifTables = hw.rifTables)
    (hout : hw'.outcomes <:+ hw.outcomes) : hw'.RifsSound :=
  ⟨h.willing.of_suffix hout, ht ▸ h.tables⟩

theorem opsSaiRouterIntfCreate_rifsSound :
    Keeps Hw.RifsSound (opsSaiRouterIntfCreate vrid type handle rifHandle) := by
  rintro hw ⟨st, rif⟩ hw' h hsound
  refine ⟨hsound.willing.of_suffix (routerIntfCreate_l2 _ _ _ h).2, ?_⟩
  rcases opsSaiRouterIntfCreate_cases h with
    ⟨-, -, ht⟩ | ⟨-, -, -, hfail, -⟩ | ⟨-, -, -, hrif, counter, hcounter, ht⟩
  · exact ht ▸ hsound.tables
  · exact absurd ⟨hsound.willing.accepts _, hsound.willing.accepts _⟩ hfail
  · rw [ht]
    exact hsound.tables.add (e := ⟨rif, counter, type, handle⟩) hrif hcounter rfl

theorem opsSaiRouterIntfRemove_rifsSound : Keeps Hw.RifsSound (opsSaiRouterIntfRemove rif) := by
  intro hw st hw' h hsound
  refine ⟨hsound.willing.of_suffix (routerIntfRemove_l2 _ _ _ h).2, ?_⟩
  obtain ⟨e, he, -⟩ : ∃ e, hw.routerIntfEntryFind rif = some e ∧ _ := need_bind.mp h
  rcases opsSaiRouterIntfRemove_cases hsound.tables.toMirrored he h with
    ⟨-, -, ht⟩ | ⟨-, -, hfail, -⟩ | ⟨-, -, -, -, row, ht⟩
  · exact ht ▸ hsound.tables
  · exact absurd ⟨hsound.willing.accepts 1, hsound.willing.accepts 2, hsound.willing.accepts 3⟩
      hfail
  · rw [ht]
    exact hsound.tables.remove (List.mem_of_find?_eq_some he)

theorem opsSaiRouterIntfSetState_rifsSound :
    Keeps Hw.RifsSound (opsSaiRouterIntfSetState rif state) := by
  intro hw st hw' h hsound
  obtain ⟨e, he, -⟩ : ∃ e, hw.routerIntfEntryFind rif = some e ∧ _ := need_bind.mp h
  have hin : rif ∈ hw.routerIntfs := (hsound.tables.recorded rif).mpr
    ⟨e, List.mem_of_find?_eq_some he, of_decide_eq_true (List.find?_some he :)⟩
  obtain rfl := opsSaiRouterIntfSetState_willing hsound.willing hin h
  obtain ⟨r, hr, ht⟩ := opsSaiRouterIntfSetState_ok h
  refine ⟨hsound.willing.of_suffix (routerIntfSetState_l2 _ _ _ h).2, ?_⟩
  rw [ht]
  exact hsound.tables.set hr rfl

end

/-! ## The functions on bundles -/

/-- The hardware of an ofproto is sound. -/
def OfprotoSai.RifsSound (o : OfprotoSai) : Prop := o.hw.RifsSound

theorem onHw_rifsSound {α : Type} {m : Exec Hw α} (h : Keeps Hw.RifsSound m) :
    Keeps OfprotoSai.RifsSound (onHw m) :=
  onHw_rel fun _ a hw hm => h _ a hw hm

theorem modifyBundle_rifsSound {f : OfbundleSai → OfbundleSai} :
    Keeps OfprotoSai.RifsSound (modifyBundle b f) :=
  modifyBundle_rel fun _ _ _ => id

theorem choose_rifsSound : Keeps OfprotoSai.RifsSound (onHw Hw.choose) :=
  onHw_rifsSound fun _ _ _ h hsound => by
    cases h
    exact hsound.of_eq rfl (List.suffix_refl _)

theorem SameButVlan.sound (h : SameButVlan o o') (hsound : o.RifsSound) : o'.RifsSound :=
  hsound.of_eq (congrArg RifView.tables h.rifView) h.hw.2

theorem SameButIp.sound (h : SameButIp o o') (hsound : o.RifsSound) : o'.RifsSound :=
  hsound.of_eq (congrArg RifView.tables h.rifView) h.hw.same.2

theorem SameButEntries.sound (h : SameButEntries o o') (hsound : o.RifsSound) : o'.RifsSound :=
  hsound.of_eq h.rifTables h.hw.2

theorem setRouterIntfHandles_rifsSound {h : Option BundlePtr} {ports : List OfpPort} :
    Keeps OfprotoSai.RifsSound (forEach ports fun p => netdevSaiSetRouterIntfHandle p h) :=
  Rel.forEach fun _ => setRouterIntfHandle_frame.mono fun o o' hsame hsound => by
    have hhw : o'.hw = o.hw := congrArg (fun t => t.2.2) hsame
    exact hsound.of_eq (by rw [hhw]) (by rw [hhw])

theorem ofbundlePortDel_rifsSound : Keeps OfprotoSai.RifsSound (ofbundlePortDel p) :=
  fun _ _ _ h hsound => hsound.of_eq (congrArg RifView.tables (ofbundlePortDel_rifView h))
    (ofbundlePortDel_evolves _ _ _ h).outcomes

theorem routerIntfCreate_rifsSound {rifType : RouterIntfType} {handle : Nat} :
    Keeps OfprotoSai.RifsSound (routerIntfCreate b rifType handle) :=
  (ofbundle_rel b).bind fun _ => (Rel.gets _).bind fun _ =>
    (onHw_rifsSound opsSaiRouterIntfCreate_rifsSound).bind fun _ => (Rel.pure _).ite <|
    Rel.bind modifyBundle_rifsSound fun _ => setRouterIntfHandles_rifsSound

section
variable [OvsLib] [Build]

theorem localRoutesRemove_rifsSound : Keeps OfprotoSai.RifsSound (localRoutesRemove b) := by
  refine (ofbundle_rel b).bind fun _ => (Rel.gets _).bind fun _ =>
    Rel.bind (Rel.bind choose_rifsSound fun _ => Rel.pure _) fun _ => Rel.forEach fun _ => ?_
  refine Rel.thenOk (onHw_rifsSound fun hw _ hw' h hsound => ?_) ?_
  · have hsame := (routeRemove_noLocalAdded _ _ _ h).same
    exact hsound.of_eq (congrArg (fun t : Hw.ButRoutes =>
      (⟨t.routerIntfs, t.counters, t.allRouterIntf⟩ : RifTables)) hsame.1) hsame.2
  · exact Rel.bind modifyBundle_rifsSound fun _ => Rel.pure _

theorem ofbundleRouterIntfRemove_rifsSound :
    Keeps OfprotoSai.RifsSound (ofbundleRouterIntfRemove b) :=
  Rel.thenOk localRoutesRemove_rifsSound <| (ofbundle_rel b).bind fun _ =>
    (Rel.thenOk setRouterIntfHandles_rifsSound <|
      (onHw_rifsSound opsSaiRouterIntfRemove_rifsSound).thenOk <|
      Rel.bind modifyBundle_rifsSound fun _ => Rel.pure _).ite (Rel.pure _)

theorem ofbundleRouterIntfReconfigure_rifsSound :
    Keeps OfprotoSai.RifsSound (ofbundleRouterIntfReconfigure b s) :=
  ofbundleRouterIntfReconfigure_rel
    (fun _ _ => routerIntfApply_rel ofbundleRouterIntfRemove_rifsSound routerIntfCreate_rifsSound
      (routerIntfEnable_rel (fun _ => onHw_rifsSound opsSaiRouterIntfSetState_rifsSound)
        modifyBundle_rifsSound))
    modifyBundle_rifsSound

theorem ofbundleDestroy_rifsSound : Keeps OfprotoSai.RifsSound (ofbundleDestroy b) :=
  ofbundleDestroy_rel (ofbundleIpRemove_sameButIp.mono fun _ _ => SameButIp.sound)
    ofbundleRouterIntfRemove_rifsSound (fun _ => ofbundlePortDel_rifsSound) fun _ => id

theorem bundleRemove_rifsSound : Keeps OfprotoSai.RifsSound (bundleRemove p) :=
  bundleRemove_rel (fun _ => ofbundlePortDel_rifsSound) fun _ => ofbundleDestroy_rifsSound

theorem ofbundlePortAdd_rifsSound {sPort : Option OfpPort} :
    Keeps OfprotoSai.RifsSound (ofbundlePortAdd b sPort) := by
  intro o st o' h hsound
  obtain ⟨p, port, o₁, port₁, bundle, hw, -, -, hremove, -, hb, hvlans, rfl⟩ :=
    ofbundlePortAdd_ok h
  obtain ⟨ht, -⟩ := ite_vlans_rifTables portVlansJoin_l3 hvlans
  exact (bundleRemove_rifsSound _ _ _ hremove hsound).of_eq ht
    (ite_vlans_evolves portVlansJoin_l3 hvlans).outcomes

theorem bundleApply_rifsSound : Keeps OfprotoSai.RifsSound (bundleApply b s) :=
  bundleApply_rel
    (ofbundlePortsReconfigure_rel (fun _ => ofbundlePortDel_rifsSound)
      (vlanReconfigure_sameButVlan.mono fun _ _ => SameButVlan.sound)
      fun _ => ofbundlePortAdd_rifsSound)
    ofbundleRouterIntfReconfigure_rifsSound
    (ofbundleIpReconfigure_sameButIp.mono fun _ _ => SameButIp.sound)

omit [OvsLib] [Build] in
theorem ofbundleLookupOrCreate_rifsSound {aux : Nat} :
    Keeps OfprotoSai.RifsSound (ofbundleLookupOrCreate aux s) :=
  ofbundleLookupOrCreate_rel fun _ _ _ _ hsound => hsound.of_eq rfl (List.suffix_refl _)

end

/-! ## Runs -/

/-- The invariant of runs in which no call fails. -/
structure WillingInv [OvsLib] (o : OfprotoSai) : Prop where
  sound : o.RifsSound
  locals : LocalRoutesOk o
  links : o.links.WF
  auxInj : o.AuxInj

section
variable [OvsLib] [Build] [OpenswitchIdl] {c : HostCall}

omit [Build] [OpenswitchIdl] in
theorem SameButEntries.willingInv (h : SameButEntries o o') (hlocals : LocalRoutesOk o')
    (hinv : WillingInv o) : WillingInv o' :=
  ⟨h.sound hinv.sound, hlocals, h.links ▸ hinv.links, h.evolves.auxInj hinv.auxInj⟩

theorem HostCall.run_willingInv : Keeps WillingInv c.run := by
  intro o st o' h hinv
  cases c with
  | vrf c =>
    have hlocals := VrfCall.run_localsOk _ _ _ h hinv.locals
    cases c with
    | bundle c =>
      obtain ⟨hlinks, haux⟩ := BundleCall.run_inv h ⟨hinv.links, hinv.auxInj⟩
      have hsound : Keeps OfprotoSai.RifsSound c.run :=
        BundleCall.run_rel (fun _ _ _ => ofbundleLookupOrCreate_rifsSound)
          (fun _ _ _ _ => bundleApply_rifsSound) (fun _ => ofbundleDestroy_rifsSound)
          fun _ => bundleRemove_rifsSound
      exact ⟨hsound _ _ _ h hinv.sound, hlocals, hlinks, haux⟩
    | route action routep => exact (l3RouteAction_sameButEntries _ _ _ h).willingInv hlocals hinv
  | host aux c =>
    obtain ⟨b, bundle, -, -, honly⟩ := NeighborCall.run_onlyNeighbors h
    exact (NeighborCall.run_sameButEntries _ _ _ h).willingInv
      (honly.localsShrink.ok hinv.locals) hinv

omit [Build] [OpenswitchIdl] in
theorem new_willingInv {type : OfprotoType} {vrid : Nat} {ofports : OfpPort → Option OfportSai}
    {hw : Hw} (hwill : hw.Willing) (hrifs : hw.rifTables = ⟨∅, [], []⟩)
    (hroutes : ∀ vrid pfx, hw.routes vrid pfx = none) (hnew : Unbundled ofports) :
    WillingInv (.new type vrid ofports hw) :=
  ⟨⟨hwill, show hw.rifTables.Ok from hrifs ▸ RifTables.Ok.empty⟩, new_localsOk hroutes,
    (new_inv hnew).1, (new_inv hnew).2⟩

end

end SwitchdSai
