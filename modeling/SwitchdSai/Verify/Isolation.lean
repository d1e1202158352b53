import SwitchdSai.Verify.Scope

/-!
# What a call on an ofproto leaves alone

Every operation on an ofproto works as a tenant of the hardware (`Within`): it changes its own
virtual router, its own router interfaces and the objects of its own ports, takes over only
interfaces that did not exist, and adds no local route through an interface of another ofproto. This
holds whatever calls into the hardware fail.
-/

namespace SwitchdSai

open Exec OfprotoSai

variable {o o' : OfprotoSai} {b : BundlePtr} {p : OfpPort} {s : OfprotoBundleSettings} {st : Int}

/-- The router interfaces of the bundles and the virtual router of an ofproto. -/
def OfprotoSai.Owns (o : OfprotoSai) : Resource → Prop
  | .rif rifid => ∃ b, o.rif b = some rifid
  | .router vrid => vrid = o.vrid

structure Within (o o' : OfprotoSai) : Prop where
  setup : SameSetup o o'
  tenant : Tenant o.Owns o'.Owns o.hw.content o'.hw.content
  vrids : o.hw.VridsFrom o.vrid o'.hw
  locals : ∀ pfx rif, o'.hw.routes o.vrid pfx = some (.local rif) →
    o.hw.routes o.vrid pfx = some (.local rif) ∨ o.Owns (.rif rif) ∨ rif ∉ o.hw.routerIntfs
  ports : ∀ oid, (∀ p, o.portOid p ≠ some oid) → o'.hw.ports oid = o.hw.ports oid

/-- An interface that existed and was not owned is neither gone nor taken over. -/
theorem Within.foreign (h : Within o o') {rif : Nat} (hin : rif ∈ o.hw.routerIntfs)
    (hown : ¬o.Owns (.rif rif)) : rif ∈ o'.hw.routerIntfs ∧ ¬o'.Owns (.rif rif) := by
  have hsome := content_rif_isSome.2 hin
  refine ⟨content_rif_isSome.1 (h.tenant.others _ hsome hown ▸ hsome), fun hown' => ?_⟩
  refine (h.tenant.taken _ hown').elim hown fun hnone => ?_
  rw [hnone] at hsome
  cases hsome

instance : IsPreorder OfprotoSai Within where
  refl o := ⟨refl_of _ _, .refl _ _, refl_of _ _, fun _ _ => .inl, fun _ _ => rfl⟩
  trans o o₁ o₂ h h' := by
    have hv := h.setup.vrid
    refine ⟨trans_of _ h.setup h'.setup, h.tenant.trans h'.tenant,
      trans_of _ h.vrids (hv ▸ h'.vrids), fun pfx rif hr => ?_, fun oid ho => ?_⟩
    · rcases h'.locals pfx rif (hv ▸ hr) with hr | hnew
      · exact h.locals pfx rif (hv ▸ hr)
      · refine .inr ?_
        by_contra hold
        obtain ⟨hown, hin⟩ := not_or.mp hold
        obtain ⟨hin₁, hown₁⟩ := h.foreign (not_not.mp hin) hown
        exact hnew.elim hown₁ fun hnot => hnot hin₁
    · have ho₁ : ∀ p, o₁.portOid p ≠ some oid := h.setup.portOid ▸ ho
      exact (h'.ports oid ho₁).trans (h.ports oid ho)

/-! ## Ways to be within -/

theorem sameSetup_setHw {hw : Hw} (h : hw.opsSaiApiHwId2PortId = o.hw.opsSaiApiHwId2PortId) :
    SameSetup o { o with hw := hw } := ⟨rfl, rfl, rfl, h⟩

theorem owns_mono (hv : o'.vrid = o.vrid) (hr : ∀ b rif, o'.rif b = some rif → o.rif b = some rif)
    (r : Resource) (h : o'.Owns r) : o.Owns r := by
  cases r with
  | rif rifid =>
    obtain ⟨b, hb⟩ := h
    exact ⟨b, hr b rifid hb⟩
  | router vrid => exact (show vrid = o'.vrid from h).trans hv

/-- Changes of ports of the ofproto. -/
theorem within_of_l3 (hs : SameSetup o o')
    (hr : ∀ b rif, o'.rif b = some rif → o.rif b = some rif) (hl3 : o'.hw.l3 = o.hw.l3)
    (hp : ∀ oid, (∀ p, o.portOid p ≠ some oid) → o'.hw.ports oid = o.hw.ports oid) :
    Within o o' := by
  have hintfs : o'.hw.routerIntfs = o.hw.routerIntfs := congrArg Hw.L3.routerIntfs hl3
  have hroutes : o'.hw.routes = o.hw.routes := congrArg Hw.L3.routes hl3
  have hneighbors : o'.hw.neighbors = o.hw.neighbors := congrArg Hw.L3.neighbors hl3
  have hentries : o'.hw.allRouterIntf = o.hw.allRouterIntf := congrArg Hw.L3.allRouterIntf hl3
  have hcontent : o'.hw.content = o.hw.content := by
    funext r
    cases r with
    | rif rifid =>
      refine content_rif_of_eq (by rw [hintfs]) (by rw [hneighbors]) ?_
      unfold Hw.routerIntfEntryFind
      rw [hentries]
    | router vrid => exact content_router_of_eq (by rw [hroutes])
  refine ⟨hs, (Tenant.of_eq hcontent rfl).giveUp (owns_mono hs.vrid hr), fun rif intf h => ?_,
    fun pfx rif h => .inl (hroutes ▸ h), hp⟩
  exact .inr ⟨intf, hintfs ▸ h, rfl⟩

/-- Changes of routes of the ofproto. -/
theorem within_of_routes (hs : SameSetup o o')
    (hr : ∀ b rif, o'.rif b = some rif → o.rif b = some rif)
    (hw : o.hw.RoutesWithin (fun rif => o.Owns (.rif rif)) o.vrid o'.hw) : Within o o' := by
  have hsame := hw.same
  simp only [Hw.butRoutes, Hw.ButRoutes.mk.injEq] at hsame
  obtain ⟨-, hports, hintfs, -, hneighbors, hentries⟩ := hsame
  refine ⟨hs, ⟨fun r _ hown => ?_, fun r h => .inl (owns_mono hs.vrid hr r h)⟩,
    fun rif intf h => .inr ⟨intf, hintfs ▸ h, rfl⟩,
    fun pfx rif h => (hw.locals pfx rif h).imp_right .inl, fun oid _ => by rw [hports]⟩
  cases r with
  | rif rifid =>
    refine content_rif_of_eq (by rw [hintfs]) (by rw [hneighbors]) ?_
    unfold Hw.routerIntfEntryFind
    rw [hentries]
  | router vrid => exact content_router_of_eq (hw.other hown)

/-- Changes of interfaces that are owned, and creations. -/
theorem within_of_rifs {S : Nat → Prop} (hs : SameSetup o o')
    (hr : ∀ rif, o'.Owns (.rif rif) → o.Owns (.rif rif) ∨ rif ∉ o.hw.routerIntfs)
    (hw : o.hw.RifsWithin S o.vrid o'.hw)
    (hS : ∀ rif ∈ o.hw.routerIntfs, ¬o.Owns (.rif rif) → S rif) : Within o o' := by
  refine ⟨hs, ⟨fun r hsome hown => ?_, fun r h => ?_⟩, hw.vrids, fun pfx rif h => ?_,
    fun oid _ => ?_⟩
  · cases r with
    | rif rifid =>
      have hin := content_rif_isSome.1 hsome
      exact hw.kept rifid (hS rifid hin hown) hin
    | router vrid => exact content_router_of_eq (by rw [hw.routes])
  · cases r with
    | rif rifid =>
      refine (hr rifid h).imp_right fun hnot => ?_
      exact Option.not_isSome_iff_eq_none.mp (content_rif_isSome.not.mpr hnot)
    | router vrid => exact .inl ((show vrid = o'.vrid from h).trans hs.vrid)
  · rw [hw.routes] at h
    exact .inl h
  · exact congrFun (congrArg Hw.L2.ports hw.l2) oid

theorem choose_within : Rel Within (onHw Hw.choose) :=
  onHw_rel fun _ _ _ h => by
    cases h
    exact within_of_l3 (sameSetup_setHw rfl) (fun _ _ => id) rfl fun _ _ => rfl

theorem modifyBundle_within {f : OfbundleSai → OfbundleSai} (h : ∀ x, (f x).rif = x.rif) :
    Rel Within (modifyBundle b f) := modifyBundle_rel fun o bundle hb => by
  refine within_of_l3 ⟨rfl, rfl, rfl, rfl⟩ (fun b' rif hr => ?_) rfl fun _ _ => rfl
  rw [setBundle_rif] at hr
  split at hr
  next hbb =>
    subst hbb
    rw [rif_of_lookup hb, ← h]
    exact hr
  next => exact hr

theorem walkTable_within {α : Type} {table : List α} : Rel Within (walkTable table) :=
  Rel.bind choose_within fun _ => Rel.pure _

/-- What happens to an ofproto with the virtual router `v`. -/
def WithinAt (v : Nat) (o o' : OfprotoSai) : Prop := o.vrid = v → Within o o'

instance {v : Nat} : IsPreorder OfprotoSai (WithinAt v) where
  refl _ _ := refl_of _ _
  trans _ _ _ h h' hv := trans_of _ (h hv) (h' ((h hv).setup.vrid.trans hv))

theorem vrid_within {α : Type} {k : Nat → Exec OfprotoSai α} (hk : ∀ v, Rel (WithinAt v) (k v)) :
    Rel Within (do
      let vrid ← gets OfprotoSai.vrid
      k vrid) := fun o a o' h => by
  rw [gets_bind] at h
  exact hk o.vrid o a o' h rfl

theorem Rel.withinAt {α : Type} {m : Exec OfprotoSai α} {v : Nat} (h : Rel Within m) :
    Rel (WithinAt v) m := h.mono fun _ _ h _ => h

/-- A function on routes, called for the virtual router of the ofproto. -/
theorem onHw_routes_within {m : Exec Hw Int} {v : Nat}
    (hm : ∀ S, Rel (Hw.RoutesWithin S v) m) : Rel (WithinAt v) (onHw m) := by
  rintro o st o' h rfl
  obtain ⟨hw, hhw, rfl⟩ := onHw_ok.mp h
  have hwithin := hm (fun rif => o.Owns (.rif rif)) _ _ _ hhw
  exact within_of_routes (sameSetup_setHw (congrArg Hw.ButRoutes.oid hwithin.same))
    (fun _ _ => id) hwithin

/-! ## Ports and VLANs -/

/-- VLANs of a port of the ofproto. -/
theorem setPortVlans_within {port : OfportSai} {hw : Hw} (hp : o.ofports p = some port)
    (hl3 : hw.l3 = o.hw.l3)
    (hw' : o.hw.PortWithin port.netdev.netdevSaiHwIdGet hw) :
    Within o { o with hw := hw } := by
  refine within_of_l3 (sameSetup_setHw hw'.oid) (fun _ _ => id) hl3 fun oid ho => ?_
  refine hw'.others oid fun h => ho p ?_
  rw [OfprotoSai.portOid, hp, h]
  rfl

theorem ite_vlans_within {c : Prop} [Decidable c] {m : Nat → Exec Hw Int} {port : OfportSai}
    {hw : Hw} (hp : o.ofports p = some port) (hl3 : ∀ hwId, Rel (Hw.Same Hw.l3) (m hwId))
    (hm : ∀ hwId, Rel (Hw.PortWithin hwId) (m hwId))
    (h : (if c then m port.netdev.netdevSaiHwIdGet else pure 0) o.hw = .ok (st, hw)) :
    Within o { o with hw := hw } :=
  setPortVlans_within hp (Rel.ite (hl3 _) (Rel.pure 0) _ _ _ h).1
    (Rel.ite (hm _) (Rel.pure 0) _ _ _ h)

theorem forEachPort_within {ports : List OfpPort} {f : Nat → Exec Hw Int}
    (hl3 : ∀ hwId, Rel (Hw.Same Hw.l3) (f hwId)) (hf : ∀ hwId, Rel (Hw.PortWithin hwId) (f hwId)) :
    Rel Within (forEachPort ports f) := by
  refine Rel.forEach fun p o st o' h => ?_
  obtain ⟨port, hp, h⟩ := ofport_bind.mp h
  obtain ⟨hw, hhw, rfl⟩ := onHw_ok.mp h
  exact setPortVlans_within hp (hl3 _ _ _ _ hhw).1 (hf _ _ _ _ hhw)

theorem vlanReconfigure_within : Rel Within (vlanReconfigure b s) := by
  refine (ofbundle_rel b).bind fun bundle => (Rel.require _ _).bind fun _ => ?_
  refine (forEachPort_within (fun _ => vlanPortLeave_l3) fun _ => vlanPortLeave_within).thenOk ?_
  refine (forEachPort_within (fun _ => vlanPortJoin_l3) fun _ => vlanPortJoin_within).thenOk ?_
  refine Rel.bind (modifyBundle_within fun bundle => ?_) fun _ => Rel.pure _
  unfold OfbundleSai.trunksRealloc
  split <;> rfl

/-- Only a port and its bundle have changed, but not the interface of the bundle. -/
theorem setPort_setBundle_within {port : OfportSai} {bundle : OfbundleSai} (port' : OfportSai)
    (bundle' : OfbundleSai) (hp : o.ofports p = some port) (hnet : port'.netdev = port.netdev)
    (hb : o.bundles.lookup b = some bundle) (hr : bundle'.rif = bundle.rif) :
    Within o ((o.setBundle b bundle').setPort p port') := by
  refine within_of_l3 ⟨rfl, rfl, ?_, rfl⟩ (fun b' rif h => ?_) rfl fun _ _ => rfl
  · funext q
    by_cases hq : q = p
    · subst hq
      simp [OfprotoSai.netdevs, OfprotoSai.setPort, OfprotoSai.setBundle, hp, hnet]
    · simp [OfprotoSai.netdevs, OfprotoSai.setPort, OfprotoSai.setBundle, hq]
  · change (o.setBundle b bundle').rif b' = some rif at h
    rw [setBundle_rif] at h
    split at h
    next hbb =>
      subst hbb
      rw [rif_of_lookup hb, ← hr]
      exact h
    next => exact h

theorem ofbundlePortDel_within : Rel Within (ofbundlePortDel p) := by
  intro o st o' h
  obtain ⟨port, b, bundle, hw, hp, -, hb, hvlans, rfl⟩ := ofbundlePortDel_ok h
  exact trans_of _ (ite_vlans_within hp (fun _ => portVlansLeave_l3)
    (fun _ => portVlansLeave_within) hvlans) (setPort_setBundle_within { port with bundle := none }
      { bundle with ports := bundle.ports.erase p } hp rfl hb rfl)

/-! ## IP addresses -/

section
variable [OvsLib] [Build] {isIpv6 ipv6Prefix : Bool} {ip : String}

omit [Build] in
theorem ofprotoIpAdd_within : Rel Within (ofprotoIpAdd ip isIpv6) :=
  ofprotoIpPrefix_rel.bind fun _ => vrid_within fun _ =>
    onHw_routes_within fun _ => opsSaiRouteIpToMeAdd_within

theorem ofprotoIpRemove_within : Rel Within (ofprotoIpRemove ip isIpv6) :=
  ofprotoIpPrefix_rel.bind fun _ => vrid_within fun _ =>
    onHw_routes_within fun _ => opsSaiRouteRemove_within

omit [OvsLib] [Build] in
theorem setPrimary_within {new : Option String} :
    Rel Within (modifyBundle b (OfbundleSai.setPrimary isIpv6 new)) :=
  modifyBundle_within fun _ => by cases isIpv6 <;> rfl

omit [OvsLib] [Build] in
theorem setSecondary_within {f : OfbundleSai → List String} :
    Rel Within (modifyBundle b fun bundle => bundle.setSecondary isIpv6 (f bundle)) :=
  modifyBundle_within fun _ => by cases isIpv6 <;> rfl

theorem ipPrimaryReconfigure_within {new : Option String} :
    Rel Within (ipPrimaryReconfigure b isIpv6 new) := by
  refine (ofbundle_rel b).bind fun bundle => Rel.thenOk ?_ ?_
  · cases bundle.primary isIpv6 with
    | none => exact Rel.pure _
    | some old =>
      exact (Rel.pure _).ite (Rel.thenOk ofprotoIpRemove_within
        (Rel.bind setPrimary_within fun _ => Rel.pure _))
  · cases new with
    | none => exact Rel.pure _
    | some ip =>
      exact Rel.thenOk ofprotoIpAdd_within (Rel.bind setPrimary_within fun _ => Rel.pure _)

theorem ipSecondaryRemove_within : Rel Within (ipSecondaryRemove b isIpv6 ipv6Prefix ip) :=
  Rel.thenOk ofprotoIpRemove_within (Rel.bind setSecondary_within fun _ => Rel.pure _)

theorem ofbundleIpSecondaryReconfigure_within :
    Rel Within (ofbundleIpSecondaryReconfigure b s isIpv6) := by
  refine (ofbundle_rel b).bind fun _ => Rel.bind walkTable_within fun _ =>
    Rel.bind walkTable_within fun _ =>
    Rel.thenOk (Rel.forEach fun ip => ?_) (Rel.forEach fun ip => ?_)
  · exact (Rel.pure _).ite ipSecondaryRemove_within
  · refine (ofbundle_rel b).bind fun _ => (Rel.pure _).ite ?_
    exact Rel.thenOk ofprotoIpAdd_within (Rel.bind setSecondary_within fun _ => Rel.pure _)

theorem ofbundleIpReconfigure_within : Rel Within (ofbundleIpReconfigure b s) :=
  ofbundleIpReconfigure_rel (fun _ _ => ipPrimaryReconfigure_within)
    fun _ => ofbundleIpSecondaryReconfigure_within

theorem ipPrimaryRemove_within : Rel Within (ipPrimaryRemove b isIpv6) := by
  refine (ofbundle_rel b).bind fun bundle => ?_
  cases bundle.primary isIpv6 with
  | none => exact Rel.pure _
  | some ip => exact ofprotoIpRemove_within

theorem ofbundleIpRemove_within : Rel Within (ofbundleIpRemove b) := by
  have hsecondary : ∀ isIpv6, Rel Within (ipSecondaryRemoveAll b isIpv6) := fun _ =>
    (ofbundle_rel b).bind fun _ => Rel.bind walkTable_within fun _ =>
      Rel.forEach fun _ => ipSecondaryRemove_within
  exact Rel.thenOk ipPrimaryRemove_within (Rel.thenOk ipPrimaryRemove_within
    ((hsecondary _).thenOk (hsecondary _)))

/-! ## Router interfaces -/

omit [OvsLib] [Build] in
theorem setRouterIntfHandle_within {h : Option BundlePtr} :
    Rel Within (netdevSaiSetRouterIntfHandle p h) := by
  refine (ofport_rel p).bind fun _ => (Rel.require _ _).bind fun _ =>
    Rel.bind (modifyPort_rel fun o port hp => ?_) fun _ => Rel.pure _
  refine within_of_l3 ⟨rfl, rfl, ?_, rfl⟩ (fun _ _ => id) rfl fun _ _ => rfl
  refine netdevs_of_butRif fun q => ?_
  by_cases hq : q = p
  · subst hq
    simp only [setPort, Function.update_self, hp, Option.map_some, OfportSai.butRif]
  · simp only [setPort, Function.update_of_ne hq]

theorem localRoutesRemove_within : Rel Within (localRoutesRemove b) := by
  refine (ofbundle_rel b).bind fun _ => vrid_within fun v => ?_
  refine (Rel.withinAt walkTable_within).bind fun _ => Rel.forEach fun _ => ?_
  refine (onHw_routes_within fun _ => opsSaiRouteRemove_within).thenOk ?_
  exact Rel.bind (Rel.withinAt (modifyBundle_within fun _ => rfl)) fun _ => Rel.pure _

omit [OvsLib] [Build] in
/-- A bundle gives up its interface. -/
theorem giveUp_within {bundle : OfbundleSai} {hw : Hw} (hb : o.bundles.lookup b = some bundle)
    (hc : bundle.routerIntf.created = true)
    (h : opsSaiRouterIntfRemove bundle.routerIntf.rifid o.hw = .ok (st, hw)) :
    Within o { o with hw := hw } ∧
      Within o (OfprotoSai.setBundle b { bundle with routerIntf := .zero }
        { o with hw := hw }) := by
  have hown : o.Owns (.rif bundle.routerIntf.rifid) :=
    ⟨b, (rif_of_lookup hb).trans (if_pos hc)⟩
  have hwithin : Hw.RifsWithin (fun rif => ¬o.Owns (.rif rif)) o.vrid o.hw hw :=
    opsSaiRouterIntfRemove_within (not_not.mpr hown) _ _ _ h
  have hsetup := sameSetup_setHw (congrArg Hw.L2.oid hwithin.l2)
  refine ⟨within_of_rifs hsetup (fun _ => .inl) hwithin fun _ _ => id, ?_⟩
  refine within_of_rifs (S := fun rif => ¬o.Owns (.rif rif)) ?_ (fun rif h => .inl ?_) hwithin
    fun _ _ => id
  · exact ⟨hsetup.type, hsetup.vrid, hsetup.netdevs, hsetup.oid⟩
  · obtain ⟨b', hb'⟩ := h
    rw [setBundle_rif] at hb'
    split at hb'
    next => cases hb'
    next => exact ⟨b', hb'⟩

theorem ofbundleRouterIntfRemove_within : Rel Within (ofbundleRouterIntfRemove b) := by
  intro o st o' h
  rcases ofbundleRouterIntfRemove_ok h with ⟨hfail, -⟩ | ⟨o₁, bundle, hlocal, hb, hrest⟩
  · exact localRoutesRemove_within _ _ _ hfail
  refine trans_of _ (localRoutesRemove_within _ _ _ hlocal) ?_
  rcases hrest with ⟨-, -, rfl⟩ | ⟨hc, o₂, hw, hclear, hhw, hend⟩
  · exact refl_of _ _
  refine trans_of _ (Rel.forEach (fun _ => setRouterIntfHandle_within) _ _ _ hclear) ?_
  have hframe : Frame (fun o => (o.vrid, o.bundles, o.hw)) (forEach bundle.ports fun p =>
      netdevSaiSetRouterIntfHandle p none) := Rel.forEach fun _ => setRouterIntfHandle_frame
  have hbundles : o₂.bundles = o₁.bundles := congrArg (fun t => t.2.1) (hframe _ _ _ hclear)
  obtain ⟨hfailed, hremoved⟩ := giveUp_within (hbundles ▸ hb) hc hhw
  rcases hend with ⟨-, rfl⟩ | ⟨-, rfl⟩
  · exact hfailed
  · exact hremoved

omit [OvsLib] [Build] in
theorem routerIntfCreate_within {rifType : RouterIntfType} {handle : Nat} :
    Rel Within (routerIntfCreate b rifType handle) := by
  intro o st o' h
  obtain ⟨bundle, rifid, hw, hb, hhw, hend⟩ := routerIntfCreate_ok h
  have hwithin := opsSaiRouterIntfCreate_within _ _ _ hhw
  have hsetup := sameSetup_setHw (congrArg Hw.L2.oid hwithin.l2)
  rcases hend with ⟨-, rfl⟩ | ⟨h0, hset⟩
  · exact within_of_rifs hsetup (fun _ => .inl) hwithin fun _ hin _ => hin
  refine trans_of _ ?_ (Rel.forEach (fun _ => setRouterIntfHandle_within) _ _ _ hset)
  have hnew := ((opsSaiRouterIntfCreate_ok hhw).1 h0).1
  refine within_of_rifs ?_ (fun rif h => ?_) hwithin fun _ hin _ => hin
  · exact ⟨hsetup.type, hsetup.vrid, hsetup.netdevs, hsetup.oid⟩
  · obtain ⟨b', hb'⟩ := h
    rw [setBundle_rif] at hb'
    split at hb'
    next =>
      cases hb'
      exact .inr hnew
    next => exact .inl ⟨b', hb'⟩

omit [OvsLib] [Build] in
theorem routerIntfEnable_within {enable : Bool} : Rel Within (routerIntfEnable b enable) := by
  intro o st o' h
  obtain ⟨bundle, hb, h⟩ := ofbundle_bind.mp h
  split at h
  next hc =>
    rw [Bool.and_eq_true] at hc
    have hown : o.Owns (.rif bundle.routerIntf.rifid) :=
      ⟨b, (rif_of_lookup hb).trans (if_pos hc.1)⟩
    have hstate : ∀ st o', onHw (opsSaiRouterIntfSetState bundle.routerIntf.rifid enable) o =
        .ok (st, o') → Within o o' := by
      intro st o' h
      obtain ⟨hw, hhw, rfl⟩ := onHw_ok.mp h
      have hwithin : Hw.RifsWithin (fun rif => ¬o.Owns (.rif rif)) o.vrid o.hw hw :=
        opsSaiRouterIntfSetState_within (not_not.mpr hown) _ _ _ hhw
      exact within_of_rifs (sameSetup_setHw (congrArg Hw.L2.oid hwithin.l2)) (fun _ => .inl)
        hwithin fun _ _ => id
    rcases thenOk_ok.mp h with ⟨hfail, -⟩ | ⟨o₁, hset, hend⟩
    · exact hstate _ _ hfail
    · refine trans_of _ (hstate _ _ hset) ?_
      refine Rel.bind (modifyBundle_within fun _ => ?_) (fun _ => Rel.pure _) _ _ _ hend
      rfl
  next =>
    cases h
    exact refl_of _ _

theorem ofbundleRouterIntfReconfigure_within :
    Rel Within (ofbundleRouterIntfReconfigure b s) :=
  ofbundleRouterIntfReconfigure_rel
    (fun _ _ => routerIntfApply_rel ofbundleRouterIntfRemove_within routerIntfCreate_within
      routerIntfEnable_within)
    (modifyBundle_within fun _ => rfl)

/-! ## The operations on bundles -/

theorem ofbundleDestroy_within : Rel Within (ofbundleDestroy b) := by
  refine ofbundleDestroy_rel ofbundleIpRemove_within ofbundleRouterIntfRemove_within
    (fun _ => ofbundlePortDel_within) fun o => ?_
  refine within_of_l3 ⟨rfl, rfl, rfl, rfl⟩ (fun b' rif h => ?_) rfl fun _ _ => rfl
  rw [OfprotoSai.rif, lookup_erase] at h
  split at h
  next => cases h
  next => exact h

theorem bundleRemove_within : Rel Within (bundleRemove p) :=
  bundleRemove_rel (fun _ => ofbundlePortDel_within) fun _ => ofbundleDestroy_within

theorem ofbundlePortAdd_within {sPort : Option OfpPort} : Rel Within (ofbundlePortAdd b sPort) := by
  intro o st o' h
  obtain ⟨p, port, o₁, port₁, bundle, hw, -, hp, hremove, hp₁, hb, hvlans, rfl⟩ :=
    ofbundlePortAdd_ok h
  have hwithin := bundleRemove_within _ _ _ hremove
  have hattach : Within { o₁ with hw := hw } _ := setPort_setBundle_within
    { port₁ with bundle := some b } { bundle with ports := bundle.ports ++ [p] } hp₁ rfl hb rfl
  refine trans_of _ hwithin (trans_of _ ?_ hattach)
  have hid : port₁.netdev.netdevSaiHwIdGet = port.netdev.netdevSaiHwIdGet := by
    have hnet := congrFun hwithin.setup.netdevs p
    rw [OfprotoSai.netdevs, OfprotoSai.netdevs, hp, hp₁] at hnet
    simp only [Option.map_some, Option.some.injEq, NetdevSai.mk.injEq] at hnet
    simp only [NetdevSai.netdevSaiHwIdGet, hnet]
  rw [← hid] at hvlans
  exact ite_vlans_within hp₁ (fun _ => portVlansJoin_l3) (fun _ => portVlansJoin_within) hvlans

theorem bundleApply_within : Rel Within (bundleApply b s) :=
  bundleApply_rel (ofbundlePortsReconfigure_rel (fun _ => ofbundlePortDel_within)
    vlanReconfigure_within fun _ => ofbundlePortAdd_within)
    ofbundleRouterIntfReconfigure_within ofbundleIpReconfigure_within

omit [OvsLib] [Build] in
theorem ofbundleLookupOrCreate_within {aux : Nat} :
    Rel Within (ofbundleLookupOrCreate aux s) := by
  refine ofbundleLookupOrCreate_rel fun o b cs _ => ?_
  refine within_of_l3 ⟨rfl, rfl, rfl, rfl⟩ (fun b' rif h => ?_) rfl fun _ _ => rfl
  rw [setBundle_rif] at h
  split at h
  next => cases h
  next => exact h

/-! ## The operations on routes and host entries -/

omit [Build] in
theorem l3LocalRouteAdd_within {pfx : String} : Rel Within (l3LocalRouteAdd b pfx) := by
  intro o st o' h
  obtain ⟨bundle, hw, hb, hc, hadd, rfl⟩ := l3LocalRouteAdd_ok h
  have hwithin := opsSaiRouteLocalAdd_within (S := fun rif => o.Owns (.rif rif))
    ⟨b, (rif_of_lookup hb).trans (if_pos hc)⟩ _ _ _ hadd
  have hsetup := sameSetup_setHw (congrArg Hw.ButRoutes.oid hwithin.same)
  refine within_of_routes ⟨hsetup.type, hsetup.vrid, hsetup.netdevs, hsetup.oid⟩
    (fun b' rif hr => ?_) hwithin
  rw [setBundle_rif] at hr
  split at hr
  next hbb =>
    subst hbb
    exact (rif_of_lookup hb).trans hr
  next => exact hr

theorem l3LocalRouteDelete_within {pfx : String} : Rel Within (l3LocalRouteDelete b pfx) := by
  refine (ofbundle_rel b).bind fun _ => vrid_within fun v => Rel.ite (Rel.thenOk ?_ ?_) (Rel.pure _)
  · exact onHw_routes_within fun _ => opsSaiRouteRemove_within
  · exact Rel.bind (Rel.withinAt (modifyBundle_within fun _ => rfl)) fun _ => Rel.pure _

theorem l3RemoteRouteAction_within {action : OfprotoRouteAction} {pfx : String}
    {nextHops : List String} : Rel Within (l3RemoteRouteAction action pfx nextHops) := by
  refine vrid_within fun v => ?_
  cases action with
  | add =>
    refine onHw_routes_within fun _ => (Rel.require _ _).bind fun _ => (Rel.require _ _).bind
      fun _ => routeRemoteAction_within.bind fun _ => Rel.pure _
  | deleteNh =>
    exact onHw_routes_within fun _ => routeRemoteAction_within.bind fun _ => Rel.pure _
  | delete => exact onHw_routes_within fun _ => opsSaiRouteRemove_within
  | unknown => exact Rel.pure _

theorem l3RouteAction_within {action : OfprotoRouteAction} {routep : OfprotoRoute} :
    Rel Within (l3RouteAction action routep) := by
  refine (Rel.pure _).ite ?_
  split
  next => exact (Rel.require _ _).bind fun _ => l3RemoteRouteAction_within
  next =>
    exact l3LocalRouteAction_rel choose_within (fun _ => l3LocalRouteAdd_within)
      fun _ => l3LocalRouteDelete_within
  next => exact Rel.pure _
  next => exact Rel.halt _

omit [Build] in
theorem NeighborCall.run_within {aux : Nat} {c : NeighborCall} : Rel Within (c.run aux) := by
  intro o st o' h
  obtain ⟨b, bundle, hf, hc, honly⟩ := NeighborCall.run_onlyNeighbors h
  have hsame := NeighborCall.run_sameButEntries _ _ _ h
  have hrif : o'.bundlesBy (·.rif) = o.bundlesBy (·.rif) :=
    bundlesBy_of (k := (·.rif)) honly.bundles fun _ => rfl
  have hown : o.Owns (.rif bundle.routerIntf.rifid) :=
    ⟨b, (rif_of_lookup hf.2).trans (if_pos hc)⟩
  refine ⟨hsame.evolves.sameSetup, ⟨fun r _ hnot => ?_, fun r hr => .inl ?_⟩, fun rif intf hi => ?_,
    fun pfx rif hr => .inl (honly.hw.routes ▸ hr), fun oid _ => ?_⟩
  · cases r with
    | rif rifid =>
      have hne : rifid ≠ bundle.routerIntf.rifid := fun h => hnot (h ▸ hown)
      refine content_rif_of_eq (by rw [honly.hw.routerIntfs]) (honly.hw.neighbors rifid hne) ?_
      unfold Hw.routerIntfEntryFind
      rw [show o'.hw.allRouterIntf = _ from congrArg Hw.ButEntries.allRouterIntf hsame.hw.1]
      rfl
    | router vrid => exact content_router_of_eq (by rw [honly.hw.routes])
  · refine owns_mono honly.vrid (fun b' rif h => ?_) r hr
    rwa [rif_bundlesBy, hrif, ← rif_bundlesBy] at h
  · exact .inr ⟨intf, honly.hw.routerIntfs ▸ hi, rfl⟩
  · exact congrFun (congrArg Hw.ButEntries.ports hsame.hw.1) oid

theorem HostCall.run_within [OpenswitchIdl] {c : HostCall} : Rel Within c.run := by
  cases c with
  | vrf c =>
    cases c with
    | bundle c =>
      exact BundleCall.run_rel (fun _ _ _ => ofbundleLookupOrCreate_within)
        (fun _ _ _ _ => bundleApply_within) (fun _ => ofbundleDestroy_within)
        fun _ => bundleRemove_within
    | route action routep => exact l3RouteAction_within
  | host aux c => exact NeighborCall.run_within

end

/-! ## Bundles of the system ofproto

An ofproto that is no VRF has no virtual router of its own: its `vrid` is what the memory was zeroed
to. Its bundles never get an interface, a route or an address, so that no call on them works on the
virtual router of this number. -/

/-- A bundle with nothing that belongs to a virtual router. -/
structure OfbundleSai.L3Free (bundle : OfbundleSai) : Prop where
  created : bundle.routerIntf.created = false
  localRoutes : bundle.localRoutes = []
  primary : ∀ isIpv6, bundle.primary isIpv6 = none
  secondary : ∀ isIpv6, bundle.secondary isIpv6 = []

structure OfprotoSai.Bridging (o : OfprotoSai) : Prop where
  type : o.type = .system
  free : ∀ b bundle, o.bundles.lookup b = some bundle → bundle.L3Free

/-- A bridging ofproto stays one, and only ports of the hardware change. -/
def Quiet (o o' : OfprotoSai) : Prop := o.Bridging → o'.Bridging ∧ o'.hw.l3 = o.hw.l3

instance : IsPreorder OfprotoSai Quiet where
  refl _ h := ⟨h, rfl⟩
  trans _ _ _ h h' ho := by
    obtain ⟨ho₁, hl3⟩ := h ho
    obtain ⟨ho₂, hl3'⟩ := h' ho₁
    exact ⟨ho₂, hl3'.trans hl3⟩

theorem quiet_of (ht : o'.type = o.type) (hl3 : o'.hw.l3 = o.hw.l3)
    (hb : ∀ b bundle', o'.bundles.lookup b = some bundle' → bundle'.L3Free ∨
      ∃ bundle, o.bundles.lookup b = some bundle ∧ (bundle.L3Free → bundle'.L3Free)) :
    Quiet o o' := fun ho => by
  refine ⟨⟨ht.trans ho.type, fun b bundle' hb' => ?_⟩, hl3⟩
  rcases hb b bundle' hb' with hfree | ⟨bundle, hold, himp⟩
  · exact hfree
  · exact himp (ho.free b bundle hold)

/-- The list of ports of a bundle has changed. -/
theorem quiet_setPorts {bundle : OfbundleSai} {ports : List OfpPort}
    (hb : o.bundles.lookup b = some bundle) (ht : o'.type = o.type) (hl3 : o'.hw.l3 = o.hw.l3)
    (ho : o'.bundles = (o.setBundle b { bundle with ports := ports }).bundles) : Quiet o o' := by
  have h : bundle.L3Free → OfbundleSai.L3Free { bundle with ports := ports } := fun hfree =>
    ⟨hfree.created, hfree.localRoutes, hfree.primary, hfree.secondary⟩
  refine quiet_of ht hl3 fun b' x hx => ?_
  rw [ho, setBundle_lookup] at hx
  split at hx
  next hbb =>
    cases hx
    subst hbb
    exact .inr ⟨bundle, hb, h⟩
  next => exact .inr ⟨x, hx, id⟩

theorem quiet_setHw {hw : Hw} (hl3 : hw.l3 = o.hw.l3) : Quiet o { o with hw := hw } :=
  quiet_of rfl hl3 fun _ bundle hb => .inr ⟨bundle, hb, id⟩

theorem vlanReconfigure_quiet : Rel Quiet (vlanReconfigure b s) := fun o _ o' h => by
  have hsame := vlanReconfigure_sameButVlan _ _ _ h
  refine quiet_of hsame.type hsame.hw.1 fun b bundle' hb' => .inr ?_
  have hmap := congrFun hsame.bundles b
  rw [bundlesBy, bundlesBy, hb', Option.map_some] at hmap
  obtain ⟨bundle, hb, heq⟩ := Option.map_eq_some_iff.mp hmap.symm
  refine ⟨bundle, hb, fun hfree => ?_⟩
  simp only [OfbundleSai.butVlan, OfbundleSai.mk.injEq] at heq
  obtain ⟨-, -, -, -, -, hrif, h4, h6, hs4, hs6, hlocals, -⟩ := heq
  refine ⟨hrif ▸ hfree.created, hlocals ▸ hfree.localRoutes, fun isIpv6 => ?_, fun isIpv6 => ?_⟩
  · rw [← hfree.primary isIpv6]
    cases isIpv6
    · exact h4.symm
    · exact h6.symm
  · rw [← hfree.secondary isIpv6]
    cases isIpv6
    · exact hs4.symm
    · exact hs6.symm

theorem ofbundlePortDel_quiet : Rel Quiet (ofbundlePortDel p) := by
  intro o st o' h
  obtain ⟨port, b, bundle, hw, hp, -, hb, hvlans, rfl⟩ := ofbundlePortDel_ok h
  have hl3 := (Rel.ite portVlansLeave_l3 (Rel.pure 0) _ _ _ hvlans).1
  exact quiet_setPorts hb rfl hl3 rfl

section
variable [OvsLib] [Build]

theorem ipPrimaryRemove_quiet {isIpv6 : Bool} : Rel Quiet (ipPrimaryRemove b isIpv6) := by
  intro o st o' h ho
  obtain ⟨bundle, hb, h⟩ := ofbundle_bind.mp h
  rw [(ho.free b bundle hb).primary isIpv6] at h
  cases h
  exact ⟨ho, rfl⟩

theorem ipSecondaryRemoveAll_quiet {isIpv6 : Bool} : Rel Quiet (ipSecondaryRemoveAll b isIpv6) := by
  intro o st o' h ho
  obtain ⟨bundle, hb, h⟩ := ofbundle_bind.mp h
  rw [(ho.free b bundle hb).secondary isIpv6] at h
  obtain ⟨ips, o₁, hwalk, h⟩ := bind_ok.mp h
  obtain ⟨hperm, cs, rfl⟩ := walkTable_ok hwalk
  rw [hperm.eq_nil] at h
  cases h
  exact quiet_setHw rfl ho

theorem ofbundleRouterIntfRemove_quiet : Rel Quiet (ofbundleRouterIntfRemove b) := by
  intro o st o' h ho
  have hlocal : ∀ {st o'}, localRoutesRemove b o = .ok (st, o') → st = 0 ∧
      ∃ cs, o' = { o with hw := { o.hw with choices := cs } } := by
    intro st o' h
    obtain ⟨bundle, hb, -⟩ := ofbundle_bind.mp h
    exact localRoutesRemove_nil hb (ho.free b bundle hb).localRoutes h
  rcases ofbundleRouterIntfRemove_ok h with ⟨hfail, h0⟩ | ⟨o₁, bundle, hremove, hb, hrest⟩
  · exact absurd (hlocal hfail).1 h0
  obtain ⟨-, cs, rfl⟩ := hlocal hremove
  rcases hrest with ⟨-, -, rfl⟩ | ⟨hc, -⟩
  · exact quiet_setHw rfl ho
  · have hcreated := (ho.free b bundle hb).created
    rw [hc] at hcreated
    cases hcreated

theorem ofbundleDestroy_quiet : Rel Quiet (ofbundleDestroy b) := by
  have hip : Rel Quiet (ofbundleIpRemove b) :=
    Rel.thenOk ipPrimaryRemove_quiet (Rel.thenOk ipPrimaryRemove_quiet
      (Rel.thenOk ipSecondaryRemoveAll_quiet ipSecondaryRemoveAll_quiet))
  refine ofbundleDestroy_rel hip ofbundleRouterIntfRemove_quiet (fun _ => ofbundlePortDel_quiet)
    fun o => quiet_of rfl rfl fun b' bundle hb => .inr ⟨bundle, ?_, id⟩
  rw [lookup_erase] at hb
  split at hb
  next => cases hb
  next => exact hb

theorem bundleRemove_quiet : Rel Quiet (bundleRemove p) :=
  bundleRemove_rel (fun _ => ofbundlePortDel_quiet) fun _ => ofbundleDestroy_quiet

theorem ofbundlePortAdd_quiet {sPort : Option OfpPort} : Rel Quiet (ofbundlePortAdd b sPort) := by
  intro o st o' h
  obtain ⟨p, port, o₁, port₁, bundle, hw, -, -, hremove, -, hb, hvlans, rfl⟩ :=
    ofbundlePortAdd_ok h
  have hl3 := (Rel.ite portVlansJoin_l3 (Rel.pure 0) _ _ _ hvlans).1
  refine trans_of _ (bundleRemove_quiet _ _ _ hremove) ?_
  exact quiet_setPorts hb rfl hl3 rfl

/-- The settings of a bundle are applied to its ports alone. -/
theorem bundleApply_quiet : Rel Quiet (bundleApply b s) := by
  refine Rel.thenOk (ofbundlePortsReconfigure_rel (fun _ => ofbundlePortDel_quiet)
    vlanReconfigure_quiet fun _ => ofbundlePortAdd_quiet) ((Rel.pure _).ite ?_)
  intro o st o' h ho
  rw [gets_bind, if_neg (by rw [ho.type]; decide)] at h
  cases h
  exact ⟨ho, rfl⟩

theorem BundleCall.run_quiet [OpenswitchIdl] {c : BundleCall} : Rel Quiet c.run := by
  refine BundleCall.run_rel (fun _ s _ => ofbundleLookupOrCreate_rel fun o b cs _ => ?_)
    (fun _ _ _ _ => bundleApply_quiet) (fun _ => ofbundleDestroy_quiet) fun _ => bundleRemove_quiet
  refine quiet_of rfl rfl fun b' x hx => ?_
  rw [setBundle_lookup] at hx
  split at hx
  next =>
    cases hx
    exact .inl ⟨rfl, rfl, fun v6 => by cases v6 <;> rfl, fun v6 => by cases v6 <;> rfl⟩
  next => exact .inr ⟨x, hx, id⟩

end

end SwitchdSai
