import SwitchdSai.Verify.Memberships

/-!
# The VLANs of ports are those of their bundles

In a run in which the hardware takes every call, the row of a system port fits the settings of its
bundle. There are two ways to fit, and both are kept by the same steps (`RowRule`): the port is a
member of the VLANs of the settings, whatever the tagging; and, when the trunks of all settings
agree with the mode about the native VLAN, the row is the one that the settings ask for.
-/

namespace SwitchdSai

open Exec OfprotoSai

/-! ## Rows that fit -/

/-- A way for the row of a port to fit settings. Adding a port that is in no VLAN to a bundle with
admissible settings leaves a row that fits, and reconfiguring a row that fits leaves one that fits
the new settings. -/
structure RowRule where
  fits : VlanSettings → VlanRow → Prop
  /-- The settings that ports are added to. -/
  ok : VlanSettings → Prop
  join : ∀ vs, vs.WF → ok vs → fits vs (portJoinRow vs fun _ => none)
  touch : ∀ old new row, fits old row →
    fits new fun v => if old.Touches new v then new.spec v else row v

/-- The port is a member of the VLANs of the settings. -/
def RowRule.members : RowRule where
  fits vs row := ∀ v, row v = none ↔ vs.spec v = none
  ok _ := True
  join _ hwf _ _ := hwf.portJoinRow_eq_none
  touch old new row h v := by
    dsimp only
    split
    next => exact Iff.rfl
    next ht => rw [h v, VlanSettings.spec_of_not_touches ht]

/-- The row is the one that the settings ask for. -/
def RowRule.exact : RowRule where
  fits vs row := row = vs.spec
  ok := VlanSettings.NativeAgrees
  join _ hwf hok := hwf.portJoinRow_eq_spec.mpr hok
  touch old new row h := by
    funext v
    rw [h]
    split
    next => rfl
    next ht => exact VlanSettings.spec_of_not_touches ht

/-! ## The invariant -/

/-- The row of a system port in a bundle fits the settings of the bundle. -/
structure VlansFit (r : RowRule) (o : OfprotoSai) : Prop extends VlansInv o where
  fits : ∀ p oid b vs, o.systemOid p = some oid → o.links.owner p = some b →
    o.bundlesBy (·.vlanSettings) b = some vs → r.fits vs (o.vlanRow oid)

section
variable {r : RowRule} {o o' : OfprotoSai} {b : BundlePtr} {p : OfpPort}
  {s : OfprotoBundleSettings} {st : Int}

theorem VlansFit.of_same (h : VlansFit r o) (hinv : VlansInv o') (hsetup : SameSetup o o')
    (hlinks : o'.links = o.links)
    (hset : o'.bundlesBy (·.vlanSettings) = o.bundlesBy (·.vlanSettings))
    (hrows : o'.vlanRow = o.vlanRow) : VlansFit r o' := by
  refine ⟨hinv, ?_⟩
  rw [hsetup.systemOid, hlinks, hset, hrows]
  exact h.fits

theorem SameButIp.vlansFit (h : SameButIp o o') (hF : VlansFit r o) : VlansFit r o' :=
  hF.of_same (h.vlansInv hF.toVlansInv) h.evolves.sameSetup h.links
    (bundlesBy_of (k := (·.vlanSettings)) h.bundles fun _ => rfl)
    (funext fun oid => congrArg (fun t : Hw.ButRoutes => (t.ports oid).vlans) h.hw.same.1)

theorem SameButRif.vlansFit (h : SameButRif o o') (hF : VlansFit r o) : VlansFit r o' :=
  hF.of_same (h.vlansInv hF.toVlansInv) h.evolves.sameSetup h.links
    (bundlesBy_of (k := (·.vlanSettings)) h.bundles fun _ => rfl)
    (funext fun oid => congrArg (fun t : Hw.L2 => (t.ports oid).vlans) h.hw.1)

theorem SameButEntries.vlansFit (h : SameButEntries o o') (hF : VlansFit r o) : VlansFit r o' :=
  hF.of_same (h.vlansInv hF.toVlansInv) h.evolves.sameSetup h.links
    (bundlesBy_of (k := (·.vlanSettings)) h.bundles fun _ => rfl)
    (funext fun oid => congrArg (fun t : Hw.ButEntries => (t.ports oid).vlans) h.hw.1)

/-! ## Ports leave and join bundles -/

/-- The object of a system port is not that of another one. -/
theorem VlansInv.systemOid_ne (hI : VlansInv o) {q : OfpPort} {oid : Nat} (hne : q ≠ p)
    (hq : o.systemOid q = some oid) : o.systemOid p ≠ some oid :=
  fun hp => hne (hI.own p q oid hp (systemOid_portOid hq))

theorem ofbundlePortDel_vlansFit : Keeps (VlansFit r) (ofbundlePortDel p) := by
  intro o st o' h hF
  have hsetup := (ofbundlePortDel_evolves _ _ _ h).sameSetup
  have hset : o'.bundlesBy (·.vlanSettings) = o.bundlesBy (·.vlanSettings) :=
    ofbundlePortDel_bundlesBy (fun _ _ => rfl) h
  obtain ⟨b, -, hlinks⟩ := ofbundlePortDel_links h
  refine ⟨ofbundlePortDel_vlansInv _ _ _ h hF.toVlansInv, fun q oid b' vs hq hown hvs => ?_⟩
  rw [hlinks, Links.detach_owner] at hown
  rw [hsetup.systemOid] at hq
  rw [hset] at hvs
  split at hown
  next => cases hown
  next hne =>
    rw [ofbundlePortDel_row hF.toVlansInv h, if_neg (hF.systemOid_ne hne hq)]
    exact hF.fits q oid b' vs hq hown hvs

theorem VlansFit.erase (hF : VlansFit r o) (hb : o.links.members b = some []) :
    VlansFit r { o with bundles := o.bundles.erase b } := by
  refine ⟨hF.toVlansInv.erase hb, fun p oid b' vs hp hown hvs => ?_⟩
  have hown : o.links.owner p = some b' := hown
  have hne : b' ≠ b := by
    rintro rfl
    cases (hF.links.mem_iff hb).mpr hown
  simp only [bundlesBy, lookup_erase, if_neg hne] at hvs
  exact hF.fits p oid b' vs hp hown hvs

section
variable [OvsLib] [Build]

theorem ofbundleDestroy_vlansFit : Keeps (VlansFit r) (ofbundleDestroy b) := by
  intro o _ o' h hF
  obtain ⟨st₁, o₁, st₂, o₂, bundle, o₃, hip, hrif, hb, hports, rfl⟩ := ofbundleDestroy_ok h
  have hF₂ := (ofbundleRouterIntfRemove_sameButRif _ _ _ hrif).vlansFit
    ((ofbundleIpRemove_sameButIp _ _ _ hip).vlansFit hF)
  have hkeeps : Keeps (VlansFit r) (forAll bundle.ports fun p => do
      let _ ← ofbundlePortDel p
      pure ()) := Rel.forAll fun _ => Rel.bind ofbundlePortDel_vlansFit fun _ => Rel.pure _
  refine (hkeeps _ _ _ hports hF₂).erase ?_
  rw [forAll_portDel_links hF₂.links (links_members hb) hports]
  exact (hF₂.links.detachAll (links_members hb)).2

theorem bundleRemove_vlansFit : Keeps (VlansFit r) (bundleRemove p) :=
  bundleRemove_rel (fun _ => ofbundlePortDel_vlansFit) fun _ => ofbundleDestroy_vlansFit

/-- A port that is added to a bundle first leaves its own, and with it every VLAN. -/
theorem ofbundlePortAdd_rows {sPort : Option OfpPort} (hI : VlansInv o)
    (h : ofbundlePortAdd b sPort o = .ok (st, o')) : ∃ p o₁ vs, bundleRemove p o = .ok ((), o₁) ∧
      (∀ q, o'.links.owner q = if q = p then some b else o₁.links.owner q) ∧
      o₁.bundlesBy (·.vlanSettings) b = some vs ∧
      o'.bundlesBy (·.vlanSettings) = o₁.bundlesBy (·.vlanSettings) ∧
      ∀ oid, o'.vlanRow oid =
        if o₁.systemOid p = some oid then portJoinRow vs fun _ => none else o₁.vlanRow oid := by
  obtain ⟨rfl, -⟩ := ofbundlePortAdd_succeeds _ _ _ hI.willing h
  obtain ⟨p, port, o₁, port₁, bundle, hw, -, hp, hremove, -, hb, hvlans, rfl⟩ :=
    ofbundlePortAdd_ok h
  have hI₁ := bundleRemove_vlansInv _ _ _ hremove hI
  have hsetup₁ := (bundleRemove_evolves _ _ _ hremove).sameSetup
  refine ⟨p, o₁, bundle.vlanSettings, hremove, fun q => ?_, by simp [bundlesBy, hb],
    setBundle_bundlesBy hb rfl, fun oid => ?_⟩
  · rw [attachPort_links (o := { o₁ with hw := hw }) hb]
    exact Links.attach_owner
  · have hport : o₁.systemOid p = if port.netdev.type = .system then
        some (o₁.hw.opsSaiApiHwId2PortId port.netdev.netdevSaiHwIdGet) else none := by
      rw [hsetup₁.systemOid, systemOid_of_port hp, hsetup₁.oid]
    have hrow := ite_vlans_row (fun hwId => portVlansJoin_does _ hwId) hport hvlans oid
    refine hrow.trans ?_
    split
    next hoid =>
      have hnone : o₁.vlanRow oid = fun _ => none := by
        funext v
        by_contra hne
        obtain ⟨b', vs, hown, -⟩ := hI₁.rows p oid v hoid hne
        rw [bundleRemove_links hI.links hremove, Links.leave_owner, if_pos rfl] at hown
        cases hown
      rw [hnone]
      rfl
    next => rfl

/-- The settings of a bundle are well-formed and admissible. -/
def OfprotoSai.SettingsOk (ok : VlanSettings → Prop) (b : BundlePtr) (o : OfprotoSai) : Prop :=
  ∀ vs, o.bundlesBy (·.vlanSettings) b = some vs → vs.WF ∧ ok vs

theorem ofbundlePortAdd_vlansFit {sPort : Option OfpPort} :
    Keeps (fun o => VlansFit r o ∧ o.SettingsOk r.ok b) (ofbundlePortAdd b sPort) := by
  rintro o st o' h ⟨hF, hok⟩
  have hsetup := (ofbundlePortAdd_evolves _ _ _ h).sameSetup
  have hinv := ofbundlePortAdd_vlansInv _ _ _ h ⟨hF.toVlansInv, fun vs hvs => (hok vs hvs).1⟩
  obtain ⟨p, o₁, vs, hremove, howner, hvs, hset, hrow⟩ := ofbundlePortAdd_rows hF.toVlansInv h
  have hF₁ := bundleRemove_vlansFit _ _ _ hremove hF
  have hsetup₁ := (bundleRemove_evolves _ _ _ hremove).sameSetup
  obtain ⟨hwf, hok₁⟩ := hok vs ((bundleRemove_shrinks _ _ _ hremove).settings _ _ hvs)
  refine ⟨⟨hinv.1, fun q oid b' vs' hq hown hvs' => ?_⟩, fun vs' hvs' => ?_⟩
  · rw [hsetup.systemOid, ← hsetup₁.systemOid] at hq
    rw [howner] at hown
    rw [hset] at hvs'
    rw [hrow]
    by_cases hqp : q = p
    · subst hqp
      rw [if_pos rfl, Option.some.injEq] at hown
      subst hown
      obtain rfl : vs = vs' := Option.some.inj (hvs.symm.trans hvs')
      rw [if_pos hq]
      exact r.join vs hwf hok₁
    · rw [if_neg hqp] at hown
      rw [if_neg (hF₁.systemOid_ne hqp hq)]
      exact hF₁.fits q oid b' vs' hq hown hvs'
  · rw [hset, hvs] at hvs'
    exact Option.some.inj hvs' ▸ ⟨hwf, hok₁⟩

/-! ## Reconfigurations -/

omit [OvsLib] [Build] in
theorem vlanReconfigure_vlansFit (hwf : s.vlanSettings.WF) :
    Keeps (VlansFit r) (vlanReconfigure b s) := by
  intro o st o' h hF
  have hinv := vlanReconfigure_vlansInv hwf _ _ _ h hF.toVlansInv
  obtain ⟨rfl, -⟩ := vlanReconfigure_succeeds _ _ _ hF.willing h
  have hsame := vlanReconfigure_sameButVlan _ _ _ h
  obtain ⟨bundle, _, _, hb, -⟩ := vlanReconfigure_zero h
  have hvs : o.bundlesBy (·.vlanSettings) b = some bundle.vlanSettings := by simp [bundlesBy, hb]
  have hports : ∀ {p}, p ∈ bundle.ports ↔ o.links.owner p = some b :=
    hF.links.mem_iff (links_members hb)
  refine ⟨hinv, fun q oid b' vs hq hown hvs' => ?_⟩
  rw [hsame.evolves.sameSetup.systemOid] at hq
  rw [hsame.links] at hown
  rw [vlanReconfigure_settings h] at hvs'
  -- the row of a port, when the bundle has ports
  have hrow : ∀ p ∈ bundle.ports, o'.vlanRow oid = fun v =>
      if q ∈ bundle.ports ∧ bundle.vlanSettings.Touches s.vlanSettings v then s.vlanSettings.spec v
      else o.vlanRow oid v := by
    intro p hp
    funext v
    have hold := hF.settings p b _ (hports.mp hp) hvs
    have hnodup := hF.links.nodup b _ (links_members hb)
    rw [vlanReconfigure_row hb hold hwf (count_portOid_le hF.own hnodup hq) h]
    simp only [mem_map_portOid hF.own hq]
  by_cases hbb : b' = b
  · subst hbb
    rw [if_pos rfl, Option.some.injEq] at hvs'
    subst hvs'
    have hq' : q ∈ bundle.ports := hports.mpr hown
    rw [hrow q hq']
    simp only [hq', true_and]
    exact r.touch _ _ _ (hF.fits q oid b' _ hq hown hvs)
  · rw [if_neg hbb] at hvs'
    have hq' : q ∉ bundle.ports := fun hmem =>
      hbb (Option.some.inj (hown.symm.trans (hports.mp hmem)))
    have hsame : o'.vlanRow oid = o.vlanRow oid := by
      rcases List.eq_nil_or_concat bundle.ports with hnil | ⟨ports, p, hp⟩
      · rw [vlanReconfigure_row_nil hb hnil h]
      · rw [hrow p (by simp [hp])]
        simp only [hq', false_and, if_false]
    rw [hsame]
    exact hF.fits q oid b' vs hq hown hvs'

theorem ofbundlePortsReconfigure_vlansFit (hwf : s.vlanSettings.WF) (hok : r.ok s.vlanSettings) :
    Keeps (VlansFit r) (ofbundlePortsReconfigure b s) := by
  intro o st o' h hF
  have hremoved : Keeps (VlansFit r) (portsRemove b s) := portsRemove_rel fun _ =>
    ofbundlePortDel_vlansFit
  rcases thenOk_ok.mp h with ⟨h, -⟩ | ⟨o₁, hremove, h⟩
  · exact hremoved _ _ _ h hF
  have hF₁ := hremoved _ _ _ hremove hF
  rcases thenOk_ok.mp h with ⟨h, -⟩ | ⟨o₂, hvlan, hadd⟩
  · exact vlanReconfigure_vlansFit hwf _ _ _ h hF₁
  have hF₂ := vlanReconfigure_vlansFit hwf _ _ _ hvlan hF₁
  have hadded : Keeps (fun o => VlansFit r o ∧ o.SettingsOk r.ok b) (portsAdd b s) :=
    portsAdd_rel fun _ => ofbundlePortAdd_vlansFit
  refine (hadded _ _ _ hadd ⟨hF₂, fun vs hvs => ?_⟩).1
  rw [vlanReconfigure_settings hvlan, if_pos rfl] at hvs
  exact Option.some.inj hvs ▸ ⟨hwf, hok⟩

theorem bundleApply_vlansFit (hwf : s.vlanSettings.WF) (hok : r.ok s.vlanSettings) :
    Keeps (VlansFit r) (bundleApply b s) :=
  bundleApply_rel (ofbundlePortsReconfigure_vlansFit hwf hok)
    (ofbundleRouterIntfReconfigure_sameButRif.mono fun _ _ => SameButRif.vlansFit)
    (ofbundleIpReconfigure_sameButIp.mono fun _ _ => SameButIp.vlansFit)

/-! ## Runs -/

omit [OvsLib] [Build] in
theorem ofbundleLookupOrCreate_vlansFit {aux : Nat} :
    Keeps (VlansFit r) (ofbundleLookupOrCreate aux s) := by
  intro o b o' h hF
  have hinv := ofbundleLookupOrCreate_vlansInv _ _ _ h hF.toVlansInv
  have hsetup := ofbundleLookupOrCreate_sameSetup _ _ _ h
  rcases ofbundleLookupOrCreate_ok h with ⟨rfl, -⟩ | ⟨-, hcreate⟩
  · exact hF
  obtain ⟨hlinks, hmem⟩ := ofbundleCreate_links hcreate
  obtain ⟨cs, hb, rfl⟩ := ofbundleCreate_ok hcreate
  refine ⟨hinv, fun p oid b' vs hp hown hvs => ?_⟩
  rw [hlinks] at hown
  rw [hsetup.systemOid] at hp
  obtain ⟨ports, hports, -⟩ := hF.links.exists_members hown
  have hne : b' ≠ b := by
    rintro rfl
    cases hmem.symm.trans hports
  simp only [bundlesBy, setBundle_lookup, if_neg hne] at hvs
  exact hF.fits p oid b' vs hp hown hvs

/-- The settings of the call are well-formed and admissible. -/
def HostCall.SettingsOk (ok : VlanSettings → Prop) : HostCall → Prop
  | .vrf (.bundle (.set _ (some s))) => s.vlanSettings.WF ∧ ok s.vlanSettings
  | _ => True

variable [OpenswitchIdl]

theorem HostCall.run_vlansFit {c : HostCall} (hok : c.SettingsOk r.ok) :
    Keeps (VlansFit r) c.run := by
  cases c with
  | vrf c =>
    cases c with
    | bundle c =>
      refine BundleCall.run_rel (fun _ _ _ => ofbundleLookupOrCreate_vlansFit)
        (fun aux s b hc => ?_) (fun _ => ofbundleDestroy_vlansFit) fun _ => bundleRemove_vlansFit
      rw [hc] at hok
      exact bundleApply_vlansFit hok.1 hok.2
    | route action routep => exact l3RouteAction_sameButEntries.mono fun _ _ h => h.vlansFit
  | host aux c => exact NeighborCall.run_sameButEntries.mono fun _ _ h => h.vlansFit

end

end

end SwitchdSai
