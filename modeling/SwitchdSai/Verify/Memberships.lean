import SwitchdSai.Verify.PortAdd
import SwitchdSai.Verify.WillingRuns

/-!
# The VLANs of system ports

In a run in which the hardware takes every call, a system port is a member of VLANs of the bundle
that contains it, and of no others (`VlansInv`). So a port that is taken out of its bundle leaves
every VLAN, because `__ofbundle_port_del` leaves the VLANs of the bundle.
-/

namespace SwitchdSai

open Exec OfprotoSai

variable {o o' : OfprotoSai} {b b' : BundlePtr} {p q : OfpPort} {oid v : Nat}
  {s : OfprotoBundleSettings} {st : Int}

/-! ## The objects of system ports -/

namespace OfprotoSai

/-- The port object of a system port. -/
def systemOid (o : OfprotoSai) (p : OfpPort) : Option Nat :=
  (o.netdevs p).bind fun netdev =>
    if netdev.type = .system then some (o.hw.opsSaiApiHwId2PortId netdev.netdevSaiHwIdGet)
    else none

/-- The object of a system port is the object of no other port. -/
def OwnObjects (o : OfprotoSai) : Prop :=
  ∀ p q oid, o.systemOid p = some oid → o.portOid q = some oid → q = p

end OfprotoSai

theorem portOid_eq : o.portOid p =
    (o.netdevs p).map fun netdev => o.hw.opsSaiApiHwId2PortId netdev.netdevSaiHwIdGet := by
  simp only [OfprotoSai.portOid, OfprotoSai.netdevs, Option.map_map]
  rfl

theorem systemOid_portOid (h : o.systemOid p = some oid) : o.portOid p = some oid := by
  obtain ⟨netdev, hp, h⟩ := Option.bind_eq_some_iff.mp h
  split at h
  next => rw [portOid_eq, hp, Option.map_some, h]
  next => cases h

theorem systemOid_of_port {port : OfportSai} (hp : o.ofports p = some port) :
    o.systemOid p = if port.netdev.type = .system then
      some (o.hw.opsSaiApiHwId2PortId port.netdev.netdevSaiHwIdGet) else none := by
  rw [OfprotoSai.systemOid, OfprotoSai.netdevs, hp]
  rfl

theorem SameSetup.portOid (h : SameSetup o o') : o'.portOid = o.portOid := by
  funext p
  rw [portOid_eq, portOid_eq, h.netdevs, h.oid]

theorem SameSetup.systemOid (h : SameSetup o o') : o'.systemOid = o.systemOid := by
  unfold OfprotoSai.systemOid
  rw [h.netdevs, h.oid]

theorem SameSetup.ownObjects (h : SameSetup o o') (hown : o.OwnObjects) : o'.OwnObjects := by
  unfold OfprotoSai.OwnObjects
  rw [h.systemOid, h.portOid]
  exact hown

/-! ## Leaving the VLANs of a bundle -/

/-- What `portVlansLeave` does to the row of a port. -/
def portLeaveRow (s : VlanSettings) (row : VlanRow) : VlanRow :=
  (if s.vlan ≠ -1 then row.set (saiVlanId s.vlan) none else row).setTrunks (s.trunks.getD 0) none

theorem portVlansLeave_does (bundle : OfbundleSai) (hwId : Nat) :
    DoesRow hwId (portVlansLeave bundle hwId) (portLeaveRow bundle.vlanSettings) :=
  vlanTrunks_does (accessPortDel_does _ hwId) fun trunks => trunksPortSet_does trunks hwId false

namespace VlanSettings

variable {s : VlanSettings}

theorem WF.spec_eq_none (h : s.WF) : s.spec v = none ↔ s.hasTrunk v = false ∧ ¬s.Own v := by
  by_cases hown : s.Own v
  · simp [spec_own hown, hown]
  · rw [h.spec_other hown]
    cases s.hasTrunk v <;> simp [hown]

theorem WF.portLeaveRow_apply (h : s.WF) (row : VlanRow) :
    portLeaveRow s row v = if s.spec v = none then row v else none := by
  rw [portLeaveRow, VlanRow.setTrunks, h.set_vlan]
  show (if s.hasTrunk v = true then none else _) = _
  rw [if_congr h.spec_eq_none rfl rfl]
  cases s.hasTrunk v <;> by_cases hown : s.Own v <;> simp [hown]

theorem WF.portJoinRow_eq_none (h : s.WF) :
    portJoinRow s (fun _ => none) v = none ↔ s.spec v = none := by
  rw [h.portJoinRow_apply, h.spec_eq_none]
  cases s.hasTrunk v <;> simp

end VlanSettings

/-- A port that is added to or deleted from a bundle changes the row of its own object, if it is a
system port. -/
theorem ite_vlans_row {port : OfportSai} {m : Nat → Exec Hw Int} {f : VlanRow → VlanRow} {hw : Hw}
    (hdoes : ∀ hwId, DoesRow hwId (m hwId) f)
    (hp : o.systemOid p = if port.netdev.type = .system then
      some (o.hw.opsSaiApiHwId2PortId port.netdev.netdevSaiHwIdGet) else none)
    (h : (if port.netdev.type = .system then m port.netdev.netdevSaiHwIdGet else pure 0) o.hw =
      .ok (0, hw)) (oid : Nat) :
    (hw.ports oid).vlans = if o.systemOid p = some oid then f (o.vlanRow oid)
      else o.vlanRow oid := by
  rw [hp]
  by_cases htype : port.netdev.type = .system
  · rw [if_pos htype] at h ⊢
    refine (congrFun (congrArg VlanTable.rows (hdoes _ _ _ h)) oid).trans ?_
    by_cases hoid : oid = o.hw.opsSaiApiHwId2PortId port.netdev.netdevSaiHwIdGet
    · subst hoid
      rw [if_pos rfl]
      exact applyAt_self
    · rw [if_neg fun h => hoid (Option.some.inj h).symm]
      exact applyAt_of_ne hoid
  · rw [if_neg htype] at h ⊢
    cases h
    rw [if_neg nofun]
    rfl

/-! ## The invariant -/

/-- Bundles with ports have well-formed settings, and a system port is a member of VLANs of the
settings of its bundle only. -/
structure VlansInv (o : OfprotoSai) : Prop where
  willing : o.Willing
  links : o.links.WF
  own : o.OwnObjects
  settings : ∀ p b vs, o.links.owner p = some b → o.bundlesBy (·.vlanSettings) b = some vs → vs.WF
  rows : ∀ p oid v, o.systemOid p = some oid → o.vlanRow oid v ≠ none → ∃ b vs,
    o.links.owner p = some b ∧ o.bundlesBy (·.vlanSettings) b = some vs ∧ vs.spec v ≠ none

theorem VlansInv.of_same (h : VlansInv o) (hsetup : SameSetup o o') (hwill : o'.Willing)
    (hlinks : o'.links = o.links)
    (hset : o'.bundlesBy (·.vlanSettings) = o.bundlesBy (·.vlanSettings))
    (hrows : o'.vlanRow = o.vlanRow) : VlansInv o' := by
  refine ⟨hwill, hlinks ▸ h.links, hsetup.ownObjects h.own, ?_, ?_⟩
  · rw [hlinks, hset]
    exact h.settings
  · rw [hsetup.systemOid, hrows, hlinks, hset]
    exact h.rows

theorem SameButIp.vlansInv (h : SameButIp o o') (hI : VlansInv o) : VlansInv o' :=
  hI.of_same h.evolves.sameSetup (h.evolves.willing hI.willing) h.links
    (bundlesBy_of (k := (·.vlanSettings)) h.bundles fun _ => rfl)
    (funext fun oid => congrArg (fun t : Hw.ButRoutes => (t.ports oid).vlans) h.hw.same.1)

theorem SameButRif.vlansInv (h : SameButRif o o') (hI : VlansInv o) : VlansInv o' :=
  hI.of_same h.evolves.sameSetup (h.evolves.willing hI.willing) h.links
    (bundlesBy_of (k := (·.vlanSettings)) h.bundles fun _ => rfl)
    (funext fun oid => congrArg (fun t : Hw.L2 => (t.ports oid).vlans) h.hw.1)

theorem SameButEntries.vlansInv (h : SameButEntries o o') (hI : VlansInv o) : VlansInv o' :=
  hI.of_same h.evolves.sameSetup (h.evolves.willing hI.willing) h.links
    (bundlesBy_of (k := (·.vlanSettings)) h.bundles fun _ => rfl)
    (funext fun oid => congrArg (fun t : Hw.ButEntries => (t.ports oid).vlans) h.hw.1)

/-! ## Ports leave and join bundles -/

/-- A port that is deleted from its bundle leaves every VLAN if it is a system port, and no other
object changes. -/
theorem ofbundlePortDel_row (hI : VlansInv o) (h : ofbundlePortDel p o = .ok (st, o')) (oid : Nat) :
    o'.vlanRow oid = if o.systemOid p = some oid then fun _ => none else o.vlanRow oid := by
  obtain ⟨rfl, -⟩ := ofbundlePortDel_succeeds _ _ _ hI.willing h
  obtain ⟨port, b, bundle, hw, hp, hpb, hb, hvlans, rfl⟩ := ofbundlePortDel_ok h
  have hown : o.links.owner p = some b := (links_owner hp).trans hpb
  have hset : o.bundlesBy (·.vlanSettings) b = some bundle.vlanSettings := by simp [bundlesBy, hb]
  refine (ite_vlans_row (portVlansLeave_does bundle) (systemOid_of_port hp) hvlans oid).trans ?_
  by_cases hoid : o.systemOid p = some oid
  · rw [if_pos hoid, if_pos hoid]
    funext v
    rw [(hI.settings p b _ hown hset).portLeaveRow_apply]
    by_contra hne
    rw [ite_eq_right_iff, Classical.not_imp] at hne
    -- a membership is of a VLAN of the bundle
    obtain ⟨b', vs, hown', hset', hspec⟩ := hI.rows p oid v hoid hne.2
    obtain rfl : b = b' := Option.some.inj (hown.symm.trans hown')
    obtain rfl : bundle.vlanSettings = vs := Option.some.inj (hset.symm.trans hset')
    exact hspec hne.1
  · rw [if_neg hoid, if_neg hoid]

theorem ofbundlePortDel_vlansInv : Keeps VlansInv (ofbundlePortDel p) := by
  intro o st o' h hI
  have hsetup := (ofbundlePortDel_evolves _ _ _ h).sameSetup
  have hset : o'.bundlesBy (·.vlanSettings) = o.bundlesBy (·.vlanSettings) :=
    ofbundlePortDel_bundlesBy (fun _ _ => rfl) h
  obtain ⟨b, -, hlinks⟩ := ofbundlePortDel_links h
  have howner : ∀ {q b'}, o'.links.owner q = some b' ↔ q ≠ p ∧ o.links.owner q = some b' := by
    intro q b'
    rw [hlinks, Links.detach_owner]
    by_cases hq : q = p <;> simp [hq]
  refine ⟨(ofbundlePortDel_succeeds _ _ _ hI.willing h).2, ofbundlePortDel_wf _ _ _ h hI.links,
    hsetup.ownObjects hI.own, fun q b' vs hq hvs => ?_, fun q oid v hq hrow => ?_⟩
  · rw [hset] at hvs
    exact hI.settings q b' vs (howner.mp hq).2 hvs
  · rw [hsetup.systemOid] at hq
    rw [ofbundlePortDel_row hI h] at hrow
    split at hrow
    next => exact absurd rfl hrow
    next hp =>
      obtain ⟨b', vs, hown, hvs, hspec⟩ := hI.rows q oid v hq hrow
      refine ⟨b', vs, howner.mpr ⟨?_, hown⟩, hset ▸ hvs, hspec⟩
      rintro rfl
      exact hp hq

/-- A bundle without ports can go. -/
theorem VlansInv.erase (hI : VlansInv o) (hb : o.links.members b = some []) :
    VlansInv { o with bundles := o.bundles.erase b } := by
  have hempty : ∀ p, o.links.owner p ≠ some b := fun p hp => by
    cases (hI.links.mem_iff hb).mpr hp
  have hset : ∀ p b', o.links.owner p = some b' →
      OfprotoSai.bundlesBy { o with bundles := o.bundles.erase b } (·.vlanSettings) b' =
        o.bundlesBy (·.vlanSettings) b' := by
    intro p b' hp
    have hne : b' ≠ b := fun h => hempty p (h ▸ hp)
    simp only [bundlesBy, lookup_erase, if_neg hne]
  refine ⟨hI.willing, erase_links ▸ hI.links.remove hb, hI.own, fun p b' vs hp hvs => ?_,
    fun p oid v hp hrow => ?_⟩
  · rw [hset p b' hp] at hvs
    exact hI.settings p b' vs hp hvs
  · obtain ⟨b', vs, hown, hvs, hspec⟩ := hI.rows p oid v hp hrow
    exact ⟨b', vs, hown, (hset p b' hown).trans hvs, hspec⟩

section
variable [OvsLib] [Build]

theorem ofbundleDestroy_vlansInv : Keeps VlansInv (ofbundleDestroy b) := by
  intro o _ o' h hI
  obtain ⟨st₁, o₁, st₂, o₂, bundle, o₃, hip, hrif, hb, hports, rfl⟩ := ofbundleDestroy_ok h
  have hI₂ := (ofbundleRouterIntfRemove_sameButRif _ _ _ hrif).vlansInv
    ((ofbundleIpRemove_sameButIp _ _ _ hip).vlansInv hI)
  have hkeeps : Keeps VlansInv (forAll bundle.ports fun p => do
      let _ ← ofbundlePortDel p
      pure ()) := Rel.forAll fun _ => Rel.bind ofbundlePortDel_vlansInv fun _ => Rel.pure _
  refine (hkeeps _ _ _ hports hI₂).erase ?_
  rw [forAll_portDel_links hI₂.links (links_members hb) hports]
  exact (hI₂.links.detachAll (links_members hb)).2

theorem bundleRemove_vlansInv : Keeps VlansInv (bundleRemove p) :=
  bundleRemove_rel (fun _ => ofbundlePortDel_vlansInv) fun _ => ofbundleDestroy_vlansInv

/-- The VLAN settings of a bundle are well-formed. -/
def OfprotoSai.SettingsWF (b : BundlePtr) (o : OfprotoSai) : Prop :=
  ∀ vs, o.bundlesBy (·.vlanSettings) b = some vs → vs.WF

theorem ofbundlePortAdd_vlansInv {sPort : Option OfpPort} :
    Keeps (fun o => VlansInv o ∧ o.SettingsWF b) (ofbundlePortAdd b sPort) := by
  rintro o st o' h ⟨hI, hwf⟩
  obtain ⟨rfl, hwill⟩ := ofbundlePortAdd_succeeds _ _ _ hI.willing h
  have hl := ofbundlePortAdd_wf _ _ _ h hI.links
  have hsetup := (ofbundlePortAdd_evolves _ _ _ h).sameSetup
  obtain ⟨p, port, o₁, port₁, bundle, hw, -, hp, hremove, -, hb, hvlans, rfl⟩ :=
    ofbundlePortAdd_ok h
  -- the port has left its bundle, and with it every VLAN
  have hI₁ := bundleRemove_vlansInv _ _ _ hremove hI
  have hsetup₁ := (bundleRemove_evolves _ _ _ hremove).sameSetup
  have hset : o₁.bundlesBy (·.vlanSettings) b = some bundle.vlanSettings := by simp [bundlesBy, hb]
  have hwf₁ : bundle.vlanSettings.WF :=
    hwf _ ((bundleRemove_shrinks _ _ _ hremove).settings _ _ hset)
  have hnone : ∀ oid, o₁.systemOid p = some oid → o₁.vlanRow oid = fun _ => none := by
    intro oid hoid
    funext v
    by_contra hne
    obtain ⟨b', vs, hown, -⟩ := hI₁.rows p oid v hoid hne
    rw [bundleRemove_links hI.links hremove, Links.leave_owner, if_pos rfl] at hown
    cases hown
  have hport : o₁.systemOid p = if port.netdev.type = .system then
      some (o₁.hw.opsSaiApiHwId2PortId port.netdev.netdevSaiHwIdGet) else none := by
    rw [hsetup₁.systemOid, systemOid_of_port hp, hsetup₁.oid]
  have hrow := ite_vlans_row (fun hwId => portVlansJoin_does _ hwId) hport hvlans
  have hset' : ({ o₁ with hw := hw }.attachPort p port₁ b bundle).bundlesBy (·.vlanSettings) =
      o₁.bundlesBy (·.vlanSettings) := setBundle_bundlesBy hb rfl
  have howner : ∀ q, ({ o₁ with hw := hw }.attachPort p port₁ b bundle).links.owner q =
      if q = p then some b else o₁.links.owner q := by
    intro q
    rw [attachPort_links (o := { o₁ with hw := hw }) hb]
    exact Links.attach_owner
  refine ⟨⟨hwill, hl, hsetup.ownObjects hI.own, fun q b' vs hq hvs => ?_,
    fun q oid v hq hrow' => ?_⟩, fun vs hvs => ?_⟩
  · rw [hset'] at hvs
    rw [howner] at hq
    split at hq
    next =>
      cases hq
      exact Option.some.inj (hset.symm.trans hvs) ▸ hwf₁
    next => exact hI₁.settings q b' vs hq hvs
  · rw [hsetup.systemOid, ← hsetup₁.systemOid] at hq
    rw [show OfprotoSai.vlanRow _ oid v = (hw.ports oid).vlans v from rfl, hrow] at hrow'
    rw [howner, hset']
    by_cases hqp : q = p
    · subst hqp
      rw [if_pos hq, hnone oid hq] at hrow'
      exact ⟨b, _, if_pos rfl, hset, fun h => hrow' (hwf₁.portJoinRow_eq_none.mpr h)⟩
    · have hne : o₁.systemOid p ≠ some oid := fun h =>
        hqp (hI₁.own p q oid h (systemOid_portOid hq))
      rw [if_neg hne] at hrow'
      rw [if_neg hqp]
      exact hI₁.rows q oid v hq hrow'
  · rw [hset', hset] at hvs
    exact Option.some.inj hvs ▸ hwf₁

omit [OvsLib] [Build] in
/-- Of different ports at most one has the object of a system port. -/
theorem count_portOid_le (hown : o.OwnObjects) {ports : List OfpPort} (hnodup : ports.Nodup)
    (hq : o.systemOid q = some oid) : (ports.map o.portOid).count (some oid) ≤ 1 := by
  refine le_trans ?_ (List.nodup_iff_count_le_one.mp hnodup q)
  rw [List.count, List.countP_map]
  refine List.countP_mono_left fun p _ hp => ?_
  exact beq_iff_eq.mpr (hown q p oid hq (beq_iff_eq.mp hp))

omit [OvsLib] [Build] in
theorem mem_map_portOid (hown : o.OwnObjects) {ports : List OfpPort}
    (hq : o.systemOid q = some oid) : some oid ∈ ports.map o.portOid ↔ q ∈ ports := by
  rw [List.mem_map]
  constructor
  · rintro ⟨p, hp, hoid⟩
    exact hown q p oid hq hoid ▸ hp
  · exact fun hmem => ⟨q, hmem, systemOid_portOid hq⟩

omit [OvsLib] [Build] in
theorem vlanReconfigure_settings (h : vlanReconfigure b s o = .ok (0, o')) (b' : BundlePtr) :
    o'.bundlesBy (·.vlanSettings) b' =
      if b' = b then some s.vlanSettings else o.bundlesBy (·.vlanSettings) b' := by
  obtain ⟨bundle, o₁, o₂, -, h₁, h₂, rfl⟩ := vlanReconfigure_zero h
  have hbundles : o₂.bundles = o.bundles :=
    congrArg (·.2.2.2) ((forEachPort_tables _ _ _ _ _ h₂).trans (forEachPort_tables _ _ _ _ _ h₁))
  simp only [bundlesBy, setBundle_lookup, hbundles]
  split <;> rfl

omit [OvsLib] [Build] in
/-- Without ports a reconfiguration changes no row. -/
theorem vlanReconfigure_row_nil {bundle : OfbundleSai} (hb : o.bundles.lookup b = some bundle)
    (hports : bundle.ports = []) (h : vlanReconfigure b s o = .ok (0, o')) :
    o'.vlanRow = o.vlanRow := by
  obtain ⟨bundle', o₁, o₂, hb', h₁, h₂, rfl⟩ := vlanReconfigure_zero h
  obtain rfl : bundle' = bundle := Option.some.inj (hb'.symm.trans hb)
  rw [hports] at h₁ h₂
  cases h₁
  cases h₂
  rfl

omit [OvsLib] [Build] in
theorem vlanReconfigure_vlansInv (hwf : s.vlanSettings.WF) :
    Keeps VlansInv (vlanReconfigure b s) := by
  intro o st o' h hI
  obtain ⟨rfl, hwill⟩ := vlanReconfigure_succeeds _ _ _ hI.willing h
  have hsame := vlanReconfigure_sameButVlan _ _ _ h
  have hset := vlanReconfigure_settings h
  obtain ⟨bundle, _, _, hb, -⟩ := vlanReconfigure_zero h
  have hvs : o.bundlesBy (·.vlanSettings) b = some bundle.vlanSettings := by simp [bundlesBy, hb]
  have hports : ∀ {p}, p ∈ bundle.ports ↔ o.links.owner p = some b :=
    hI.links.mem_iff (links_members hb)
  refine ⟨hwill, hsame.links ▸ hI.links, hsame.evolves.sameSetup.ownObjects hI.own,
    fun p b' vs hp hb' => ?_, fun q oid v hq hrow => ?_⟩
  · rw [hset] at hb'
    rw [hsame.links] at hp
    split at hb'
    next =>
      cases hb'
      exact hwf
    next => exact hI.settings p b' vs hp hb'
  · rw [hsame.evolves.sameSetup.systemOid] at hq
    rw [hsame.links]
    -- a membership that was there before, of a port of this bundle or of another one
    have hold : o.vlanRow oid v ≠ none →
        (q ∈ bundle.ports ∧ bundle.vlanSettings.spec v ≠ none) ∨ ∃ b' vs,
          o.links.owner q = some b' ∧ o'.bundlesBy (·.vlanSettings) b' = some vs ∧
            vs.spec v ≠ none := by
      intro hne
      obtain ⟨b', vs, hown, hb', hspec⟩ := hI.rows q oid v hq hne
      by_cases hbb : b' = b
      · subst hbb
        obtain rfl : bundle.vlanSettings = vs := Option.some.inj (hvs.symm.trans hb')
        exact .inl ⟨hports.mpr hown, hspec⟩
      · exact .inr ⟨b', vs, hown, (hset b').trans ((if_neg hbb).trans hb'), hspec⟩
    by_cases hnil : bundle.ports = []
    · rw [vlanReconfigure_row_nil hb hnil h] at hrow
      refine (hold hrow).resolve_left fun hmem => ?_
      rw [hnil] at hmem
      cases hmem.1
    · obtain ⟨p, hp⟩ := List.exists_mem_of_ne_nil _ hnil
      have holdwf := hI.settings p b _ (hports.mp hp) hvs
      have hnodup := hI.links.nodup b _ (links_members hb)
      rw [vlanReconfigure_row hb holdwf hwf (count_portOid_le hI.own hnodup hq) h] at hrow
      simp only [mem_map_portOid hI.own hq] at hrow
      split at hrow
      next htouch => exact ⟨b, _, hports.mp htouch.1, (hset b).trans (if_pos rfl), hrow⟩
      next htouch =>
        rcases hold hrow with ⟨hmem, hspec⟩ | hother
        · refine ⟨b, _, hports.mp hmem, (hset b).trans (if_pos rfl), ?_⟩
          rwa [← VlanSettings.spec_of_not_touches fun ht => htouch ⟨hmem, ht⟩]
        · exact hother

theorem ofbundlePortsReconfigure_vlansInv (hwf : s.vlanSettings.WF) :
    Keeps VlansInv (ofbundlePortsReconfigure b s) := by
  intro o st o' h hI
  have hremoved : Keeps VlansInv (portsRemove b s) := portsRemove_rel fun _ =>
    ofbundlePortDel_vlansInv
  rcases thenOk_ok.mp h with ⟨h, -⟩ | ⟨o₁, hremove, h⟩
  · exact hremoved _ _ _ h hI
  have hI₁ := hremoved _ _ _ hremove hI
  rcases thenOk_ok.mp h with ⟨h, -⟩ | ⟨o₂, hvlan, hadd⟩
  · exact vlanReconfigure_vlansInv hwf _ _ _ h hI₁
  have hI₂ := vlanReconfigure_vlansInv hwf _ _ _ hvlan hI₁
  have hadded : Keeps (fun o => VlansInv o ∧ o.SettingsWF b) (portsAdd b s) :=
    portsAdd_rel fun _ => ofbundlePortAdd_vlansInv
  refine (hadded _ _ _ hadd ⟨hI₂, fun vs hvs => ?_⟩).1
  rw [vlanReconfigure_settings hvlan, if_pos rfl] at hvs
  exact Option.some.inj hvs ▸ hwf

theorem bundleApply_vlansInv (hwf : s.vlanSettings.WF) : Keeps VlansInv (bundleApply b s) :=
  bundleApply_rel (ofbundlePortsReconfigure_vlansInv hwf)
    (ofbundleRouterIntfReconfigure_sameButRif.mono fun _ _ => SameButRif.vlansInv)
    (ofbundleIpReconfigure_sameButIp.mono fun _ _ => SameButIp.vlansInv)

/-! ## Runs -/

omit [OvsLib] [Build] in
theorem ofbundleLookupOrCreate_vlansInv {aux : Nat} :
    Keeps VlansInv (ofbundleLookupOrCreate aux s) := by
  intro o b o' h hI
  have hsetup := ofbundleLookupOrCreate_sameSetup _ _ _ h
  rcases ofbundleLookupOrCreate_ok h with ⟨rfl, -⟩ | ⟨-, hcreate⟩
  · exact hI
  · obtain ⟨hlinks, hmem⟩ := ofbundleCreate_links hcreate
    obtain ⟨cs, hb, rfl⟩ := ofbundleCreate_ok hcreate
    have hset : ∀ p b', o.links.owner p = some b' →
        ({ o with hw := { o.hw with choices := cs } }.setBundle b (.alloc aux s.trunks)).bundlesBy
          (·.vlanSettings) b' = o.bundlesBy (·.vlanSettings) b' := by
      intro p b' hp
      obtain ⟨ports, hports, -⟩ := hI.links.exists_members hp
      have hne : b' ≠ b := by
        rintro rfl
        cases hmem.symm.trans hports
      simp only [bundlesBy, setBundle_lookup, if_neg hne]
    refine ⟨hI.willing, hlinks ▸ hI.links.create hmem, hsetup.ownObjects hI.own,
      fun p b' vs hp hvs => ?_, fun p oid v hp hrow => ?_⟩
    · rw [hlinks] at hp
      rw [hset p b' hp] at hvs
      exact hI.settings p b' vs hp hvs
    · rw [hsetup.systemOid] at hp
      obtain ⟨b', vs, hown, hvs, hspec⟩ := hI.rows p oid v hp hrow
      exact ⟨b', vs, hlinks ▸ hown, (hset p b' hown).trans hvs, hspec⟩

/-- The settings of the call are well-formed. -/
def HostCall.SettingsWF : HostCall → Prop
  | .vrf (.bundle (.set _ (some s))) => s.vlanSettings.WF
  | _ => True

variable [OpenswitchIdl]

theorem HostCall.run_vlansInv {c : HostCall} (hwf : c.SettingsWF) : Keeps VlansInv c.run := by
  cases c with
  | vrf c =>
    cases c with
    | bundle c =>
      exact BundleCall.run_rel (fun _ _ _ => ofbundleLookupOrCreate_vlansInv)
        (fun aux s b hc => bundleApply_vlansInv (by rw [hc] at hwf; exact hwf))
        (fun _ => ofbundleDestroy_vlansInv) fun _ => bundleRemove_vlansInv
    | route action routep => exact l3RouteAction_sameButEntries.mono fun _ _ h => h.vlansInv
  | host aux c => exact NeighborCall.run_sameButEntries.mono fun _ _ h => h.vlansInv

omit [OvsLib] [Build] [OpenswitchIdl] in
theorem new_vlansInv {type : OfprotoType} {vrid : Nat} {ofports : OfpPort → Option OfportSai}
    {hw : Hw} (hwill : hw.Willing) (hrows : ∀ oid, (hw.ports oid).vlans = fun _ => none)
    (hnew : Unbundled ofports) (hown : (OfprotoSai.new type vrid ofports hw).OwnObjects) :
    VlansInv (.new type vrid ofports hw) := by
  have hl : (OfprotoSai.new type vrid ofports hw).links.WF := (new_inv hnew).1
  refine ⟨hwill, hl, hown, fun _ b vs _ hvs => ?_, fun _ oid v _ hrow => ?_⟩
  · cases hvs
  · exact absurd (congrFun (hrows oid) v) hrow

end

end SwitchdSai
