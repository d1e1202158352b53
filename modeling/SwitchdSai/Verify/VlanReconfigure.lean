import SwitchdSai.Verify.Ofproto
import SwitchdSai.Verify.Vlan

/-!
# Reconfiguring the VLANs of a bundle

`VlanSettings.spec` is the VLAN row that settings ask for. `__vlan_reconfigure` changes the row of
each port by `joinRow` after `leaveRow`, and this sets what the change from the old settings to the
new ones touches (`joinRow_leaveRow_apply`).
-/

namespace SwitchdSai

open Exec OfprotoSai

/-- The VLAN configuration that a bundle holds or that settings ask for. -/
structure VlanSettings where
  vlanMode : PortVlanMode
  vlan : Int
  trunks : Option VlanBitmap

def OfbundleSai.vlanSettings (bundle : OfbundleSai) : VlanSettings :=
  ⟨bundle.vlanMode, bundle.vlan, bundle.trunks⟩

def OfprotoBundleSettings.vlanSettings (s : OfprotoBundleSettings) : VlanSettings :=
  ⟨s.vlanMode, s.vlan, s.trunks⟩

namespace VlanSettings

/-- Whether `v` is one of the trunks; without a bitmap there are none. -/
def hasTrunk (s : VlanSettings) (v : Nat) : Bool := (s.trunks.getD 0).getLsbD v

/-- Well-formed settings: an access or native VLAN is a 12-bit number, a trunk port has the VLAN -1
and an access port has no trunks. -/
def WF (s : VlanSettings) : Prop :=
  match s.vlanMode with
  | .access => 0 ≤ s.vlan ∧ s.vlan < 4096 ∧ s.trunks.getD 0 = 0
  | .trunk => s.vlan = -1
  | .nativeUntagged | .nativeTagged => 0 ≤ s.vlan ∧ s.vlan < 4096

/-- The row that the settings ask for. -/
def spec (s : VlanSettings) : VlanRow := fun v =>
  match s.vlanMode with
  | .access => if (v : Int) = s.vlan then some .untagged else none
  | .trunk => if s.hasTrunk v then some .tagged else none
  | .nativeUntagged =>
    if (v : Int) = s.vlan then some .untagged else if s.hasTrunk v then some .tagged else none
  | .nativeTagged =>
    if (v : Int) = s.vlan then some .tagged else if s.hasTrunk v then some .tagged else none

end VlanSettings

/-! ## One port -/

/-- The VLAN number that the functions for the mode compute from `vlan`. -/
def modeVid (mode : PortVlanMode) (vlan : Int) : Nat :=
  if mode = .nativeTagged then vlan.toNat else saiVlanId vlan

/-- What `vlanPortLeave` does to the row of a port. -/
def leaveRow (old : VlanSettings) (changed : Bool) (removed : VlanBitmap) (row : VlanRow) :
    VlanRow :=
  let row := if old.vlanMode ≠ .trunk ∧ changed then
    row.set (modeVid old.vlanMode old.vlan) none else row
  if old.vlanMode = .access then row else row.setTrunks removed none

/-- What `vlanPortJoin` does to the row of a port. -/
def joinRow (new : VlanSettings) (changed : Bool) (added : VlanBitmap) (row : VlanRow) :
    VlanRow :=
  let row := if new.vlanMode ≠ .trunk ∧ changed then
    row.set (modeVid new.vlanMode new.vlan)
      (some (if new.vlanMode = .nativeTagged then .tagged else .untagged)) else row
  if new.vlanMode = .access then row else row.setTrunks added (some .tagged)

theorem vlanPortLeave_does (bundle : OfbundleSai) (changed : Bool) (removed : VlanBitmap)
    (hwId : Nat) :
    DoesRow hwId (vlanPortLeave bundle changed removed hwId)
      (leaveRow bundle.vlanSettings changed removed) := by
  have htrunks := trunksPortSet_does removed hwId false
  have haccess := accessPortDel_does (saiVlanId bundle.vlan) hwId
  have hnative := nativeTaggedVlanSet_does bundle.vlan hwId false
  unfold vlanPortLeave leaveRow
  cases hm : bundle.vlanMode <;> cases changed <;>
    simp only [OfbundleSai.vlanSettings, hm, modeVid, Bool.false_eq_true, if_false, if_true,
      reduceCtorEq, ne_eq, not_true, not_false_iff, and_false, and_true]
  case access.false => exact DoesRow.pure
  case access.true => exact haccess
  case trunk.false | trunk.true => exact htrunks
  case nativeTagged.false | nativeUntagged.false => exact DoesRow.thenOk DoesRow.pure htrunks
  case nativeTagged.true => exact hnative.thenOk htrunks
  case nativeUntagged.true => exact haccess.thenOk htrunks

theorem vlanPortJoin_does (s : OfprotoBundleSettings) (changed : Bool) (added : VlanBitmap)
    (hwId : Nat) :
    DoesRow hwId (vlanPortJoin s changed added hwId)
      (joinRow s.vlanSettings changed added) := by
  have htrunks := trunksPortSet_does added hwId true
  have haccess := accessPortAdd_does (saiVlanId s.vlan) hwId
  have hnative := nativeTaggedVlanSet_does s.vlan hwId true
  unfold vlanPortJoin joinRow
  cases hm : s.vlanMode <;> cases changed <;>
    simp only [OfprotoBundleSettings.vlanSettings, hm, modeVid, Bool.false_eq_true, if_false,
      if_true, reduceCtorEq, ne_eq, not_true, not_false_iff, and_false, and_true]
  case access.false => exact DoesRow.pure
  case access.true => exact haccess
  case trunk.false | trunk.true => exact htrunks
  case nativeTagged.false | nativeUntagged.false => exact DoesRow.thenOk DoesRow.pure htrunks
  case nativeTagged.true => exact hnative.thenOk htrunks
  case nativeUntagged.true => exact haccess.thenOk htrunks

/-! ## The bitmaps of added and removed trunks -/

theorem changedTrunks_removed (bundle : OfbundleSai) (s : OfprotoBundleSettings) (v : Nat) :
    (changedTrunks bundle s).2.getLsbD v = true ↔
      bundle.vlanSettings.hasTrunk v = true ∧ s.vlanSettings.hasTrunk v = false ∧
        ¬(bundle.vlanSettings.vlanMode.native = true ∧ v = bundle.vlanSettings.vlan.toNat) := by
  by_cases hv : v < 4096
  · simp only [changedTrunks, VlanSettings.hasTrunk, OfbundleSai.vlanSettings,
      OfprotoBundleSettings.vlanSettings]
    cases bundle.vlanMode.native <;>
      simp only [Bool.false_eq_true, if_false, if_true, VlanBitmap.getLsbD_set0,
        BitVec.getLsbD_not, BitVec.getLsbD_or, BitVec.getLsbD_and, hv] <;>
      cases (s.trunks.getD 0).getLsbD v <;> cases (bundle.trunks.getD 0).getLsbD v <;> simp
  · have h0 : ∀ b : VlanBitmap, b.getLsbD v = false :=
      fun b => BitVec.getLsbD_of_ge b v (by omega)
    simp [h0, VlanSettings.hasTrunk]

theorem changedTrunks_added (bundle : OfbundleSai) (s : OfprotoBundleSettings) (v : Nat) :
    (changedTrunks bundle s).1.getLsbD v = true ↔
      s.vlanSettings.hasTrunk v = true ∧
        (bundle.vlanSettings.hasTrunk v = false ∨
          bundle.vlanSettings.vlanMode.native = true ∧ v = bundle.vlanSettings.vlan.toNat) ∧
        ¬(s.vlanSettings.vlanMode.native = true ∧ v = s.vlanSettings.vlan.toNat) := by
  by_cases hv : v < 4096
  · have hany : ∀ i, s.trunks.any (·.getLsbD i) = (s.trunks.getD 0).getLsbD i := by
      intro i
      cases s.trunks <;> simp
    have hset0 : ∀ (b : VlanBitmap) (c : Bool) (i : Nat),
        (if c = true then b.set0 i else b).getLsbD v = (b.getLsbD v && !(c && decide (v = i))) := by
      intro b c i
      cases c <;> simp
    have hset1 : ∀ (b : VlanBitmap) (c : Bool) (i : Nat),
        (if c = true then b.set1 i else b).getLsbD v = (b.getLsbD v || (c && decide (v = i))) := by
      intro b c i
      cases c
      · simp
      · rw [if_pos rfl, VlanBitmap.getLsbD_set1]
        simp only [hv, decide_true, Bool.true_and]
    simp only [changedTrunks, VlanSettings.hasTrunk, OfbundleSai.vlanSettings,
      OfprotoBundleSettings.vlanSettings, hany, hset0, hset1, BitVec.getLsbD_not,
      BitVec.getLsbD_or, BitVec.getLsbD_and, hv, decide_true]
    by_cases hvb : v = bundle.vlan.toNat
    · rw [← hvb]
      cases bundle.vlanMode.native <;> cases (s.trunks.getD 0).getLsbD v <;>
        cases (bundle.trunks.getD 0).getLsbD v <;> grind
    · cases (s.trunks.getD 0).getLsbD v <;> cases (bundle.trunks.getD 0).getLsbD v <;> grind
  · have h0 : ∀ b : VlanBitmap, b.getLsbD v = false :=
      fun b => BitVec.getLsbD_of_ge b v (by omega)
    simp [h0, VlanSettings.hasTrunk]

/-! ## From the old row to the new row -/

namespace VlanSettings

variable {s : VlanSettings} {v : Nat}

/-- The settings have a VLAN of their own besides the trunks, and it is `v`. -/
def Own (s : VlanSettings) (v : Nat) : Prop := s.vlanMode ≠ .trunk ∧ (v : Int) = s.vlan

instance : Decidable (s.Own v) := inferInstanceAs (Decidable (_ ∧ _))

/-- The mode in which a port is a member of the VLAN of the settings. -/
def ownMode (s : VlanSettings) : SaiVlanTaggingMode :=
  if s.vlanMode = .nativeTagged then .tagged else .untagged

theorem WF.range (h : s.WF) (hm : s.vlanMode ≠ .trunk) : 0 ≤ s.vlan ∧ s.vlan < 4096 := by
  unfold WF at h
  cases hv : s.vlanMode <;> simp only [hv] at h hm
  case access => exact ⟨h.1, h.2.1⟩
  case trunk => exact absurd rfl hm
  case nativeTagged | nativeUntagged => exact h

theorem WF.hasTrunk_access (h : s.WF) (hm : s.vlanMode = .access) : s.hasTrunk v = false := by
  simp only [WF, hm] at h
  rw [hasTrunk, h.2.2]
  exact BitVec.getLsbD_zero

/-- The number the functions compute is the VLAN of the settings. -/
theorem WF.eq_modeVid (h : s.WF) (hm : s.vlanMode ≠ .trunk) :
    v = modeVid s.vlanMode s.vlan ↔ (v : Int) = s.vlan := by
  obtain ⟨h0, h1⟩ := h.range hm
  unfold modeVid saiVlanId
  split <;> omega

theorem spec_own (h : s.Own v) : s.spec v = some s.ownMode := by
  unfold spec ownMode
  cases hm : s.vlanMode
  case trunk => exact absurd hm h.1
  all_goals simp [h.2]

theorem WF.spec_other (hs : s.WF) (h : ¬s.Own v) :
    s.spec v = if s.hasTrunk v then some .tagged else none := by
  have hv : s.vlanMode ≠ .trunk → (v : Int) ≠ s.vlan := fun hm hv => h ⟨hm, hv⟩
  unfold spec
  cases hm : s.vlanMode <;> simp only [hm, ne_eq, reduceCtorEq, not_false_iff, true_imp_iff] at hv
  case access => simp [hv, hs.hasTrunk_access hm]
  case trunk => rfl
  case nativeTagged | nativeUntagged => simp [hv]

end VlanSettings

/-- Setting the VLAN of the settings in a row, under a condition. -/
theorem VlanSettings.WF.set_own {s : VlanSettings} (h : s.WF) (c : Bool)
    (mode : Option SaiVlanTaggingMode) (row : VlanRow) (v : Nat) :
    (if s.vlanMode ≠ .trunk ∧ c = true then row.set (modeVid s.vlanMode s.vlan) mode else row) v =
      if s.Own v ∧ c = true then mode else row v := by
  by_cases hm : s.vlanMode ≠ .trunk ∧ c = true
  · have hv : v = SwitchdSai.modeVid s.vlanMode s.vlan ↔ s.Own v :=
      (h.eq_modeVid hm.1).trans ⟨fun hv => ⟨hm.1, hv⟩, fun hv => hv.2⟩
    rw [if_pos hm, VlanRow.set, Function.update_apply]
    simp [hv, hm.2]
  · have hno : ¬(s.Own v ∧ c = true) := fun h => hm ⟨h.1.1, h.2⟩
    rw [if_neg hm, if_neg hno]

theorem leaveRow_apply {old : VlanSettings} (hold : old.WF) (changed : Bool)
    (removed : VlanBitmap) (row : VlanRow) (v : Nat) :
    leaveRow old changed removed row v =
      if old.vlanMode ≠ .access ∧ removed.getLsbD v = true then none
      else if old.Own v ∧ changed = true then none else row v := by
  have hown := hold.set_own changed none row v
  unfold leaveRow
  by_cases hm : old.vlanMode = .access
  · have hno : ¬(old.vlanMode ≠ .access ∧ removed.getLsbD v = true) := fun h => h.1 hm
    rw [if_pos hm, if_neg hno]
    exact hown
  · rw [if_neg hm, VlanRow.setTrunks, hown]
    simp [hm]

theorem joinRow_apply {new : VlanSettings} (hnew : new.WF) (changed : Bool)
    (added : VlanBitmap) (row : VlanRow) (v : Nat) :
    joinRow new changed added row v =
      if new.vlanMode ≠ .access ∧ added.getLsbD v = true then some .tagged
      else if new.Own v ∧ changed = true then some new.ownMode else row v := by
  have hown := hnew.set_own changed (some new.ownMode) row v
  unfold joinRow
  by_cases hm : new.vlanMode = .access
  · have hno : ¬(new.vlanMode ≠ .access ∧ added.getLsbD v = true) := fun h => h.1 hm
    rw [if_pos hm, if_neg hno]
    exact hown
  · rw [if_neg hm, VlanRow.setTrunks]
    simp only [ne_eq, hm, not_false_iff, true_and]
    exact congrArg (fun x => if added.getLsbD v = true then some .tagged else x) hown

theorem VlanSettings.WF.native_iff_own {s : VlanSettings} (h : s.WF) {v : Nat} :
    s.vlanMode.native = true ∧ v = s.vlan.toNat ↔ s.Own v ∧ s.vlanMode ≠ .access := by
  have hr := h.range
  unfold VlanSettings.Own PortVlanMode.native
  cases hm : s.vlanMode <;> simp [hm] at hr ⊢ <;> omega

/-- Whether `__vlan_reconfigure` finds the VLAN or the mode changed. -/
def vlanChanged (bundle : OfbundleSai) (s : OfprotoBundleSettings) : Bool :=
  bundle.vlan != s.vlan || bundle.vlanMode != s.vlanMode

theorem own_of_not_vlanChanged {bundle : OfbundleSai} {s : OfprotoBundleSettings}
    (h : vlanChanged bundle s = false) (v : Nat) :
    (bundle.vlanSettings.Own v ↔ s.vlanSettings.Own v) ∧
      bundle.vlanSettings.ownMode = s.vlanSettings.ownMode := by
  simp only [vlanChanged, Bool.or_eq_false_iff, bne_eq_false_iff_eq] at h
  unfold VlanSettings.Own VlanSettings.ownMode
  simp only [OfbundleSai.vlanSettings, OfprotoBundleSettings.vlanSettings, h.1, h.2]
  exact ⟨trivial, rfl⟩

/-- The VLAN or the mode changes. -/
def VlanSettings.Changed (old new : VlanSettings) : Prop :=
  old.vlan ≠ new.vlan ∨ old.vlanMode ≠ new.vlanMode

instance {old new : VlanSettings} : Decidable (old.Changed new) :=
  inferInstanceAs (Decidable (_ ∨ _))

/-- The change from `old` to `new` sets the membership in `v`: the settings differ in it, or it is a
VLAN of their own and that VLAN or the mode changes. -/
def VlanSettings.Touches (old new : VlanSettings) (v : Nat) : Prop :=
  old.spec v ≠ new.spec v ∨ old.Changed new ∧ (old.Own v ∨ new.Own v)

instance {old new : VlanSettings} {v : Nat} : Decidable (old.Touches new v) :=
  inferInstanceAs (Decidable (_ ∨ _))

theorem VlanSettings.spec_of_not_touches {old new : VlanSettings} {v : Nat}
    (h : ¬old.Touches new v) : old.spec v = new.spec v :=
  not_not.mp fun hne => h (.inl hne)

theorem vlanChanged_iff {bundle : OfbundleSai} {s : OfprotoBundleSettings} :
    vlanChanged bundle s = true ↔ bundle.vlanSettings.Changed s.vlanSettings := by
  simp only [vlanChanged, Bool.or_eq_true, bne_iff_ne]
  rfl

/-- Leaving and joining sets what the change of settings touches, and nothing else. -/
theorem joinRow_leaveRow_apply (bundle : OfbundleSai) (s : OfprotoBundleSettings)
    (hold : bundle.vlanSettings.WF) (hnew : s.vlanSettings.WF) (row : VlanRow) (v : Nat) :
    joinRow s.vlanSettings (vlanChanged bundle s) (changedTrunks bundle s).1
      (leaveRow bundle.vlanSettings (vlanChanged bundle s) (changedTrunks bundle s).2 row) v =
      if bundle.vlanSettings.Touches s.vlanSettings v then s.vlanSettings.spec v else row v := by
  have hadded := changedTrunks_added bundle s v
  have hremoved := changedTrunks_removed bundle s v
  have htrunkOld := hold.hasTrunk_access (v := v)
  have htrunkNew := hnew.hasTrunk_access (v := v)
  have hsame := fun h : vlanChanged bundle s = false => own_of_not_vlanChanged h v
  rw [hold.native_iff_own] at hadded hremoved
  rw [hnew.native_iff_own] at hadded
  rw [joinRow_apply hnew, leaveRow_apply hold]
  simp only [VlanSettings.Touches, ← vlanChanged_iff, hadded, hremoved]
  by_cases hv : s.vlanSettings.Own v
  · -- the VLAN of the new settings: joined when anything changed, else kept
    rw [VlanSettings.spec_own hv]
    by_cases ho : bundle.vlanSettings.Own v
    · rw [VlanSettings.spec_own ho]
      grind
    · rw [hold.spec_other ho]
      grind
  · -- a trunk of the new settings, or no VLAN of theirs
    rw [hnew.spec_other hv]
    by_cases ho : bundle.vlanSettings.Own v
    · rw [VlanSettings.spec_own ho]
      grind
    · rw [hold.spec_other ho]
      grind

/-! ## The loops over the ports -/

/-- The port object of a port. -/
def OfprotoSai.portOid (o : OfprotoSai) (p : OfpPort) : Option Nat :=
  (o.ofports p).map fun port => o.hw.opsSaiApiHwId2PortId port.netdev.netdevSaiHwIdGet

/-- The VLAN row of a port object. -/
def OfprotoSai.vlanRow (o : OfprotoSai) (oid : Nat) : VlanRow := (o.hw.ports oid).vlans

theorem forEachPort_tables (ports : List OfpPort) (f : Nat → Exec Hw Int) :
    Frame tables (forEachPort ports f) :=
  Rel.forEach fun p => (ofport_rel p).bind fun _ => onHw_tables _

/-- A loop that changes each row by `g` has found every port, and has applied `g` at the object of
each of them in turn. -/
theorem forEachPort_ok {f : Nat → Exec Hw Int} {g : VlanRow → VlanRow}
    (hf : ∀ hwId, DoesRow hwId (f hwId) g) {ports : List OfpPort} {o o' : OfprotoSai}
    (h : forEachPort ports f o = .ok (0, o')) :
    ∃ oids : List Nat, ports.map o.portOid = oids.map some ∧
      o'.hw.vlanTable =
        ⟨o.hw.vlanTable.oid,
          oids.foldl (fun rows oid => applyAt oid g rows) o.hw.vlanTable.rows⟩ := by
  induction ports generalizing o with
  | nil =>
    cases h
    exact ⟨[], rfl, rfl⟩
  | cons p ports ih =>
    obtain ⟨o₁, h₁, h⟩ := thenOk_zero.mp h
    obtain ⟨port, hp, h₁⟩ := ofport_bind.mp h₁
    obtain ⟨hw, hm, rfl⟩ := onHw_ok.mp h₁
    have hrow : hw.vlanTable = _ := hf _ _ _ hm
    obtain ⟨oids, hoids, hrows⟩ := ih h
    have hoid : ∀ q, OfprotoSai.portOid { o with hw := hw } q = o.portOid q := by
      intro q
      have : hw.opsSaiApiHwId2PortId = o.hw.opsSaiApiHwId2PortId := congrArg VlanTable.oid hrow
      simp only [OfprotoSai.portOid, this]
    refine ⟨o.hw.opsSaiApiHwId2PortId port.netdev.netdevSaiHwIdGet :: oids, ?_, ?_⟩
    · rw [List.map_cons, List.map_cons, ← hoids, OfprotoSai.portOid, hp]
      exact congrArg _ (List.map_congr_left fun q _ => (hoid q).symm)
    · rw [hrows, hrow]
      rfl

/-- The row of an object after such a loop, when at most one of the ports has it. -/
theorem forEachPort_rows {f : Nat → Exec Hw Int} {g : VlanRow → VlanRow}
    (hf : ∀ hwId, DoesRow hwId (f hwId) g) {ports : List OfpPort} {o o' : OfprotoSai}
    (h : forEachPort ports f o = .ok (0, o')) :
    o'.portOid = o.portOid ∧ ∀ oid, (ports.map o.portOid).count (some oid) ≤ 1 →
      o'.vlanRow oid =
        if some oid ∈ ports.map o.portOid then g (o.vlanRow oid) else o.vlanRow oid := by
  obtain ⟨oids, hoids, htable⟩ := forEachPort_ok hf h
  have hports : o'.ofports = o.ofports := congrArg (·.2.2.1) (forEachPort_tables ports f o 0 o' h)
  have hoid : o'.hw.opsSaiApiHwId2PortId = o.hw.opsSaiApiHwId2PortId :=
    congrArg VlanTable.oid htable
  rw [hoids]
  refine ⟨?_, fun oid hone => ?_⟩
  · funext p
    simp only [OfprotoSai.portOid, hports, hoid]
  · rw [List.count_map_of_injective _ _ (Option.some_injective _)] at hone
    have hrow : o'.vlanRow oid = _ := congrFun (congrArg VlanTable.rows htable) oid
    refine (hrow.trans (foldl_applyAt hone _)).trans ?_
    simp [OfprotoSai.vlanRow, Hw.vlanTable]

@[simp] theorem OfbundleSai.trunksRealloc_eq (bundle : OfbundleSai) (trunks : Option VlanBitmap) :
    bundle.trunksRealloc trunks = { bundle with trunks := trunks } := by
  unfold OfbundleSai.trunksRealloc
  split
  next h => rw [← h]
  next => rfl

/-- A reconfiguration that succeeds has run both loops and then recorded the settings. -/
theorem vlanReconfigure_zero {o o' : OfprotoSai} {b : BundlePtr} {s : OfprotoBundleSettings}
    (h : vlanReconfigure b s o = .ok (0, o')) :
    ∃ bundle o₁ o₂, o.bundles.lookup b = some bundle ∧
      forEachPort bundle.ports
        (vlanPortLeave bundle (vlanChanged bundle s) (changedTrunks bundle s).2) o = .ok (0, o₁) ∧
      forEachPort bundle.ports
        (vlanPortJoin s (vlanChanged bundle s) (changedTrunks bundle s).1) o₁ = .ok (0, o₂) ∧
      o' = o₂.setBundle b
        { bundle with vlan := s.vlan, vlanMode := s.vlanMode, trunks := s.trunks } := by
  obtain ⟨bundle, hb, h⟩ := ofbundle_bind.mp h
  obtain ⟨-, h⟩ := require_bind.mp h
  obtain ⟨o₁, h₁, h⟩ := thenOk_zero.mp h
  obtain ⟨o₂, h₂, h⟩ := thenOk_zero.mp h
  obtain ⟨bundle₂, hb₂, hend⟩ := modifyBundle_bind.mp h
  have hbundles : o₂.bundles = o.bundles :=
    congrArg (·.2.2.2) ((forEachPort_tables _ _ _ _ _ h₂).trans (forEachPort_tables _ _ _ _ _ h₁))
  obtain rfl : bundle₂ = bundle := by
    rw [hbundles, hb] at hb₂
    exact (Option.some.inj hb₂).symm
  rw [OfbundleSai.trunksRealloc_eq] at hend
  cases hend
  exact ⟨bundle₂, o₁, o₂, hb, h₁, h₂, rfl⟩

/-- A reconfiguration that succeeds has found every port. -/
theorem vlanReconfigure_found {o o' : OfprotoSai} {b : BundlePtr} {bundle : OfbundleSai}
    {s : OfprotoBundleSettings} (hb : o.bundles.lookup b = some bundle)
    (h : vlanReconfigure b s o = .ok (0, o')) {p : OfpPort} (hp : p ∈ bundle.ports) :
    ∃ oid, o.portOid p = some oid := by
  obtain ⟨bundle', o₂, o₃, hb', hleave, -, -⟩ := vlanReconfigure_zero h
  obtain rfl : bundle' = bundle := Option.some.inj (hb'.symm.trans hb)
  obtain ⟨oids, hoids, -⟩ := forEachPort_ok (vlanPortLeave_does bundle' _ _) hleave
  have hmem : o.portOid p ∈ oids.map some := hoids ▸ List.mem_map_of_mem hp
  obtain ⟨oid, -, hoid⟩ := List.mem_map.mp hmem
  exact ⟨oid, hoid.symm⟩

/-- The row of an object that at most one of the ports has is left and joined, or stays as it is. -/
theorem vlanReconfigure_row {o o' : OfprotoSai} {b : BundlePtr} {bundle : OfbundleSai}
    {s : OfprotoBundleSettings} (hb : o.bundles.lookup b = some bundle)
    (hold : bundle.vlanSettings.WF) (hnew : s.vlanSettings.WF) {oid : Nat}
    (hone : (bundle.ports.map o.portOid).count (some oid) ≤ 1)
    (hrun : vlanReconfigure b s o = .ok (0, o')) (v : Nat) :
    o'.vlanRow oid v =
      if some oid ∈ bundle.ports.map o.portOid ∧ bundle.vlanSettings.Touches s.vlanSettings v
      then s.vlanSettings.spec v else o.vlanRow oid v := by
  obtain ⟨bundle', o₁, o₂, hb', hleave, hjoin, rfl⟩ := vlanReconfigure_zero hrun
  obtain rfl : bundle' = bundle := Option.some.inj (hb'.symm.trans hb)
  obtain ⟨hoid, hrow₁⟩ := forEachPort_rows (vlanPortLeave_does bundle' _ _) hleave
  obtain ⟨-, hrow₂⟩ := forEachPort_rows (vlanPortJoin_does s _ _) hjoin
  rw [hoid] at hrow₂
  have hrow : o₂.vlanRow oid = _ := hrow₂ oid hone
  by_cases hin : some oid ∈ bundle'.ports.map o.portOid
  · rw [if_pos hin, hrow₁ oid hone, if_pos hin] at hrow
    simp only [hin, true_and]
    exact (congrFun hrow v).trans (joinRow_leaveRow_apply bundle' s hold hnew _ v)
  · rw [if_neg hin, hrow₁ oid hone, if_neg hin] at hrow
    rw [if_neg fun h => hin h.1]
    exact congrFun hrow v

/-- The rows of the ports go from the old settings to the new ones, and no other row changes. -/
theorem vlanReconfigure_rows {o o' : OfprotoSai} {b : BundlePtr} {bundle : OfbundleSai}
    {s : OfprotoBundleSettings} (hb : o.bundles.lookup b = some bundle)
    (hold : bundle.vlanSettings.WF) (hnew : s.vlanSettings.WF)
    (hd : (bundle.ports.map o.portOid).Nodup)
    (hrows : ∀ oid, some oid ∈ bundle.ports.map o.portOid →
      o.vlanRow oid = bundle.vlanSettings.spec)
    (hrun : vlanReconfigure b s o = .ok (0, o')) (oid : Nat) :
    o'.vlanRow oid =
      if some oid ∈ bundle.ports.map o.portOid then s.vlanSettings.spec else o.vlanRow oid := by
  funext v
  rw [vlanReconfigure_row hb hold hnew (List.nodup_iff_count_le_one.mp hd _) hrun]
  by_cases hin : some oid ∈ bundle.ports.map o.portOid
  · simp only [hin, true_and, if_true, hrows oid hin]
    by_cases ht : bundle.vlanSettings.Touches s.vlanSettings v
    · rw [if_pos ht]
    · rw [if_neg ht, VlanSettings.spec_of_not_touches ht]
  · simp only [hin, false_and, if_false]

/-- **Reconfiguration is exact.** If the ports of a bundle have the rows that its settings ask for
and `__vlan_reconfigure` succeeds, they have the rows that the new settings ask for, no other row
has changed, and the bundle holds the new settings. -/
theorem vlanReconfigure_exact {o o' : OfprotoSai} {b : BundlePtr} {bundle : OfbundleSai}
    {s : OfprotoBundleSettings} (hb : o.bundles.lookup b = some bundle)
    (hold : bundle.vlanSettings.WF) (hnew : s.vlanSettings.WF)
    (hd : (bundle.ports.map o.portOid).Nodup)
    (hrows : ∀ oid, some oid ∈ bundle.ports.map o.portOid →
      o.vlanRow oid = bundle.vlanSettings.spec)
    (hrun : vlanReconfigure b s o = .ok (0, o')) :
    (∀ oid, some oid ∈ bundle.ports.map o.portOid → o'.vlanRow oid = s.vlanSettings.spec) ∧
      (∀ oid, some oid ∉ bundle.ports.map o.portOid → o'.vlanRow oid = o.vlanRow oid) ∧
      (o'.bundles.lookup b).map (·.vlanSettings) = some s.vlanSettings := by
  have hrow := vlanReconfigure_rows hb hold hnew hd hrows hrun
  refine ⟨fun oid hin => ?_, fun oid hout => ?_, ?_⟩
  · rw [hrow, if_pos hin]
  · rw [hrow, if_neg hout]
  · obtain ⟨bundle', o₁, o₂, -, -, -, rfl⟩ := vlanReconfigure_zero hrun
    rw [setBundle_lookup, if_pos rfl]
    rfl

/-- A bundle of one port in access mode for VLAN 1. -/
def accessBundle : OfbundleSai := { OfbundleSai.alloc 1 none with vlan := 1, ports := [1] }

/-- An ofproto with that bundle, whose port has the row its settings ask for. -/
def accessOfproto : OfprotoSai :=
  (OfprotoSai.new .system 0
    (fun p => if p = 1 then some ⟨.alloc "1" .system, some 1⟩ else none)
    (Hw.reset.setPort 0 (HwPort.setVlan 1 (some .untagged)))).setBundle 1 accessBundle

/-- The port moves from VLAN 1 to VLAN 2. -/
theorem vlanReconfigure_access :
    ∃ o', vlanReconfigure 1 (accessSettings 2) accessOfproto = .ok (0, o') ∧
      o'.vlanRow 0 = (accessSettings 2).vlanSettings.spec := by
  obtain ⟨o', hrun⟩ := result_eq_some.mp
    (show result (vlanReconfigure 1 (accessSettings 2)) accessOfproto = some 0 by decide)
  have hrow : accessOfproto.vlanRow 0 = accessBundle.vlanSettings.spec := by
    funext v
    by_cases h : v = 1
    · subst h
      decide
    · have h' : ((v : Int) = 1) = False := by simpa using h
      simp [accessOfproto, OfprotoSai.vlanRow, OfprotoSai.new, Hw.setPort, HwPort.setVlan,
        Hw.reset, HwPort.reset, VlanSettings.spec, OfbundleSai.vlanSettings, accessBundle,
        OfbundleSai.alloc, h, h']
  have hports : accessBundle.ports.map accessOfproto.portOid = [some 0] := by decide
  have hb : accessOfproto.bundles.lookup 1 = some accessBundle := rfl
  have hwf : (accessSettings 2).vlanSettings.WF := ⟨by decide, by decide, rfl⟩
  have h := vlanReconfigure_exact hb ⟨by decide, by decide, rfl⟩ hwf
    (by rw [hports]; decide) (by simpa [hports] using hrow) hrun
  exact ⟨o', hrun, h.1 0 (by simp [hports])⟩

end SwitchdSai
