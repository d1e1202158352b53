import Mathlib.Data.List.GetD
import SwitchdSai.Lib.Script
import SwitchdSai.Verify.VlanReconfigure

/-!
# The hardware calls of the VLAN functions

Each VLAN function plays a script of calls that change the memberships or the PVID of one port
(`portApi`), and `__vlan_reconfigure` plays the script `VlanSettings.script`, which is found from
the old and the new settings and the list of ports (`vlanReconfigure_plays`).
-/

namespace SwitchdSai

open Exec OfprotoSai

/-- The VLANs of a port: its memberships and its PVID. -/
structure PortVlans where
  row : VlanRow
  pvid : Nat

/-- The map of labels to port objects and the VLANs of each object. -/
structure PortTable where
  oid : Nat → Nat
  ports : Nat → PortVlans

def HwPort.portVlans (p : HwPort) : PortVlans := ⟨p.vlans, p.portVlanId⟩

def Hw.portTable (hw : Hw) : PortTable :=
  ⟨hw.opsSaiApiHwId2PortId, fun oid => (hw.ports oid).portVlans⟩

/-- A hardware call of the VLAN functions. -/
inductive VlanCall where
  /-- Add a port to a VLAN in some mode, or remove it. -/
  | member (vid : Nat) (mode : Option SaiVlanTaggingMode)
  | pvid (vid : Nat)
  deriving DecidableEq, Repr

namespace VlanCall

def setRow : VlanCall → VlanRow → VlanRow
  | .member vid mode => VlanRow.set vid mode
  | .pvid _ => id

def setPvid : VlanCall → Nat → Nat
  | .member .., n => n
  | .pvid vid, _ => vid

def act (c : VlanCall) (v : PortVlans) : PortVlans := ⟨c.setRow v.row, c.setPvid v.pvid⟩

/-- Calls change the memberships and the PVID independently. -/
theorem foldl_act (l : List VlanCall) (v : PortVlans) :
    l.foldl (fun v c => c.act v) v =
      ⟨l.foldl (fun row c => c.setRow row) v.row, l.foldl (fun n c => c.setPvid n) v.pvid⟩ := by
  induction l generalizing v with
  | nil => rfl
  | cons c l ih => exact ih (c.act v)

/-- What no call sets stays as it is. -/
theorem foldl_setRow_apply {l : List VlanCall} {row : VlanRow} {v : Nat}
    (h : ∀ mode, .member v mode ∉ l) : l.foldl (fun row c => c.setRow row) row v = row v := by
  induction l generalizing row with
  | nil => rfl
  | cons c l ih =>
    rw [List.foldl_cons, ih fun mode hmem => h mode (List.mem_cons_of_mem _ hmem)]
    cases c with
    | member vid mode =>
      have hne : v ≠ vid := by
        rintro rfl
        exact h mode List.mem_cons_self
      exact Function.update_of_ne hne ..
    | pvid vid => rfl

/-- A VLAN that is only left, and is left or was none of the row, is none of the row afterwards. -/
theorem foldl_setRow_none {l : List VlanCall} {row : VlanRow} {v : Nat}
    (hnone : ∀ mode, .member v mode ∈ l → mode = none)
    (h : row v = none ∨ .member v none ∈ l) :
    l.foldl (fun row c => c.setRow row) row v = none := by
  induction l generalizing row with
  | nil => exact h.resolve_right (List.not_mem_nil)
  | cons c l ih =>
    refine ih (fun mode hmem => hnone mode (List.mem_cons_of_mem _ hmem)) ?_
    by_cases hc : ∃ mode, c = .member v mode
    · obtain ⟨mode, rfl⟩ := hc
      obtain rfl := hnone mode List.mem_cons_self
      exact .inl (Function.update_self ..)
    · refine h.imp (fun hrow => ?_) fun hmem => ?_
      · rw [← hrow]
        exact foldl_setRow_apply (l := [c]) fun mode hmem =>
          hc ⟨mode, (List.mem_singleton.mp hmem).symm⟩
      · exact (List.mem_cons.mp hmem).resolve_left fun heq => hc ⟨none, heq.symm⟩

end VlanCall

/-- The outcome of the `n`-th of the calls to come. -/
def Hw.grants (hw : Hw) (n : Nat) : Bool := hw.outcomes.getD n .success == .success

/-- The calls for the port with label `hwId`. -/
def portApi (hwId : Nat) : Api Hw PortTable VlanCall where
  view := Hw.portTable
  act c t := { t with ports := applyAt (t.oid hwId) c.act t.ports }
  grants := Hw.grants

/-- Calls for one port change the VLANs of its object and of no other. -/
theorem portApi_play (hwId : Nat) (l : List VlanCall) (t : PortTable) :
    (portApi hwId).play l t = { t with
      ports := applyAt (t.oid hwId) (fun v => l.foldl (fun v c => c.act v) v) t.ports } := by
  induction l generalizing t with
  | nil => exact congrArg (PortTable.mk t.oid) applyAt_id.symm
  | cons c l ih =>
    refine (ih _).trans ?_
    simp only [portApi, applyAt_applyAt]
    rfl

theorem Hw.grants_tick (hw : Hw) (n : Nat) : hw.tick.grants n = hw.grants (n + 1) := by
  unfold grants tick
  cases hw.outcomes <;> simp

theorem Hw.grants_zero {hw : Hw} : hw.grants 0 = true ↔ hw.nextOutcome = .success := by
  unfold grants nextOutcome
  cases hw.outcomes <;> simp

/-- The first call that is refused is the first outcome that is no success. -/
theorem Hw.firstRefused {hw : Hw} {n : Nat} (hgranted : ∀ i < n, hw.grants i = true)
    (hrefused : hw.grants n = false) : hw.outcomes.findIdx (· != .success) = n := by
  have hlt : n < hw.outcomes.length := by
    refine lt_of_not_ge fun hge => ?_
    rw [grants, List.getD_eq_default _ _ hge] at hrefused
    exact Bool.noConfusion hrefused
  refine (List.findIdx_eq hlt).mpr ⟨?_, fun j hj => ?_⟩
  · rw [grants, List.getD_eq_getElem _ _ hlt] at hrefused
    simpa using hrefused
  · have hg := hgranted j hj
    rw [grants, List.getD_eq_getElem _ _ (hj.trans hlt)] at hg
    simpa using hg

/-! ## The VLAN functions -/

section
variable {hwId vid : Nat} {mode : SaiVlanTaggingMode} {add : Bool} {attr : SaiPortAttr}

/-- A call on one port whose effect on the VLANs of the port is that of `c`. -/
theorem portCall_plays {c : VlanCall} {f : HwPort → HwPort}
    (hf : ∀ p : HwPort, (f p).portVlans = c.act p.portVlans) : (portApi hwId).Plays [c] (do
      let portId ← gets fun hw => hw.opsSaiApiHwId2PortId hwId
      let status ← Hw.call (Hw.setPort portId f)
      pure (saiError2Errno status)) := by
  refine .call fun hw st hw' h => ?_
  rw [gets_bind] at h
  obtain ⟨status, hw₁, h₁, h⟩ := bind_ok.mp h
  cases h
  have hstatus := Hw.call_status h₁
  rcases Hw.call_cases h₁ with ⟨rfl, rfl⟩ | ⟨hne, rfl⟩
  · refine .inl ⟨rfl, Hw.grants_zero.2 hstatus.symm, ?_, Hw.grants_tick hw⟩
    have hports : ∀ oid, ((hw.tick.setPort (hw.opsSaiApiHwId2PortId hwId) f).ports oid).portVlans =
        applyAt (hw.opsSaiApiHwId2PortId hwId) c.act (fun oid => (hw.ports oid).portVlans) oid := by
      intro oid
      by_cases ho : oid = hw.opsSaiApiHwId2PortId hwId
      · subst ho
        simp [Hw.setPort, Hw.tick, hf]
      · rw [applyAt_of_ne ho]
        simp [Hw.setPort, Hw.tick, ho]
    simp only [portApi, Hw.portTable, hports]
    rfl
  · refine .inr ⟨fun h0 => hne (saiError2Errno_eq_zero.mp h0), ?_, rfl⟩
    exact Bool.eq_false_iff.mpr fun hg => hne (hstatus.trans (Hw.grants_zero.1 hg))

theorem pvidSet_plays : (portApi hwId).Plays [.pvid vid] (opsSaiPortPvidSet hwId vid) :=
  portCall_plays fun _ => rfl

/-- The calls of `__vlan_port_set`. -/
def portSetCalls (vid : Nat) (mode : SaiVlanTaggingMode) (add : Bool) : List VlanCall :=
  .member vid (memberMode add mode) :: if add && mode ≠ .untagged then [] else [.pvid vid]

theorem mem_portSetCalls {v : Nat} {m : Option SaiVlanTaggingMode} :
    .member v m ∈ portSetCalls vid mode add ↔ v = vid ∧ m = memberMode add mode := by
  unfold portSetCalls
  split <;> simp

/-- `__vlan_port_set` sets the membership and then, in two of three cases, the PVID. -/
theorem vlanPortSet_eq : vlanPortSet vid hwId mode add = (do
    let portId ← gets fun hw : Hw => hw.opsSaiApiHwId2PortId hwId
    let status ← setPortsOfVlan vid portId mode add
    pure (saiError2Errno status) : Exec Hw Int).thenOk
    (if add && mode ≠ .untagged then pure 0 else opsSaiPortPvidSet hwId vid) := by
  simp only [vlanPortSet, thenOk, bind_assoc, pure_bind, saiError2Errno_eq_zero, ite_not]

theorem vlanPortSet_plays :
    (portApi hwId).Plays (portSetCalls vid mode add) (vlanPortSet vid hwId mode add) := by
  have hpvid : (portApi hwId).Plays (if add && mode ≠ .untagged then [] else [.pvid vid])
      (if add && mode ≠ .untagged then pure 0 else opsSaiPortPvidSet hwId vid) := by
    exact Api.Plays.pure.ite pvidSet_plays
  rw [vlanPortSet_eq]
  exact (portCall_plays (c := .member vid (memberMode add mode)) fun _ => rfl).thenOk hpvid

theorem trunksPortSet_plays (trunks : VlanBitmap) (hwId : Nat) (add : Bool) : (portApi hwId).Plays
    (trunks.ones.flatMap fun vid => portSetCalls vid .tagged add)
    (trunksPortSet trunks hwId add) :=
  .forEach fun _ _ => vlanPortSet_plays

/-- The calls that leave a VLAN other than a trunk. -/
def ownLeaveCalls (vid : Nat) : List VlanCall :=
  [.member vid none, .pvid vid, .pvid OPS_SAI_PORT_DEFAULT_PVID]

theorem accessPortDel_plays (vid hwId : Nat) :
    (portApi hwId).Plays (ownLeaveCalls vid) (opsSaiVlanAccessPortDel vid hwId) :=
  .thenOk vlanPortSet_plays pvidSet_plays

theorem accessPortAdd_plays (vid hwId : Nat) :
    (portApi hwId).Plays (portSetCalls vid .untagged true) (opsSaiVlanAccessPortAdd vid hwId) :=
  vlanPortSet_plays

theorem ones_zero : VlanBitmap.ones 0 = [] :=
  List.eq_nil_iff_forall_not_mem.mpr fun v hv => by
    rw [VlanBitmap.mem_ones] at hv
    cases hv.symm.trans BitVec.getLsbD_zero

/-- The bitmap of one VLAN. -/
theorem ones_set1 (hv : vid < VLAN_BITMAP_SIZE) : (VlanBitmap.set1 0 vid).ones = [vid] := by
  have hlt : vid < 4096 := hv
  have hone : ∀ v, (VlanBitmap.set1 0 vid).getLsbD v = (v == vid) := by
    intro v
    rw [VlanBitmap.getLsbD_set1]
    by_cases h : v = vid
    · subst h
      simp [hlt]
    · simp [h]
  rw [VlanBitmap.ones, List.filter_congr fun v _ => hone v, List.filter_beq,
    List.count_eq_one_of_mem List.nodup_range (List.mem_range.mpr hv), List.replicate_one]

theorem nativeTaggedVlanSet_plays (vlan : Int) (hwId : Nat) (add : Bool) :
    (portApi hwId).Plays
      (if add then [.member vlan.toNat (some .tagged), .pvid (saiVlanId vlan)]
        else ownLeaveCalls vlan.toNat)
      (nativeTaggedVlanSet vlan hwId add) := by
  unfold nativeTaggedVlanSet
  by_cases hr : 0 ≤ vlan ∧ vlan < VLAN_BITMAP_SIZE
  · have hones : (VlanBitmap.set1 0 vlan.toNat).ones = [vlan.toNat] := ones_set1 (by omega)
    have htrunks : ∀ add, (portApi hwId).Plays (portSetCalls vlan.toNat .tagged add)
        (trunksPortSet (.set1 0 vlan.toNat) hwId add) := by
      intro add
      have h := trunksPortSet_plays (.set1 0 vlan.toNat) hwId add
      rwa [hones, List.flatMap_singleton] at h
    rw [if_pos hr]
    cases add with
    | true => exact (htrunks true).thenOk pvidSet_plays
    | false => exact (htrunks false).thenOk pvidSet_plays
  · rw [if_neg hr]
    exact fun _ _ _ h => by cases h

end

/-! ## One port of a bundle -/

namespace VlanSettings

/-- The trunks that a port leaves. -/
def leftTrunks (old new : VlanSettings) : List Nat :=
  (List.range VLAN_BITMAP_SIZE).filter fun v =>
    old.hasTrunk v && !new.hasTrunk v && !decide (old.Own v)

/-- The trunks that a port joins. -/
def joinedTrunks (old new : VlanSettings) : List Nat :=
  (List.range VLAN_BITMAP_SIZE).filter fun v =>
    new.hasTrunk v && (!old.hasTrunk v || decide (old.Own v)) && !decide (new.Own v)

theorem mem_leftTrunks {old new : VlanSettings} {v : Nat} : v ∈ old.leftTrunks new ↔
    old.hasTrunk v = true ∧ new.hasTrunk v = false ∧ ¬old.Own v := by
  have hlt : old.hasTrunk v = true → v < VLAN_BITMAP_SIZE := fun h => BitVec.lt_of_getLsbD h
  simp only [leftTrunks, List.mem_filter, List.mem_range, Bool.and_eq_true, Bool.not_eq_true',
    decide_eq_false_iff_not]
  tauto

theorem mem_joinedTrunks {old new : VlanSettings} {v : Nat} : v ∈ old.joinedTrunks new ↔
    new.hasTrunk v = true ∧ (old.hasTrunk v = false ∨ old.Own v) ∧ ¬new.Own v := by
  have hlt : new.hasTrunk v = true → v < VLAN_BITMAP_SIZE := fun h => BitVec.lt_of_getLsbD h
  simp only [joinedTrunks, List.mem_filter, List.mem_range, Bool.and_eq_true, Bool.or_eq_true,
    Bool.not_eq_true', decide_eq_false_iff_not, decide_eq_true_eq]
  tauto

/-- The calls that take a port out of the VLANs of `old`. -/
def leaveCalls (old new : VlanSettings) : List VlanCall :=
  (if old.vlanMode ≠ .trunk ∧ old.Changed new then ownLeaveCalls old.vlan.toNat else []) ++
    (old.leftTrunks new).flatMap fun v => portSetCalls v .tagged false

/-- The calls that add a port to the VLANs of `new`. -/
def joinCalls (old new : VlanSettings) : List VlanCall :=
  (if new.vlanMode ≠ .trunk ∧ old.Changed new then
    [.member new.vlan.toNat (some new.ownMode), .pvid new.vlan.toNat] else []) ++
    (old.joinedTrunks new).flatMap fun v => portSetCalls v .tagged true

theorem WF.saiVlanId {s : VlanSettings} (h : s.WF) (hm : s.vlanMode ≠ .trunk) :
    SwitchdSai.saiVlanId s.vlan = s.vlan.toNat := by
  obtain ⟨h0, h1⟩ := h.range hm
  unfold SwitchdSai.saiVlanId
  omega

end VlanSettings

section
variable {bundle : OfbundleSai} {s : OfprotoBundleSettings} {hwId : Nat}

theorem ones_removed (hold : bundle.vlanSettings.WF) :
    (changedTrunks bundle s).2.ones = bundle.vlanSettings.leftTrunks s.vlanSettings := by
  refine (VlanBitmap.ones.eq_1 _).trans (List.filter_congr fun v _ => ?_)
  rw [Bool.eq_iff_iff, changedTrunks_removed, hold.native_iff_own]
  have haccess := hold.hasTrunk_access (v := v)
  grind

theorem ones_added (hold : bundle.vlanSettings.WF) (hnew : s.vlanSettings.WF) :
    (changedTrunks bundle s).1.ones = bundle.vlanSettings.joinedTrunks s.vlanSettings := by
  refine (VlanBitmap.ones.eq_1 _).trans (List.filter_congr fun v _ => ?_)
  rw [Bool.eq_iff_iff, changedTrunks_added, hold.native_iff_own, hnew.native_iff_own]
  have haccess := hold.hasTrunk_access (v := v)
  have haccess' := hnew.hasTrunk_access (v := v)
  grind

theorem leftTrunks_access {old : VlanSettings} (new : VlanSettings) (hold : old.WF)
    (hm : old.vlanMode = .access) :
    old.leftTrunks new = [] := by
  refine List.filter_eq_nil_iff.mpr fun v _ => ?_
  rw [hold.hasTrunk_access hm, Bool.false_and, Bool.false_and]
  exact Bool.false_ne_true

theorem joinedTrunks_access {new : VlanSettings} (old : VlanSettings) (hnew : new.WF)
    (hm : new.vlanMode = .access) :
    old.joinedTrunks new = [] := by
  refine List.filter_eq_nil_iff.mpr fun v _ => ?_
  rw [hnew.hasTrunk_access hm, Bool.false_and, Bool.false_and]
  exact Bool.false_ne_true

theorem vlanPortLeave_plays (s : OfprotoBundleSettings) (hwId : Nat)
    (hold : bundle.vlanSettings.WF) :
    (portApi hwId).Plays (bundle.vlanSettings.leaveCalls s.vlanSettings)
      (vlanPortLeave bundle (vlanChanged bundle s) (changedTrunks bundle s).2 hwId) := by
  have htrunks := trunksPortSet_plays (changedTrunks bundle s).2 hwId false
  have hnone := leftTrunks_access s.vlanSettings hold
  have hvid := hold.saiVlanId
  have hown : ∀ {m}, (portApi hwId).Plays (ownLeaveCalls bundle.vlan.toNat) m →
      (portApi hwId).Plays
        (if bundle.vlanSettings.Changed s.vlanSettings then ownLeaveCalls bundle.vlan.toNat else [])
        (if vlanChanged bundle s then m else pure 0) := by
    intro m hm
    simp only [← vlanChanged_iff]
    exact hm.ite .pure
  rw [ones_removed hold] at htrunks
  unfold vlanPortLeave VlanSettings.leaveCalls
  cases hm : bundle.vlanMode <;>
    simp only [OfbundleSai.vlanSettings, hm, ne_eq, reduceCtorEq, not_true, not_false_iff,
      false_and, true_and, if_false, true_imp_iff] at hvid hnone hown htrunks ⊢
  case access =>
    rw [hnone, hvid, List.flatMap_nil, List.append_nil]
    exact hown (accessPortDel_plays _ hwId)
  case trunk =>
    rw [List.nil_append]
    exact htrunks
  case nativeUntagged =>
    rw [hvid]
    exact (hown (accessPortDel_plays _ hwId)).thenOk htrunks
  case nativeTagged =>
    exact (hown (nativeTaggedVlanSet_plays bundle.vlan hwId false)).thenOk htrunks

theorem vlanPortJoin_plays (s : OfprotoBundleSettings) (hwId : Nat) (hold : bundle.vlanSettings.WF)
    (hnew : s.vlanSettings.WF) :
    (portApi hwId).Plays (bundle.vlanSettings.joinCalls s.vlanSettings)
      (vlanPortJoin s (vlanChanged bundle s) (changedTrunks bundle s).1 hwId) := by
  have htrunks := trunksPortSet_plays (changedTrunks bundle s).1 hwId true
  have hnone := joinedTrunks_access bundle.vlanSettings hnew
  have hvid := hnew.saiVlanId
  have hown : ∀ {l m}, (portApi hwId).Plays l m → (portApi hwId).Plays
      (if bundle.vlanSettings.Changed s.vlanSettings then l else [])
      (if vlanChanged bundle s then m else pure 0) := by
    intro l m hm
    simp only [← vlanChanged_iff]
    exact hm.ite .pure
  rw [ones_added hold hnew] at htrunks
  unfold vlanPortJoin VlanSettings.joinCalls
  cases hm : s.vlanMode <;>
    simp only [OfprotoBundleSettings.vlanSettings, VlanSettings.ownMode, hm, ne_eq, reduceCtorEq,
      not_true, not_false_iff, false_and, true_and, if_false, if_true, true_imp_iff]
      at hvid hnone hown htrunks ⊢
  case access =>
    rw [hnone, hvid, List.flatMap_nil, List.append_nil]
    exact hown (accessPortAdd_plays _ hwId)
  case trunk =>
    rw [List.nil_append]
    exact htrunks
  case nativeUntagged =>
    rw [hvid]
    exact (hown (accessPortAdd_plays _ hwId)).thenOk htrunks
  case nativeTagged =>
    have hnative := nativeTaggedVlanSet_plays s.vlan hwId true
    rw [if_pos rfl, hvid] at hnative
    exact (hown hnative).thenOk htrunks

end

/-! ## The ports of a bundle -/

/-- The calls for the ports of an ofproto. -/
def ofprotoApi :
    Api OfprotoSai ((OfpPort → Option OfportSai) × PortTable) (OfpPort × VlanCall) where
  view o := (o.ofports, o.hw.portTable)
  act c t := (t.1, match t.1 c.1 with
    | some port => (portApi port.netdev.netdevSaiHwIdGet).act c.2 t.2
    | none => t.2)
  grants o := o.hw.grants

theorem ofprotoApi_play {p : OfpPort} {port : OfportSai} (calls : List VlanCall)
    {t : (OfpPort → Option OfportSai) × PortTable} (hp : t.1 p = some port) :
    ofprotoApi.play (calls.map (p, ·)) t =
      (t.1, (portApi port.netdev.netdevSaiHwIdGet).play calls t.2) := by
  induction calls generalizing t with
  | nil => rfl
  | cons c calls ih =>
    have hact : ofprotoApi.act (p, c) t =
        (t.1, (portApi port.netdev.netdevSaiHwIdGet).act c t.2) := by
      simp only [ofprotoApi, hp]
    have hrest := ih (t := ofprotoApi.act (p, c) t) (by rw [hact]; exact hp)
    rw [hact] at hrest
    exact (congrArg (ofprotoApi.play (calls.map (p, ·))) hact).trans hrest

section
variable {f : Nat → Exec Hw Int} {calls : List VlanCall}

theorem onPort_plays (hf : ∀ hwId, (portApi hwId).Plays calls (f hwId)) (p : OfpPort) :
    ofprotoApi.Plays (calls.map (p, ·)) (do
      let port ← ofport p
      onHw (f port.netdev.netdevSaiHwIdGet)) := by
  intro o st o' h
  obtain ⟨port, hp, h⟩ := ofport_bind.mp h
  obtain ⟨hw, hm, rfl⟩ := onHw_ok.mp h
  refine (hf _ _ _ _ hm).imp ?_ ?_
  · rintro ⟨h0, hdone⟩
    refine ⟨h0, ?_, ?_, ?_⟩
    · rw [List.length_map]
      exact hdone.granted
    · rw [ofprotoApi_play calls (t := ofprotoApi.view o) hp]
      exact congrArg (o.ofports, ·) hdone.view
    · rw [List.length_map]
      exact hdone.grants
  · rintro ⟨h0, k, hstop⟩
    refine ⟨h0, k, ?_, hstop.granted, hstop.refused, ?_⟩
    · rw [List.length_map]
      exact hstop.lt
    · rw [← List.map_take, ofprotoApi_play (calls.take k) (t := ofprotoApi.view o) hp]
      exact congrArg (o.ofports, ·) hstop.view

theorem forEachPort_plays (hf : ∀ hwId, (portApi hwId).Plays calls (f hwId))
    (ports : List OfpPort) :
    ofprotoApi.Plays (ports.flatMap fun p => calls.map (p, ·)) (forEachPort ports f) :=
  .forEach fun p _ => onPort_plays hf p

end

/-- The calls of a reconfiguration: every port leaves the old VLANs, then every port joins the new
ones. -/
def VlanSettings.script (ports : List OfpPort) (old new : VlanSettings) :
    List (OfpPort × VlanCall) :=
  (ports.flatMap fun p => (old.leaveCalls new).map (p, ·)) ++
    ports.flatMap fun p => (old.joinCalls new).map (p, ·)

/-- A reconfiguration either does the whole script or stops at one of its calls. -/
theorem vlanReconfigure_plays {o o' : OfprotoSai} {b : BundlePtr} {bundle : OfbundleSai}
    {s : OfprotoBundleSettings} {st : Int} (hb : o.bundles.lookup b = some bundle)
    (hold : bundle.vlanSettings.WF) (hnew : s.vlanSettings.WF)
    (h : vlanReconfigure b s o = .ok (st, o')) :
    (st = 0 ∧ ofprotoApi.Done
        (bundle.vlanSettings.script bundle.ports s.vlanSettings) o o') ∨
      (st ≠ 0 ∧ ∃ k, ofprotoApi.Stopped
        (bundle.vlanSettings.script bundle.ports s.vlanSettings) o o' k) := by
  obtain ⟨bundle', hb', h⟩ := ofbundle_bind.mp h
  obtain rfl : bundle' = bundle := Option.some.inj (hb'.symm.trans hb)
  obtain ⟨-, h⟩ := require_bind.mp h
  have hleave := forEachPort_plays
    (fun hwId => vlanPortLeave_plays s hwId hold) bundle'.ports
  have hjoin := forEachPort_plays
    (fun hwId => vlanPortJoin_plays s hwId hold hnew) bundle'.ports
  have hrecord : ofprotoApi.Plays [] (do
      modifyBundle b fun bundle =>
        { bundle with vlan := s.vlan, vlanMode := s.vlanMode }.trunksRealloc s.trunks
      return 0) := by
    refine .nil fun o₁ st o₂ h₁ => ?_
    obtain ⟨bundle₁, -, hend⟩ := modifyBundle_bind.mp h₁
    cases hend
    exact ⟨rfl, rfl, rfl⟩
  have hplays := hleave.thenOk (hjoin.thenOk hrecord) o st o' h
  rwa [List.append_nil] at hplays

/-! ## The VLANs of one port after a script -/

def OfprotoSai.portVlans (o : OfprotoSai) (oid : Nat) : PortVlans := (o.hw.ports oid).portVlans

/-- The calls of `l` for port `p`. -/
def callsFor (p : OfpPort) (l : List (OfpPort × VlanCall)) : List VlanCall :=
  (l.filter (·.1 = p)).map (·.2)

section
variable {o o' : OfprotoSai} {ports : List OfpPort} {p : OfpPort} {oid : Nat}
  {l : List (OfpPort × VlanCall)}

/-- Calls on ports with different objects change each port by its own calls. -/
theorem ofprotoApi_play_port (hd : (ports.map o.portOid).Nodup) (hp : p ∈ ports)
    (hoid : o.portOid p = some oid) (hl : ∀ c ∈ l, c.1 ∈ ports) :
    (ofprotoApi.play l (ofprotoApi.view o)).2.ports oid =
      (callsFor p l).foldl (fun v c => c.act v) (o.portVlans oid) := by
  have hgen : ∀ (v : Nat → PortVlans),
      (ofprotoApi.play l (o.ofports, ⟨o.hw.opsSaiApiHwId2PortId, v⟩)).2.ports oid =
        (callsFor p l).foldl (fun v c => c.act v) (v oid) := by
    induction l with
    | nil => exact fun _ => rfl
    | cons c l ih =>
      intro v
      have ih := ih fun c' hc' => hl c' (List.mem_cons_of_mem _ hc')
      have hc : c.1 ∈ ports := hl c List.mem_cons_self
      obtain ⟨q, c⟩ := c
      unfold Api.play callsFor
      cases hq : o.ofports q with
      | none =>
        have hne : q ≠ p := by
          rintro rfl
          rw [OfprotoSai.portOid, hq] at hoid
          cases hoid
        simp only [List.foldl_cons, ofprotoApi, hq, List.filter_cons, hne, decide_false,
          Bool.false_eq_true, if_false]
        exact ih v
      | some port =>
        have hqoid : o.portOid q = some (o.hw.opsSaiApiHwId2PortId port.netdev.netdevSaiHwIdGet) :=
          by rw [OfprotoSai.portOid, hq]; rfl
        simp only [List.foldl_cons, ofprotoApi, hq, portApi, List.filter_cons]
        refine (ih _).trans ?_
        by_cases hqp : q = p
        · subst hqp
          obtain rfl := Option.some.inj (hqoid.symm.trans hoid)
          simp [callsFor]
        · have hne : oid ≠ o.hw.opsSaiApiHwId2PortId port.netdev.netdevSaiHwIdGet := by
            rintro rfl
            exact hqp (List.inj_on_of_nodup_map hd hc hp (hqoid.trans hoid.symm))
          simp [callsFor, hqp, applyAt_of_ne hne]
  exact hgen _

/-- The calls of a loop over the ports that are for one of them. -/
theorem filter_ports {calls : List VlanCall} (hd : ports.Nodup) (hp : p ∈ ports) :
    (ports.flatMap fun q => calls.map (q, ·)).filter (·.1 = p) = calls.map (p, ·) := by
  have hself : ∀ q, (calls.map (q, ·)).filter (·.1 = p) =
      if q = p then calls.map (p, ·) else [] := by
    intro q
    by_cases hq : q = p
    · subst hq
      rw [if_pos rfl]
      exact List.filter_eq_self.mpr (by simp)
    · rw [if_neg hq]
      exact List.filter_eq_nil_iff.mpr (by simp [hq])
  induction ports with
  | nil => cases hp
  | cons q ports ih =>
    obtain ⟨hq, hd⟩ := List.nodup_cons.mp hd
    rw [List.flatMap_cons, List.filter_append, hself]
    by_cases hqp : q = p
    · subst hqp
      rw [if_pos rfl, List.append_right_eq_self, List.filter_flatMap, List.flatMap_eq_nil_iff]
      intro q' hq'
      have hne : q' ≠ q := fun h => hq (h ▸ hq')
      rw [hself, if_neg hne]
    · rw [if_neg hqp, List.nil_append]
      exact ih hd ((List.mem_cons.mp hp).resolve_left (Ne.symm hqp))

theorem script_ports {d e : VlanSettings} : ∀ c ∈ d.script ports e, c.1 ∈ ports := by
  intro c hc
  rcases List.mem_append.mp hc with hc | hc <;> obtain ⟨q, hq, hc⟩ := List.mem_flatMap.mp hc <;>
    obtain ⟨c', -, rfl⟩ := List.mem_map.mp hc <;> exact hq

/-- A reconfiguration makes for each port the calls for one port. -/
theorem callsFor_script {old new : VlanSettings} (hd : ports.Nodup) (hp : p ∈ ports) :
    callsFor p (old.script ports new) = old.leaveCalls new ++ old.joinCalls new := by
  have hmap : ∀ calls : List VlanCall, (calls.map (p, ·)).map (·.2) = calls := by
    intro calls
    rw [List.map_map]
    exact List.map_id _
  rw [callsFor, VlanSettings.script, List.filter_append, filter_ports hd hp, filter_ports hd hp,
    List.map_append, hmap, hmap]

/-- The VLANs of the ports after a reconfiguration that succeeds. -/
theorem vlanReconfigure_portVlans {b : BundlePtr} {bundle : OfbundleSai}
    {s : OfprotoBundleSettings} (hb : o.bundles.lookup b = some bundle)
    (hold : bundle.vlanSettings.WF) (hnew : s.vlanSettings.WF)
    (hd : (bundle.ports.map o.portOid).Nodup) (hp : p ∈ bundle.ports)
    (hoid : o.portOid p = some oid) (hrun : vlanReconfigure b s o = .ok (0, o')) :
    o'.portVlans oid = (bundle.vlanSettings.leaveCalls s.vlanSettings ++
      bundle.vlanSettings.joinCalls s.vlanSettings).foldl (fun v c => c.act v)
        (o.portVlans oid) := by
  have hdone := ((vlanReconfigure_plays hb hold hnew hrun).resolve_right fun h => h.1 rfl).2
  have hplay := ofprotoApi_play_port hd hp hoid
    (script_ports (d := bundle.vlanSettings) (e := s.vlanSettings))
  rw [callsFor_script (hd.of_map _) hp] at hplay
  exact (congrArg (fun t => t.2.ports oid) hdone.view).trans hplay

end

end SwitchdSai
