import SwitchdSai.Lib.ApplyAt
import SwitchdSai.Model.BundleConfig

/-!
# The effect of the VLAN functions

The VLAN table of the hardware maps each port object to its row: the VLANs it is a member of, with
their tagging mode. On success each VLAN function changes the row of one port by a function of that
row (`Does`), and the functions compose as the programs do.
-/

namespace SwitchdSai

open Exec

/-- The VLANs a port is a member of. -/
abbrev VlanRow := Nat → Option SaiVlanTaggingMode

/-- The map of labels to port objects and the VLAN row of each object. -/
structure VlanTable where
  oid : Nat → Nat
  rows : Nat → VlanRow

/-- The table with `f` applied to the row of the port with label `hwId`. -/
def VlanTable.onPort (hwId : Nat) (f : VlanRow → VlanRow) (t : VlanTable) : VlanTable :=
  { t with rows := applyAt (t.oid hwId) f t.rows }

@[simp] theorem VlanTable.onPort_id (hwId : Nat) : VlanTable.onPort hwId id = id := by
  funext t
  simp [VlanTable.onPort]

theorem VlanTable.onPort_comp (hwId : Nat) (f g : VlanRow → VlanRow) :
    VlanTable.onPort hwId g ∘ VlanTable.onPort hwId f = VlanTable.onPort hwId (g ∘ f) := by
  funext t
  simp [VlanTable.onPort, applyAt_applyAt]

def Hw.vlanTable (hw : Hw) : VlanTable :=
  ⟨hw.opsSaiApiHwId2PortId, fun oid => (hw.ports oid).vlans⟩

/-- On success `m` changes the row of the port with label `hwId` by `f`, and no other. -/
abbrev DoesRow (hwId : Nat) (m : Exec Hw Int) (f : VlanRow → VlanRow) : Prop :=
  Does Hw.vlanTable m (VlanTable.onPort hwId f)

theorem DoesRow.pure {hwId : Nat} {st : Int} : DoesRow hwId (pure st) id := by
  have : Does Hw.vlanTable (Pure.pure st) id := Does.pure
  rwa [← VlanTable.onPort_id hwId] at this

theorem DoesRow.thenOk {hwId : Nat} {m k : Exec Hw Int} {f g : VlanRow → VlanRow}
    (hm : DoesRow hwId m f) (hk : DoesRow hwId k g) : DoesRow hwId (m.thenOk k) (g ∘ f) := by
  rw [DoesRow, ← VlanTable.onPort_comp]
  exact Does.thenOk hm hk

theorem DoesRow.ite {hwId : Nat} {c : Prop} [Decidable c] {m k : Exec Hw Int}
    {f g : VlanRow → VlanRow} (hm : DoesRow hwId m f) (hk : DoesRow hwId k g) :
    DoesRow hwId (if c then m else k) (if c then f else g) := by
  split <;> assumption

/-- A loop over the elements of `l` changes the row by one function after another. -/
theorem DoesRow.forEach {α : Type} {hwId : Nat} {p : α → Exec Hw Int}
    {e : α → VlanRow → VlanRow} (h : ∀ a, DoesRow hwId (p a) (e a)) (l : List α) :
    DoesRow hwId (forEach l p) fun row => l.foldl (fun row a => e a row) row := by
  induction l with
  | nil => exact DoesRow.pure
  | cons a l ih => exact (h a).thenOk ih

/-! ## Rows -/

/-- The row with VLAN `vid` set to `mode`. -/
def VlanRow.set (vid : Nat) (mode : Option SaiVlanTaggingMode) (row : VlanRow) : VlanRow :=
  Function.update row vid mode

/-- The row with every VLAN of `trunks` set to `mode`. -/
def VlanRow.setTrunks (trunks : VlanBitmap) (mode : Option SaiVlanTaggingMode) (row : VlanRow) :
    VlanRow :=
  fun v => if trunks.getLsbD v then mode else row v

theorem VlanRow.foldl_set (l : List Nat) (mode : Option SaiVlanTaggingMode) (row : VlanRow)
    (v : Nat) :
    l.foldl (fun row vid => row.set vid mode) row v = if v ∈ l then mode else row v := by
  induction l generalizing row with
  | nil => simp
  | cons a l ih =>
    rw [List.foldl_cons, ih]
    by_cases h : v = a
    · subst h; simp [VlanRow.set]
    · simp [VlanRow.set, h]

/-! ## The functions of the VLAN class -/

/-- The mode a VLAN gets when a port is added to it in `mode`, or removed from it. -/
def memberMode (add : Bool) (mode : SaiVlanTaggingMode) : Option SaiVlanTaggingMode :=
  if add then some mode else none

/-- Setting an attribute that is not a VLAN leaves the VLAN table as it was. -/
theorem setHwIdAttr_vlanTable (hwId : Nat) (attr : SaiPortAttr) :
    Frame Hw.vlanTable (setHwIdAttr hwId attr) := by
  intro hw st hw' h
  rw [setHwIdAttr, gets_bind] at h
  obtain ⟨status, hw₁, h₁, h⟩ := bind_ok.mp h
  cases h
  rcases Hw.call_cases h₁ with ⟨-, rfl⟩ | ⟨-, rfl⟩
  · have hv : ∀ oid, ((hw.tick.setPort (hw.opsSaiApiHwId2PortId hwId) attr.set).ports oid).vlans
        = (hw.ports oid).vlans := by
      intro oid
      by_cases ho : oid = hw.opsSaiApiHwId2PortId hwId
      · subst ho
        cases attr <;> simp [Hw.setPort, Hw.tick, SaiPortAttr.set]
      · simp [Hw.setPort, Hw.tick, ho]
    simp only [Hw.vlanTable, hv]
    rfl
  · rfl

theorem setPortsOfVlan_vlanTable {vid hwId : Nat} {mode : SaiVlanTaggingMode} {add : Bool}
    {hw hw' : Hw}
    (h : setPortsOfVlan vid (hw.opsSaiApiHwId2PortId hwId) mode add hw = .ok (.success, hw')) :
    hw'.vlanTable = hw.vlanTable.onPort hwId (VlanRow.set vid (memberMode add mode)) := by
  rcases Hw.call_cases h with ⟨-, rfl⟩ | ⟨hne, -⟩
  · simp only [Hw.vlanTable, VlanTable.onPort, Hw.setPort, VlanTable.mk.injEq]
    refine ⟨rfl, ?_⟩
    funext oid
    by_cases ho : oid = hw.opsSaiApiHwId2PortId hwId
    · subst ho
      simp [HwPort.setVlan, VlanRow.set, memberMode, Hw.tick]
    · rw [applyAt_of_ne ho]
      simp [Hw.tick, ho]
  · exact absurd rfl hne

theorem vlanPortSet_does (vid hwId : Nat) (mode : SaiVlanTaggingMode) (add : Bool) :
    DoesRow hwId (vlanPortSet vid hwId mode add) (VlanRow.set vid (memberMode add mode)) := by
  intro hw hw' h
  rw [vlanPortSet, gets_bind] at h
  obtain ⟨status, hw₁, h₁, h⟩ := bind_ok.mp h
  by_cases hs : status = .success
  · subst hs
    rw [← setPortsOfVlan_vlanTable h₁]
    simp only [ne_eq, not_true, if_false] at h
    split at h
    · cases h; rfl
    · exact setHwIdAttr_vlanTable _ _ _ _ _ h
  · rw [if_pos hs, pure_apply, Except.ok.injEq, Prod.mk.injEq] at h
    exact absurd (saiError2Errno_eq_zero.mp h.1) hs

theorem trunksPortSet_does (trunks : VlanBitmap) (hwId : Nat) (add : Bool) :
    DoesRow hwId (trunksPortSet trunks hwId add)
      (VlanRow.setTrunks trunks (memberMode add .tagged)) := by
  have hrow : VlanRow.setTrunks trunks (memberMode add .tagged) = fun row =>
      trunks.ones.foldl (fun row vid => row.set vid (memberMode add .tagged)) row := by
    funext row v
    simp [VlanRow.foldl_set, VlanRow.setTrunks]
  rw [hrow]
  exact DoesRow.forEach (fun vid => vlanPortSet_does vid hwId .tagged add) trunks.ones

theorem pvidSet_does (hwId pvid : Nat) : DoesRow hwId (opsSaiPortPvidSet hwId pvid) id := by
  rw [DoesRow, VlanTable.onPort_id]
  exact fun hw hw' h => setHwIdAttr_vlanTable _ _ _ _ _ h

theorem accessPortDel_does (vid hwId : Nat) :
    DoesRow hwId (opsSaiVlanAccessPortDel vid hwId) (VlanRow.set vid none) :=
  (vlanPortSet_does vid hwId .untagged false).thenOk (pvidSet_does hwId _)

theorem accessPortAdd_does (vid hwId : Nat) :
    DoesRow hwId (opsSaiVlanAccessPortAdd vid hwId) (VlanRow.set vid (some .untagged)) :=
  vlanPortSet_does vid hwId .untagged true

/-- The row with the native VLAN set; the bitmap of one VLAN sets that VLAN alone. -/
theorem nativeTaggedVlanSet_does (vid : Int) (hwId : Nat) (add : Bool) :
    DoesRow hwId (nativeTaggedVlanSet vid hwId add)
      (VlanRow.set vid.toNat (memberMode add .tagged)) := by
  unfold nativeTaggedVlanSet
  split
  next hv =>
    have hlt : vid.toNat < 4096 := by
      have : vid < ((4096 : Nat) : Int) := hv.2
      omega
    have hrow : VlanRow.setTrunks (VlanBitmap.set1 0 vid.toNat) (memberMode add .tagged) =
        VlanRow.set vid.toNat (memberMode add .tagged) := by
      funext row v
      by_cases hv : v = vid.toNat
      · simp [VlanRow.setTrunks, VlanRow.set, hv, hlt]
      · simp [VlanRow.setTrunks, VlanRow.set, hv]
    rw [← hrow]
    cases add with
    | true => exact (trunksPortSet_does _ hwId true).thenOk (pvidSet_does hwId _)
    | false => exact (trunksPortSet_does _ hwId false).thenOk (pvidSet_does hwId _)
  next => exact fun hw hw' h => by cases h

end SwitchdSai
