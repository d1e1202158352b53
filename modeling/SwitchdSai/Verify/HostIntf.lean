import SwitchdSai.Lib.Mirror
import SwitchdSai.Lib.Run
import SwitchdSai.Model.HostIntf

/-!
# The host interface table and the kernel

Which devices and entries each function leaves, for all outcomes of its commands, and the calls
after which the table still mirrors the devices of the kernel.
-/

namespace SwitchdSai

open Exec

variable {s s' : HostIntfs} {name : String} {handle hwId : Nat} {type : HostIntfType} {st : Int}

/-! ## Commands and SDK calls -/

namespace HostIntfs

/-- The table and the devices of the kernel. -/
def tables (s : HostIntfs) : (AList fun _ : String => HifEntry) × List HostNetdev :=
  (s.allHostIntf, s.kernel)

theorem create_taken (dev : HostNetdev) (s : HostIntfs) : (s.create dev).taken dev.name = true := by
  simp [taken, create]

end HostIntfs

open HostIntfs

/-- The exit code is above the low byte of the wait status. -/
theorem waitStatus_exitCode {code : BitVec 8} (h : code ≠ 0) :
    WEXITSTATUS (code.toNat <<< 8) ≠ 0 ∧ 0xff &&& code.toNat <<< 8 = 0 := by
  have hne : code.toNat ≠ 0 := fun h0 => h (BitVec.eq_of_toNat_eq h0)
  constructor
  · rw [WEXITSTATUS, Nat.shiftLeft_shiftRight, Nat.and_two_pow_sub_one_eq_mod _ 8]
    rwa [Nat.mod_eq_of_lt code.isLt]
  · rw [Nat.and_comm, Nat.and_two_pow_sub_one_eq_mod _ 8, Nat.shiftLeft_eq, Nat.mul_mod_left]

/-- A command either is carried out and returns 0, or changes nothing and returns an exit code above
the low byte. -/
theorem system_ok {valid : HostIntfs → Bool} {effect : HostIntfs → HostIntfs} {err : Nat}
    (h : system valid effect s = .ok (err, s')) :
    (s.exitCode = 0 ∧ valid s = true ∧ err = 0 ∧ s' = effect s.tickCode) ∨
      (¬(s.exitCode = 0 ∧ valid s = true) ∧ WEXITSTATUS err ≠ 0 ∧ 0xff &&& err = 0 ∧
        s' = s.tickCode) := by
  unfold system at h
  split at h
  next hcode =>
    split at h
    next hvalid =>
      cases h
      exact .inl ⟨hcode, hvalid, rfl, rfl⟩
    next hvalid =>
      cases h
      exact .inr ⟨fun h => hvalid h.2, by decide, by decide, rfl⟩
  next hcode =>
    cases h
    obtain ⟨hstatus, hlow⟩ := waitStatus_exitCode hcode
    exact .inr ⟨fun h => hcode h.1, hstatus, hlow, rfl⟩

theorem sxNet_ok {valid : HostIntfs → Bool} {effect : HostIntfs → HostIntfs} {status : SaiStatus}
    (h : sxNet valid effect s = .ok (status, s')) :
    (s.nextOutcome = .success ∧ valid s = true ∧ status = .success ∧ s' = effect s.tick) ∨
      (¬(s.nextOutcome = .success ∧ valid s = true) ∧ status ≠ .success ∧ s' = s.tick) := by
  unfold sxNet at h
  split at h
  next hout =>
    split at h
    next hvalid =>
      cases h
      exact .inl ⟨hout, hvalid, rfl, rfl⟩
    next hvalid =>
      cases h
      exact .inr ⟨fun h => hvalid h.2, by decide, rfl⟩
  next hout =>
    cases h
    exact .inr ⟨fun h => hout h.1, hout, rfl⟩

theorem mlnxObjectToType_ok {u : Unit} (h : mlnxObjectToType s = .ok (u, s')) : s' = s.tick := by
  obtain ⟨status, s₁, h₁, h⟩ := bind_ok.mp h
  obtain ⟨-, hend⟩ := require_ok.mp h
  cases hend
  rcases sxNet_ok h₁ with ⟨-, -, -, h₁⟩ | ⟨-, -, h₁⟩ <;> exact h₁

/-! ## Creating a device -/

/-- The first step of a creation can be carried out. -/
def HostIntfs.CanCreate (s : HostIntfs) (name : String) (handle : Nat) : HostIntfType → Prop
  | .l2PortNetdev | .l3VlanNetdev => s.exitCode = 0 ∧ s.free name = true
  | .l3PortNetdev =>
    s.tick.nextOutcome = .success ∧ s.free name = true ∧ s.kernel.any (isL3Port handle) = false

/-- The second step of a creation, if there is one, can be carried out. -/
def HostIntfs.CanAddress (s : HostIntfs) : HostIntfType → Prop
  | .l2PortNetdev => s.tickCode.exitCode = 0
  | .l3PortNetdev => s.exitCode = 0
  | .l3VlanNetdev => True

/-- The outcome `st` and the state `s'` of a creation: it leaves a device exactly when its first
step can be carried out, and succeeds when both can. -/
def HostIntfs.Created (s : HostIntfs) (name : String) (handle : Nat) (type : HostIntfType)
    (st : Int) (s' : HostIntfs) : Prop :=
  (¬s.CanCreate name handle type ∧ st ≠ 0 ∧ s'.tables = s.tables) ∨
    (s.CanCreate name handle type ∧ s'.tables = (s.create ⟨name, type, handle⟩).tables ∧
      (st = 0 ↔ s.CanAddress type))

/-- The last step of a creation. -/
theorem ipLinkSetAddress_ok {err : Nat} (htaken : s.taken name = true)
    (h : ipLinkSetAddress name s = .ok (err, s')) :
    s'.tables = s.tables ∧ ((err : Int) = 0 ↔ s.exitCode = 0) := by
  rcases system_ok h with ⟨hcode, -, rfl, rfl⟩ | ⟨hfail, herr, -, rfl⟩
  · exact ⟨rfl, iff_of_true rfl hcode⟩
  · refine ⟨rfl, iff_of_false (fun h0 => ?_) fun hcode => hfail ⟨hcode, htaken⟩⟩
    rw [Int.natCast_eq_zero.mp h0] at herr
    exact herr rfl

theorem mlnxCreateL2PortNetdev_ok (h : mlnxCreateL2PortNetdev name handle s = .ok (st, s')) :
    s.Created name handle .l2PortNetdev st s' := by
  obtain ⟨_, s₀, hobj, h⟩ := bind_ok.mp h
  obtain rfl := mlnxObjectToType_ok hobj
  obtain ⟨err, s₁, hadd, h⟩ := bind_ok.mp h
  rcases system_ok hadd with ⟨hcode, hfree, rfl, rfl⟩ | ⟨hfail, herr, -, rfl⟩
  · obtain ⟨err, s₂, haddr, h⟩ := bind_ok.mp h
    cases h
    obtain ⟨htables, hcode'⟩ := ipLinkSetAddress_ok (create_taken ..) haddr
    exact .inr ⟨⟨hcode, hfree⟩, htables, hcode'⟩
  · rw [if_pos herr] at h
    cases h
    exact .inl ⟨hfail, fun h0 => herr (by rw [Int.natCast_eq_zero.mp h0]; rfl), rfl⟩

theorem mlnxCreateL3PortNetdev_ok (h : mlnxCreateL3PortNetdev name handle s = .ok (st, s')) :
    s.Created name handle .l3PortNetdev st s' := by
  obtain ⟨_, s₀, hobj, h⟩ := bind_ok.mp h
  obtain rfl := mlnxObjectToType_ok hobj
  obtain ⟨status, s₁, hcreate, h⟩ := bind_ok.mp h
  rcases sxNet_ok hcreate with ⟨hout, hvalid, rfl, rfl⟩ | ⟨hfail, hstatus, rfl⟩
  · obtain ⟨err, s₂, haddr, h⟩ := bind_ok.mp h
    cases h
    obtain ⟨htables, hcode⟩ := ipLinkSetAddress_ok (create_taken ..) haddr
    simp only [Bool.and_eq_true, Bool.not_eq_true'] at hvalid
    exact .inr ⟨⟨hout, hvalid⟩, htables, hcode⟩
  · rw [if_pos hstatus] at h
    cases h
    refine .inl ⟨fun hcan => hfail ⟨hcan.1, ?_⟩, mt sxError2Errno_eq_zero.mp hstatus, rfl⟩
    simp only [Bool.and_eq_true, Bool.not_eq_true']
    exact hcan.2

theorem mlnxCreateL3VlanNetdev_ok (h : mlnxCreateL3VlanNetdev name handle s = .ok (st, s')) :
    s.Created name handle .l3VlanNetdev st s' := by
  obtain ⟨err, s₁, hadd, h⟩ := bind_ok.mp h
  cases h
  rcases system_ok hadd with ⟨hcode, hfree, rfl, rfl⟩ | ⟨hfail, herr, -, rfl⟩
  · exact .inr ⟨⟨hcode, hfree⟩, rfl, iff_of_true rfl trivial⟩
  · exact .inl ⟨hfail, fun h0 => herr (by rw [Int.natCast_eq_zero.mp h0]; rfl), rfl⟩

theorem mlnxCreateNetdev_ok (h : mlnxCreateNetdev name handle type s = .ok (st, s')) :
    s.Created name handle type st s' := by
  cases type with
  | l2PortNetdev => exact mlnxCreateL2PortNetdev_ok h
  | l3PortNetdev => exact mlnxCreateL3PortNetdev_ok h
  | l3VlanNetdev => exact mlnxCreateL3VlanNetdev_ok h

/-- An entry comes when both steps of the creation can be carried out. When only the first can, the
device stays without one. -/
theorem hostIntfNetdevCreate_ok {mac : EthAddr}
    (h : hostIntfNetdevCreate name type handle mac s = .ok (st, s')) :
    (¬(s.CanCreate name handle type ∧ s.CanAddress type) ∧ st ≠ 0 ∧
      s'.allHostIntf = s.allHostIntf ∧
      (¬s.CanCreate name handle type ∧ s'.kernel = s.kernel ∨
        s.CanCreate name handle type ∧ s'.kernel = ⟨name, type, handle⟩ :: s.kernel)) ∨
    (st = 0 ∧ s.CanCreate name handle type ∧ s.CanAddress type ∧
      s.allHostIntf.lookup name = none ∧
      s'.allHostIntf = s.allHostIntf.insert name ⟨type, handle, mac⟩ ∧
      s'.kernel = ⟨name, type, handle⟩ :: s.kernel) := by
  obtain ⟨err, s₁, hcreate, h⟩ := bind_ok.mp h
  rcases mlnxCreateNetdev_ok hcreate with ⟨hcan, herr, htables⟩ | ⟨hcan, htables, hst⟩
  · obtain ⟨htable, hkernel⟩ := Prod.mk.inj htables
    rw [if_pos herr] at h
    cases h
    exact .inl ⟨fun h => hcan h.1, herr, htable, .inl ⟨hcan, hkernel⟩⟩
  obtain ⟨htable, hkernel⟩ := Prod.mk.inj htables
  by_cases haddr : s.CanAddress type
  · rw [if_neg (not_not.mpr (hst.mpr haddr))] at h
    obtain ⟨_, s₂, hadd, h⟩ := bind_ok.mp h
    cases h
    rw [hostIntfEntryAdd, hostIntfEntryFind, gets_bind, require_bind, htable] at hadd
    obtain ⟨hnone, hadd⟩ := hadd
    cases hadd
    refine .inr ⟨hst.mpr haddr, hcan, haddr, Option.isNone_iff_eq_none.mp hnone, ?_, hkernel⟩
    exact congrArg (AList.insert name _) htable
  · rw [if_pos (mt hst.mp haddr)] at h
    cases h
    exact .inl ⟨fun h => haddr h.2, mt hst.mp haddr, htable, .inr ⟨hcan, hkernel⟩⟩

/-! ## Removing a device -/

/-- The removal of an L2 or VLAN device reports success whether or not the device is gone. -/
theorem mlnxRemoveNetdev_ok (h : mlnxRemoveNetdev name s = .ok (st, s')) :
    st = 0 ∧ ((s.exitCode = 0 ∧ s.taken name = true ∧ s' = s.tickCode.remove (·.name = name)) ∨
      (¬(s.exitCode = 0 ∧ s.taken name = true) ∧ s' = s.tickCode)) := by
  obtain ⟨status, s₁, hdel, h⟩ := bind_ok.mp h
  cases h
  rcases system_ok hdel with ⟨hcode, htaken, rfl, rfl⟩ | ⟨hfail, -, hlow, rfl⟩
  · exact ⟨rfl, .inl ⟨hcode, htaken, rfl⟩⟩
  · exact ⟨congrArg Nat.cast hlow, .inr ⟨hfail, rfl⟩⟩

theorem mlnxRemoveL3PortNetdev_ok {hif : HifEntry} (hfind : s.allHostIntf.lookup name = some hif)
    (hany : s.kernel.any (isL3Port hif.handle) = true)
    (h : mlnxRemoveL3PortNetdev name s = .ok (st, s')) :
    (s.nextOutcome = .success ∧ st = 0 ∧ s' = s.tick.remove (isL3Port hif.handle)) ∨
      (s.nextOutcome ≠ .success ∧ st ≠ 0 ∧ s' = s.tick) := by
  rw [mlnxRemoveL3PortNetdev, hostIntfEntryFind, gets_bind, hfind] at h
  obtain ⟨status, s₁, hdestroy, h⟩ := bind_ok.mp h
  cases h
  rcases sxNet_ok hdestroy with ⟨hout, -, rfl, rfl⟩ | ⟨hfail, hstatus, rfl⟩
  · exact .inl ⟨hout, rfl, rfl⟩
  · exact .inr ⟨fun hout => hfail ⟨hout, hany⟩, mt sxError2Errno_eq_zero.mp hstatus, rfl⟩

/-! ## Entries and devices -/

/-- What an entry or a device says of its name. -/
def HostNetdev.row (dev : HostNetdev) : Option (String × HostIntfType × Nat) :=
  some (dev.name, dev.type, dev.handle)

def HifEntry.row (hif : HifEntry) : HostIntfType × Nat := (hif.type, hif.handle)

def HostIntfs.rows (s : HostIntfs) (name : String) : Option (HostIntfType × Nat) :=
  (s.allHostIntf.lookup name).map HifEntry.row

theorem HostIntfs.rows_of_lookup {hif : HifEntry} (h : s.allHostIntf.lookup name = some hif) :
    s.rows name = some (hif.type, hif.handle) := congrArg (Option.map HifEntry.row) h

/-- The rows of the table are those of the devices. An L3 port has one device, and names are
short. -/
structure DevicesOk (rows : String → Option (HostIntfType × Nat)) (devs : List HostNetdev) :
    Prop where
  mirrors : Mirrors HostNetdev.row {dev | dev ∈ devs} rows
  l3Unique : ∀ dev ∈ devs, ∀ dev' ∈ devs, dev.type = .l3PortNetdev → dev'.type = .l3PortNetdev →
    dev.handle = dev'.handle → dev.name = dev'.name
  short : ∀ dev ∈ devs, dev.name.utf8ByteSize < IFNAMSIZ

namespace DevicesOk

variable {rows : String → Option (HostIntfType × Nat)} {devs : List HostNetdev} {dev : HostNetdev}

theorem empty : DevicesOk (fun _ => none) [] where
  mirrors := by simpa using Mirrors.empty
  l3Unique _ h := absurd h List.not_mem_nil
  short _ h := absurd h List.not_mem_nil

theorem rows_eq (h : DevicesOk rows devs) (hdev : dev ∈ devs) :
    rows dev.name = some (dev.type, dev.handle) := h.mirrors.sound dev hdev _ _ rfl

theorem mem (h : DevicesOk rows devs) (hrow : rows name = some (type, handle)) :
    ⟨name, type, handle⟩ ∈ devs := by
  obtain ⟨dev, hdev, he⟩ := h.mirrors.complete _ _ hrow
  cases he
  exact hdev

theorem rows_eq_none (h : DevicesOk rows devs) (hfree : ∀ dev ∈ devs, dev.name ≠ name) :
    rows name = none := by
  cases hrow : rows name with
  | none => rfl
  | some r => exact absurd rfl (hfree _ (h.mem hrow))

theorem create (h : DevicesOk rows devs) (hfree : ∀ dev ∈ devs, dev.name ≠ name)
    (hshort : name.utf8ByteSize < IFNAMSIZ)
    (hl3 : type = .l3PortNetdev → devs.any (isL3Port handle) = false) :
    DevicesOk (Function.update rows name (some (type, handle))) (⟨name, type, handle⟩ :: devs) := by
  have hl3 : ∀ dev ∈ devs, dev.type = .l3PortNetdev → type = .l3PortNetdev →
      dev.handle ≠ handle := fun dev hdev ht ht' hh => by
    have := List.any_eq_false.mp (hl3 ht') dev hdev
    exact this (by simp [isL3Port, ht, hh])
  refine ⟨?_, fun dev hdev dev' hdev' ht ht' hh => ?_, fun dev hdev => ?_⟩
  · have hins := h.mirrors.insert (e := ⟨name, type, handle⟩) rfl fun dev hdev _ hrow =>
      absurd (congrArg Prod.fst (Option.some.inj hrow)) (hfree dev hdev)
    convert hins using 1
    ext dev
    exact List.mem_cons
  · rcases List.mem_cons.mp hdev with rfl | hdev <;> rcases List.mem_cons.mp hdev' with rfl | hdev'
    · rfl
    · exact absurd hh.symm (hl3 dev' hdev' ht' ht)
    · exact absurd hh (hl3 dev hdev ht ht')
    · exact h.l3Unique dev hdev dev' hdev' ht ht' hh
  · rcases List.mem_cons.mp hdev with rfl | hdev
    · exact hshort
    · exact h.short dev hdev

theorem remove (h : DevicesOk rows devs) (name : String) :
    DevicesOk (Function.update rows name none)
      (devs.filter fun dev => !decide (dev.name = name)) := by
  have hsub : ∀ dev, dev ∈ devs.filter (fun dev => !decide (dev.name = name)) → dev ∈ devs :=
    fun dev => List.mem_of_mem_filter
  refine ⟨?_, fun dev hdev dev' hdev' => h.l3Unique dev (hsub dev hdev) dev' (hsub dev' hdev'),
    fun dev hdev => h.short dev (hsub dev hdev)⟩
  have hrem := h.mirrors.remove (a := name) (P := fun dev => dev.name = name)
    (fun dev _ hname => ⟨(dev.type, dev.handle), by rw [HostNetdev.row, hname]⟩)
    fun dev _ _ hrow => congrArg Prod.fst (Option.some.inj hrow)
  convert hrem using 1
  ext dev
  simp

/-- The devices of an L3 port are those with the name of its entry. -/
theorem filter_isL3Port (h : DevicesOk rows devs)
    (hrow : rows name = some (.l3PortNetdev, handle)) :
    devs.filter (fun dev => !isL3Port handle dev) =
      devs.filter fun dev => !decide (dev.name = name) := by
  refine List.filter_congr fun dev hdev => congrArg (!·) ?_
  rw [Bool.eq_iff_iff, decide_eq_true_eq]
  constructor
  · intro hl3
    simp only [isL3Port, Bool.and_eq_true, decide_eq_true_eq] at hl3
    exact h.l3Unique dev hdev _ (h.mem hrow) hl3.1 rfl hl3.2
  · rintro rfl
    have := (h.rows_eq hdev).symm.trans hrow
    simp only [Option.some.injEq, Prod.mk.injEq] at this
    simp [isL3Port, this]

/-- A device that is not the one of an L3 port does not matter to the search for one. -/
theorem any_isL3Port_filter (h : DevicesOk rows devs) (handle' : Nat)
    (hrow : rows name = some (type, handle)) (hne : type ≠ .l3PortNetdev) :
    (devs.filter fun dev => !decide (dev.name = name)).any (isL3Port handle') =
      devs.any (isL3Port handle') := by
  rw [Bool.eq_iff_iff, List.any_eq_true, List.any_eq_true]
  constructor
  · rintro ⟨dev, hdev, hl3⟩
    exact ⟨dev, List.mem_of_mem_filter hdev, hl3⟩
  · rintro ⟨dev, hdev, hl3⟩
    refine ⟨dev, List.mem_filter.mpr ⟨hdev, ?_⟩, hl3⟩
    simp only [isL3Port, Bool.and_eq_true, decide_eq_true_eq] at hl3
    simp only [Bool.not_eq_true', decide_eq_false_iff_not]
    rintro rfl
    have := (h.rows_eq hdev).symm.trans hrow
    simp only [Option.some.injEq, Prod.mk.injEq] at this
    exact hne (this.1.symm.trans hl3.1)

end DevicesOk

/-- The table mirrors the kernel: the entries and the devices have the same names and types. -/
def HostIntfs.Mirrored (s : HostIntfs) : Prop :=
  ∀ name type, (∃ hif, s.allHostIntf.lookup name = some hif ∧ hif.type = type) ↔
    ∃ dev ∈ s.kernel, dev.name = name ∧ dev.type = type

abbrev HostIntfs.Ok (s : HostIntfs) : Prop := DevicesOk s.rows s.kernel

theorem HostIntfs.Ok.mirrored (h : s.Ok) : s.Mirrored := by
  intro name type
  constructor
  · rintro ⟨hif, hfind, rfl⟩
    exact ⟨_, h.mem (rows_of_lookup hfind), rfl, rfl⟩
  · rintro ⟨dev, hdev, rfl, rfl⟩
    obtain ⟨hif, hfind, hrow⟩ := Option.map_eq_some_iff.mp (h.rows_eq hdev)
    exact ⟨hif, hfind, congrArg Prod.fst hrow⟩

theorem HostIntfs.Ok.of_tables (h : s.Ok) (htables : s'.tables = s.tables) : s'.Ok := by
  obtain ⟨htable, hkernel⟩ := Prod.mk.inj htables
  unfold HostIntfs.Ok rows
  rw [htable, hkernel]
  exact h

theorem HostIntfs.Ok.taken (h : s.Ok) {hif : HifEntry}
    (hfind : s.allHostIntf.lookup name = some hif) : s.taken name = true :=
  List.any_eq_true.mpr ⟨_, h.mem (rows_of_lookup hfind), decide_eq_true rfl⟩

theorem HostIntfs.Ok.any_isL3Port (h : s.Ok) {hif : HifEntry}
    (hfind : s.allHostIntf.lookup name = some hif) (hl3 : hif.type = .l3PortNetdev) :
    s.kernel.any (isL3Port hif.handle) = true :=
  List.any_eq_true.mpr ⟨_, h.mem (rows_of_lookup hfind), by simp [isL3Port, hl3]⟩

theorem HostIntfs.free_iff : s.free name = true ↔
    (∀ dev ∈ s.kernel, dev.name ≠ name) ∧ name.utf8ByteSize < IFNAMSIZ := by
  simp [HostIntfs.free, HostIntfs.taken]

theorem rows_insert {table : AList fun _ : String => HifEntry} {hif : HifEntry} :
    (fun n => ((table.insert name hif).lookup n).map HifEntry.row) =
      Function.update (fun n => (table.lookup n).map HifEntry.row) name (some hif.row) := by
  funext n
  rw [Function.update_apply]
  split
  next h => rw [h, AList.lookup_insert]; rfl
  next h => rw [AList.lookup_insert_ne h]

theorem rows_erase {table : AList fun _ : String => HifEntry} :
    (fun n => ((table.erase name).lookup n).map HifEntry.row) =
      Function.update (fun n => (table.lookup n).map HifEntry.row) name none := by
  funext n
  rw [Function.update_apply]
  split
  next h => rw [h, AList.lookup_erase]; rfl
  next h => rw [AList.lookup_erase_ne h]

theorem HostIntfs.not_mirrored_of_device {dev : HostNetdev} (hdev : dev ∈ s.kernel)
    (hno : ∀ hif, s.allHostIntf.lookup dev.name = some hif → hif.type ≠ dev.type) :
    ¬s.Mirrored := fun h => by
  obtain ⟨hif, hfind, htype⟩ := (h dev.name dev.type).mpr ⟨dev, hdev, rfl, rfl⟩
  exact hno hif hfind htype

theorem HostIntfs.not_mirrored_of_entry {hif : HifEntry}
    (hfind : s.allHostIntf.lookup name = some hif)
    (hno : ∀ dev ∈ s.kernel, dev.name = name → dev.type ≠ hif.type) : ¬s.Mirrored := fun h => by
  obtain ⟨dev, hdev, hname, htype⟩ := (h name hif.type).mp ⟨hif, hfind, rfl⟩
  exact hno dev hdev hname htype

/-! ## Calls -/

inductive HostIntfCall where
  | create (name : String) (type : HostIntfType) (handle : Nat) (mac : EthAddr)
  | remove (name : String)
  | toL2 (hwId : Nat)
  | toL3 (hwId : Nat)

def HostIntfCall.run : HostIntfCall → Exec HostIntfs Int
  | .create name type handle mac => hostIntfNetdevCreate name type handle mac
  | .remove name => hostIntfNetdevRemove name
  | .toL2 hwId => do portTransactionToL2 hwId; return 0
  | .toL3 hwId => do portTransactionToL3 hwId; return 0

/-- The failures that a call does not undo or does not see do not happen. -/
def HostIntfCall.Safe (s : HostIntfs) : HostIntfCall → Prop
  -- a device that has been created gets its address
  | .create name type handle _ => s.CanCreate name handle type → s.CanAddress type
  -- the exit code of the deletion is masked
  | .remove name => ∀ hif, s.allHostIntf.lookup name = some hif → hif.type ≠ .l3PortNetdev →
      s.exitCode = 0
  -- a device that has been removed is replaced
  | .toL2 hwId => ∀ name hif, result (hostIntfOfPort hwId) s = some (name, hif) →
      hif.type = .l3PortNetdev → s.nextOutcome = .success →
        s.exitCode = 0 ∧ s.tickCode.exitCode = 0
  | .toL3 hwId => ∀ name hif, result (hostIntfOfPort hwId) s = some (name, hif) →
      hif.type = .l2PortNetdev → s.exitCode = 0 → s.tick.nextOutcome = .success ∧
        s.kernel.any (isL3Port hif.handle) = false ∧ s.tickCode.exitCode = 0

theorem CanCreate.free (h : s.CanCreate name handle type) : s.free name = true ∧
    (type = .l3PortNetdev → s.kernel.any (isL3Port handle) = false) := by
  cases type with
  | l2PortNetdev => exact ⟨h.2, fun ht => by cases ht⟩
  | l3PortNetdev => exact ⟨h.2.1, fun _ => h.2.2⟩
  | l3VlanNetdev => exact ⟨h.2, fun ht => by cases ht⟩

theorem HostIntfs.Ok.lookup_of_free (h : s.Ok) (hfree : s.free name = true) :
    s.allHostIntf.lookup name = none :=
  Option.map_eq_none_iff.mp (h.rows_eq_none (HostIntfs.free_iff.1 hfree).1)

/-- A device that is created with its entry. -/
theorem HostIntfs.Ok.create (h : s.Ok) (hcan : s.CanCreate name handle type) (mac : EthAddr)
    (hkernel : s'.kernel = ⟨name, type, handle⟩ :: s.kernel)
    (htable : s'.allHostIntf = s.allHostIntf.insert name ⟨type, handle, mac⟩) : s'.Ok := by
  obtain ⟨hfree, hl3⟩ := CanCreate.free hcan
  obtain ⟨hfree, hshort⟩ := HostIntfs.free_iff.1 hfree
  have hcreate := DevicesOk.create h hfree hshort hl3
  unfold HostIntfs.Ok rows
  rw [hkernel, htable, rows_insert]
  exact hcreate

theorem hostIntfNetdevCreate_exact {mac : EthAddr} (hok : s.Ok)
    (h : hostIntfNetdevCreate name type handle mac s = .ok (st, s')) :
    ((s.CanCreate name handle type → s.CanAddress type) → s'.Ok) ∧
      (s'.Mirrored → s.CanCreate name handle type → s.CanAddress type) := by
  rcases hostIntfNetdevCreate_ok h with ⟨hfail, hst, htable, hkernel⟩ |
    ⟨-, hcan, haddr, -, htable, hkernel⟩
  · rcases hkernel with ⟨hcan, hkernel⟩ | ⟨hcan, hkernel⟩
    · exact ⟨fun _ => hok.of_tables (congrArg₂ Prod.mk htable hkernel), fun _ h => absurd h hcan⟩
    refine ⟨fun hsafe => absurd ⟨hcan, hsafe hcan⟩ hfail, fun hm => absurd hm ?_⟩
    -- the device is there, and the entry is not
    have hdev : ⟨name, type, handle⟩ ∈ s'.kernel := by
      rw [hkernel]
      exact List.mem_cons_self ..
    refine not_mirrored_of_device hdev fun hif hfind => ?_
    rw [htable] at hfind
    cases (hok.lookup_of_free (CanCreate.free hcan).1).symm.trans hfind
  · exact ⟨fun _ => hok.create hcan mac hkernel htable, fun _ _ => haddr⟩

theorem mlnxRemoveNetdevOfType_of_ne (h : type ≠ .l3PortNetdev) :
    mlnxRemoveNetdevOfType name type = mlnxRemoveNetdev name := by
  cases type with
  | l2PortNetdev => rfl
  | l3VlanNetdev => rfl
  | l3PortNetdev => exact absurd rfl h

/-- An entry that is removed with its device. -/
theorem HostIntfs.Ok.remove (h : s.Ok)
    (hkernel : s'.kernel = s.kernel.filter fun dev => !decide (dev.name = name))
    (htable : s'.allHostIntf = s.allHostIntf.erase name) : s'.Ok := by
  have hremove := DevicesOk.remove h name
  unfold HostIntfs.Ok rows
  rw [hkernel, htable, rows_erase]
  exact hremove

theorem hostIntfNetdevRemove_exact (hok : s.Ok) (h : hostIntfNetdevRemove name s = .ok (st, s')) :
    (HostIntfCall.Safe s (.remove name) → s'.Ok) ∧
      (s'.Mirrored → HostIntfCall.Safe s (.remove name)) := by
  rw [hostIntfNetdevRemove, hostIntfEntryFind, gets_bind, need_bind] at h
  obtain ⟨hif, hfind, h⟩ := h
  obtain ⟨err, s₁, hremove, h⟩ := bind_ok.mp h
  have htaken := hok.taken hfind
  have hrow := rows_of_lookup hfind
  by_cases hl3 : hif.type = .l3PortNetdev
  · have hsafe : HostIntfCall.Safe s (.remove name) := fun hif' hfind' hl2 => by
      cases hfind.symm.trans hfind'
      exact absurd hl3 hl2
    have hany := hok.any_isL3Port hfind hl3
    rw [hl3] at hremove hrow
    rcases mlnxRemoveL3PortNetdev_ok hfind hany hremove with ⟨-, rfl, rfl⟩ | ⟨-, herr, rfl⟩
    · cases h
      refine ⟨fun _ => hok.remove ?_ rfl, fun _ => hsafe⟩
      exact hok.filter_isL3Port hrow
    · rw [if_pos herr] at h
      cases h
      exact ⟨fun _ => hok.of_tables rfl, fun _ => hsafe⟩
  · rw [mlnxRemoveNetdevOfType_of_ne hl3] at hremove
    obtain ⟨rfl, ⟨hcode, -, rfl⟩ | ⟨hfail, rfl⟩⟩ := mlnxRemoveNetdev_ok hremove
    · cases h
      exact ⟨fun _ => hok.remove rfl rfl, fun _ _ _ _ => hcode⟩
    · cases h
      refine ⟨fun hsafe => absurd ⟨hsafe hif hfind hl3, htaken⟩ hfail, fun hm => absurd hm ?_⟩
      -- the entry is gone, and the device is not
      have hdev : ⟨name, hif.type, hif.handle⟩ ∈ s.kernel := hok.mem hrow
      refine not_mirrored_of_device hdev fun hif' hfind' => ?_
      cases (AList.lookup_erase name s.allHostIntf).symm.trans hfind'

/-- The entry that the search for the host interface of a port finds. -/
theorem hostIntfOfPort_ok {hif : HifEntry} (h : hostIntfOfPort hwId s = .ok ((name, hif), s')) :
    s.allHostIntf.lookup name = some hif ∧ hif.isPort hwId = true ∧
      ∃ cs, s' = { s with choices := cs } := by
  unfold hostIntfOfPort at h
  dsimp only at h
  split at h
  next e he =>
    cases h
    have hisPort : hif.isPort hwId = true := by simpa using List.find?_some he
    have hmem := List.mem_of_find?_eq_some he
    rw [mem_walk, List.mem_map] at hmem
    obtain ⟨⟨_, _⟩, hmem, heq⟩ := hmem
    cases heq
    exact ⟨AList.mem_lookup_iff.mpr hmem, hisPort, _, rfl⟩
  next => cases h

/-- The name of a device that has been removed can be used again. -/
theorem HostIntfs.Ok.free_of_remove {s₁ : HostIntfs} {hif : HifEntry} (hok : s.Ok)
    (hfind : s.allHostIntf.lookup name = some hif)
    (hkernel : s₁.kernel = s.kernel.filter fun dev => !decide (dev.name = name)) :
    s₁.free name = true := by
  refine HostIntfs.free_iff.2 ⟨fun dev hdev => ?_, hok.short _ (hok.mem (rows_of_lookup hfind))⟩
  rw [hkernel] at hdev
  simpa using (List.mem_filter.mp hdev).2

theorem HifEntry.isPort_type {hif : HifEntry} (h : hif.isPort hwId = true) :
    hif.type = .l2PortNetdev ∨ hif.type = .l3PortNetdev := by
  simp only [HifEntry.isPort, Bool.and_eq_true, Bool.or_eq_true, decide_eq_true_eq] at h
  exact h.1

/-- A device that has been removed is replaced by one of another type, and the entry gets that type.
The state `s₁` is the one after the removal. -/
theorem replace_exact {s₁ s₂ : HostIntfs} {hif : HifEntry} {err : Int} {u : Unit} (hok : s.Ok)
    (hcreated : s₁.Created name hif.handle type err s₂)
    (hfind : s.allHostIntf.lookup name = some hif) (hne : type ≠ hif.type)
    (hkernel : s₁.kernel = s.kernel.filter fun dev => !decide (dev.name = name))
    (htable : s₁.allHostIntf = s.allHostIntf)
    (h : (if err ≠ 0 then pure () else hostIntfEntrySetType name hif type : Exec HostIntfs Unit)
      s₂ = .ok (u, s')) :
    (s₁.CanCreate name hif.handle type ∧ s₁.CanAddress type → s'.Ok) ∧
      (s'.Mirrored → s₁.CanCreate name hif.handle type ∧ s₁.CanAddress type) := by
  have hgone : ∀ dev ∈ s₁.kernel, dev.name ≠ name := fun dev hdev => by
    rw [hkernel] at hdev
    simpa using (List.mem_filter.mp hdev).2
  rcases hcreated with ⟨hcan, herr, htables⟩ | ⟨hcan, htables, hst⟩
  · rw [if_pos herr] at h
    cases h
    obtain ⟨htable', hkernel'⟩ := Prod.mk.inj htables
    refine ⟨fun hsafe => absurd hsafe.1 hcan, fun hm => absurd hm ?_⟩
    refine not_mirrored_of_entry (htable'.trans htable ▸ hfind) fun dev hdev hname => ?_
    exact absurd hname (hgone dev (hkernel' ▸ hdev))
  obtain ⟨htable', hkernel'⟩ := Prod.mk.inj htables
  by_cases haddr : s₁.CanAddress type
  · rw [if_neg (not_not.mpr (hst.mpr haddr))] at h
    cases h
    refine ⟨fun _ => ?_, fun _ => ⟨hcan, haddr⟩⟩
    obtain ⟨hfree, hl3⟩ := CanCreate.free hcan
    have hreplace := (DevicesOk.remove hok name).create (hkernel ▸ hgone)
      (HostIntfs.free_iff.1 hfree).2 (hkernel ▸ hl3)
    rw [Function.update_idem, ← hkernel] at hreplace
    unfold HostIntfs.Ok rows
    show DevicesOk
      (fun n => ((s₂.allHostIntf.insert name { hif with type := type }).lookup n).map _) s₂.kernel
    rw [rows_insert, hkernel', htable', show (s₁.create _).allHostIntf = s.allHostIntf from htable]
    exact hreplace
  · rw [if_pos (mt hst.mp haddr)] at h
    cases h
    refine ⟨fun hsafe => absurd hsafe.2 haddr, fun hm => absurd hm ?_⟩
    refine not_mirrored_of_entry (htable'.trans htable ▸ hfind) fun dev hdev hname => ?_
    rw [hkernel'] at hdev
    rcases List.mem_cons.mp hdev with rfl | hdev
    · exact hne
    · exact absurd hname (hgone dev hdev)

theorem portTransactionToL2_exact (hok : s.Ok)
    (h : HostIntfCall.run (.toL2 hwId) s = .ok (st, s')) :
    (HostIntfCall.Safe s (.toL2 hwId) → s'.Ok) ∧
      (s'.Mirrored → HostIntfCall.Safe s (.toL2 hwId)) := by
  obtain ⟨_, s₁, h, hend⟩ := bind_ok.mp h
  cases hend
  obtain ⟨⟨name, hif⟩, s₁, hport, h⟩ := bind_ok.mp h
  have hresult := result_eq_some.mpr ⟨s₁, hport⟩
  obtain ⟨hfind, hisPort, cs, rfl⟩ := hostIntfOfPort_ok hport
  have hrow := rows_of_lookup hfind
  dsimp only at h
  rcases HifEntry.isPort_type hisPort with hl2 | hl3
  · rw [if_pos hl2] at h
    cases h
    refine ⟨fun _ => hok.of_tables rfl, fun _ name' hif' hresult' hl3 => ?_⟩
    cases hresult.symm.trans hresult'
    cases hl2.symm.trans hl3
  have hne : HostIntfType.l2PortNetdev ≠ hif.type := by rw [hl3]; decide
  rw [if_neg hne.symm] at h
  obtain ⟨err, s₂, hremove, h⟩ := bind_ok.mp h
  have hany := hok.any_isL3Port hfind hl3
  rw [hl3] at hrow
  rcases mlnxRemoveL3PortNetdev_ok (s := { s with choices := cs }) hfind hany hremove with
    ⟨hout, rfl, rfl⟩ | ⟨hout, herr, rfl⟩
  · rw [if_neg (not_not.mpr rfl)] at h
    obtain ⟨err, s₃, hcreate, h⟩ := bind_ok.mp h
    have hkernel := hok.filter_isL3Port hrow
    have hreplace := replace_exact hok (mlnxCreateL2PortNetdev_ok hcreate) hfind hne hkernel rfl h
    refine ⟨fun hsafe => hreplace.1 ?_, fun hm name' hif' hresult' _ _ => ?_⟩
    · obtain ⟨hcode, hcode'⟩ := hsafe name hif hresult hl3 hout
      exact ⟨⟨hcode, hok.free_of_remove hfind hkernel⟩, hcode'⟩
    · obtain ⟨⟨hcode, -⟩, hcode'⟩ := hreplace.2 hm
      exact ⟨hcode, hcode'⟩
  · rw [if_pos herr] at h
    cases h
    refine ⟨fun _ => hok.of_tables rfl, fun _ name' hif' hresult' _ hout' => ?_⟩
    exact absurd hout' hout

theorem portTransactionToL3_exact (hok : s.Ok)
    (h : HostIntfCall.run (.toL3 hwId) s = .ok (st, s')) :
    (HostIntfCall.Safe s (.toL3 hwId) → s'.Ok) ∧
      (s'.Mirrored → HostIntfCall.Safe s (.toL3 hwId)) := by
  obtain ⟨_, s₁, h, hend⟩ := bind_ok.mp h
  cases hend
  obtain ⟨⟨name, hif⟩, s₁, hport, h⟩ := bind_ok.mp h
  have hresult := result_eq_some.mpr ⟨s₁, hport⟩
  obtain ⟨hfind, hisPort, cs, rfl⟩ := hostIntfOfPort_ok hport
  dsimp only at h
  rcases HifEntry.isPort_type hisPort with hl2 | hl3
  swap
  · rw [if_pos hl3] at h
    cases h
    refine ⟨fun _ => hok.of_tables rfl, fun _ name' hif' hresult' hl2 => ?_⟩
    cases hresult.symm.trans hresult'
    cases hl3.symm.trans hl2
  have hne : HostIntfType.l3PortNetdev ≠ hif.type := by rw [hl2]; decide
  rw [if_neg hne.symm] at h
  obtain ⟨err, s₂, hremove, h⟩ := bind_ok.mp h
  have htaken := hok.taken hfind
  obtain ⟨rfl, hdel⟩ := mlnxRemoveNetdev_ok hremove
  rw [if_neg (not_not.mpr rfl)] at h
  rcases hdel with ⟨hcode, -, rfl⟩ | ⟨hfail, rfl⟩ <;> obtain ⟨err, s₃, hcreate, h⟩ := bind_ok.mp h
  · have hreplace := replace_exact hok (mlnxCreateL3PortNetdev_ok hcreate) hfind hne rfl rfl h
    have hany := hok.any_isL3Port_filter hif.handle (rows_of_lookup hfind) hne.symm
    refine ⟨fun hsafe => hreplace.1 ?_, fun hm name' hif' hresult' _ _ => ?_⟩
    · obtain ⟨hout, hnone, hcode'⟩ := hsafe name hif hresult hl2 hcode
      exact ⟨⟨hout, hok.free_of_remove hfind rfl, hany.trans hnone⟩, hcode'⟩
    · cases hresult.symm.trans hresult'
      obtain ⟨⟨hout, -, hnone⟩, hcode'⟩ := hreplace.2 hm
      exact ⟨hout, hany.symm.trans hnone, hcode'⟩
  · -- the device is still there, so that its name is taken
    rcases mlnxCreateL3PortNetdev_ok hcreate with ⟨-, herr, htables⟩ | ⟨hcan, -⟩
    · rw [if_pos herr] at h
      cases h
      refine ⟨fun _ => hok.of_tables htables, fun _ _ _ _ _ hcode => absurd ⟨hcode, htaken⟩ hfail⟩
    · have hfree : s.free name = true := hcan.2.1
      rw [HostIntfs.free, htaken] at hfree
      cases hfree

/-- A call leaves the table a mirror of the kernel exactly when it is safe. -/
theorem HostIntfCall.run_exact {c : HostIntfCall} (hok : s.Ok) (h : c.run s = .ok (st, s')) :
    (c.Safe s → s'.Ok) ∧ (s'.Mirrored → c.Safe s) := by
  cases c with
  | create name type handle mac => exact hostIntfNetdevCreate_exact hok h
  | remove name => exact hostIntfNetdevRemove_exact hok h
  | toL2 hwId => exact portTransactionToL2_exact hok h
  | toL3 hwId => exact portTransactionToL3_exact hok h

/-- **The host interface table mirrors the kernel** in a run of safe calls, and the next call leaves
it so exactly when it is safe too. -/
theorem hostIntfs_mirrored_of_safe {s₀ : HostIntfs} (htable : s₀.allHostIntf = ∅)
    (hkernel : s₀.kernel = [])
    (H : Reaches (fun s c => HostIntfCall.Safe s c) HostIntfCall.run s₀ s) :
    s.Mirrored ∧ ∀ c st s', HostIntfCall.run c s = .ok (st, s') →
      (s'.Mirrored ↔ HostIntfCall.Safe s c) := by
  have hstart : s₀.Ok := by
    unfold HostIntfs.Ok rows
    rw [htable, hkernel]
    exact DevicesOk.empty
  have hok : s.Ok := H.invariant (I := HostIntfs.Ok)
    (fun c _ hsafe _ _ h hok => (HostIntfCall.run_exact hok h).1 hsafe) hstart
  refine ⟨hok.mirrored, fun c st s' h => ?_⟩
  obtain ⟨hkeep, hneed⟩ := HostIntfCall.run_exact hok h
  exact ⟨hneed, fun hsafe => (hkeep hsafe).mirrored⟩

/-- No device and no entry, and the exit codes of the commands to come. -/
def noHostIntfs (exitCodes : List (BitVec 8)) : HostIntfs := ⟨∅, [], exitCodes, [], []⟩

/-- The device and the entry of a port that has been created. -/
theorem hostIntfs_mirrored_of_safe_create :
    ∃ s : HostIntfs, s.allHostIntf.lookup "1" = some ⟨.l2PortNetdev, 1, 0⟩ ∧
      ∃ dev ∈ s.kernel, dev.name = "1" ∧ dev.type = .l2PortNetdev := by
  obtain ⟨s, hrun⟩ := result_eq_some.mp (show result (do
    let _ ← HostIntfCall.run (.create "1" .l2PortNetdev 1 0)
    gets fun s => s.allHostIntf.lookup "1") (noHostIntfs []) = some (some ⟨.l2PortNetdev, 1, 0⟩)
    by decide)
  obtain ⟨st, s₁, h₁, hend⟩ := bind_ok.mp hrun
  simp only [gets_apply, Except.ok.injEq, Prod.mk.injEq] at hend
  obtain ⟨hfind, rfl⟩ := hend
  have hsafe : HostIntfCall.Safe (noHostIntfs []) (.create "1" .l2PortNetdev 1 0) := fun _ => rfl
  have H : Reaches (fun s c => HostIntfCall.Safe s c) HostIntfCall.run (noHostIntfs []) s₁ :=
    .tail .refl ⟨_, st, hsafe, h₁⟩
  obtain ⟨hmirrored, -⟩ := hostIntfs_mirrored_of_safe rfl rfl H
  exact ⟨s₁, hfind, (hmirrored "1" _).mp ⟨_, hfind, rfl⟩⟩

/-- The deletion of the device fails. The exit code is masked, and the entry is removed. -/
theorem hostIntfNetdevRemove_masked :
    ∃ s : HostIntfs, Reaches (fun _ _ => True) HostIntfCall.run (noHostIntfs [0, 0, 1]) s ∧
      s.allHostIntf.lookup "1" = none ∧ s.kernel = [⟨"1", .l2PortNetdev, 1⟩] ∧ ¬s.Mirrored := by
  obtain ⟨s, hrun⟩ := result_eq_some.mp (show result (do
    let _ ← HostIntfCall.run (.create "1" .l2PortNetdev 1 0)
    let _ ← HostIntfCall.run (.remove "1")
    gets fun s => (s.allHostIntf.lookup "1", s.kernel)) (noHostIntfs [0, 0, 1]) =
      some (none, [⟨"1", .l2PortNetdev, 1⟩]) by decide)
  obtain ⟨st₁, s₁, h₁, hrun⟩ := bind_ok.mp hrun
  obtain ⟨st₂, s₂, h₂, hend⟩ := bind_ok.mp hrun
  simp only [gets_apply, Except.ok.injEq, Prod.mk.injEq] at hend
  obtain ⟨⟨hfind, hkernel⟩, rfl⟩ := hend
  have H : Reaches (fun _ _ => True) HostIntfCall.run (noHostIntfs [0, 0, 1]) s₂ :=
    .tail (.tail .refl ⟨_, st₁, trivial, h₁⟩) ⟨_, st₂, trivial, h₂⟩
  have hdev : ⟨"1", .l2PortNetdev, 1⟩ ∈ s₂.kernel := by rw [hkernel]; exact List.mem_cons_self ..
  refine ⟨s₂, H, hfind, hkernel, not_mirrored_of_device hdev fun hif hfind' => ?_⟩
  cases hfind.symm.trans hfind'

end SwitchdSai
