import SwitchdSai.Verify.HostIntf

/-!
# Host interfaces when commands succeed

How the functions on host interfaces end when every command and SDK call is carried out if it can
be: all of them complete, the table mirrors the kernel, and the callbacks of a port transaction give
the one host interface of a port its new type.
-/

namespace SwitchdSai

open Exec HostIntfs

/-! ## Host interfaces when commands succeed -/

section
variable {s s' : HostIntfs} {name : String} {handle hwId : Nat} {type : HostIntfType}

/-- All commands and SDK calls to come are carried out if they can be. -/
structure HostIntfs.Calm (s : HostIntfs) : Prop where
  exitCodes : s.exitCodes = []
  outcomes : s.outcomes = []

namespace HostIntfs.Calm

theorem exitCode (h : s.Calm) : s.exitCode = 0 := by rw [HostIntfs.exitCode, h.exitCodes]; rfl

theorem nextOutcome (h : s.Calm) : s.nextOutcome = .success := by
  rw [HostIntfs.nextOutcome, h.outcomes]
  rfl

theorem tickCode (h : s.Calm) : s.tickCode = s := by
  obtain ⟨table, kernel, exitCodes, outcomes, choices⟩ := s
  cases h.exitCodes
  rfl

theorem tick (h : s.Calm) : s.tick = s := by
  obtain ⟨table, kernel, exitCodes, outcomes, choices⟩ := s
  cases h.outcomes
  rfl

theorem system {valid : HostIntfs → Bool} {effect : HostIntfs → HostIntfs} (h : s.Calm)
    (hv : valid s = true) : Ends (system valid effect) s fun err s' => err = 0 ∧ s' = effect s := by
  refine ⟨0, effect s, ?_, rfl, rfl⟩
  rw [SwitchdSai.system, if_pos h.exitCode, if_pos hv, h.tickCode]

theorem sxNet {valid : HostIntfs → Bool} {effect : HostIntfs → HostIntfs} (h : s.Calm)
    (hv : valid s = true) :
    Ends (sxNet valid effect) s fun status s' => status = .success ∧ s' = effect s := by
  refine ⟨.success, effect s, ?_, rfl, rfl⟩
  rw [SwitchdSai.sxNet, if_pos h.nextOutcome, if_pos hv, h.tick]

theorem system_invalid {valid : HostIntfs → Bool} {effect : HostIntfs → HostIntfs} (h : s.Calm)
    (hv : valid s = false) :
    Ends (SwitchdSai.system valid effect) s fun err s' => WEXITSTATUS err ≠ 0 ∧ s' = s := by
  refine ⟨2 <<< 8, s, ?_, by decide, rfl⟩
  rw [SwitchdSai.system, if_pos h.exitCode, hv, h.tickCode]
  rfl

theorem sxNet_invalid {valid : HostIntfs → Bool} {effect : HostIntfs → HostIntfs} (h : s.Calm)
    (hv : valid s = false) :
    Ends (SwitchdSai.sxNet valid effect) s fun status s' => status ≠ .success ∧ s' = s := by
  refine ⟨.failure, s, ?_, by decide, rfl⟩
  rw [SwitchdSai.sxNet, if_pos h.nextOutcome, hv, h.tick]
  rfl

theorem mlnxObjectToType (h : s.Calm) : Ends mlnxObjectToType s fun _ s' => s' = s := by
  refine (h.sxNet rfl).bind ?_
  rintro status _ ⟨rfl, rfl⟩
  exact Ends.require rfl rfl

theorem canCreate (h : s.Calm) : s.CanCreate name handle type ↔ s.free name = true ∧
    (type = .l3PortNetdev → s.kernel.any (isL3Port handle) = false) := by
  cases type <;> simp [CanCreate, h.tick, h.exitCode, h.nextOutcome]

theorem canAddress (h : s.Calm) : s.CanAddress type := by
  cases type <;> simp [CanAddress, h.tickCode, h.exitCode]

/-- A device that can be created is. -/
theorem mlnxCreateNetdev (h : s.Calm) (hcan : s.CanCreate name handle type) :
    Ends (mlnxCreateNetdev name handle type) s fun st s' =>
      st = 0 ∧ s' = s.create ⟨name, type, handle⟩ := by
  obtain ⟨hfree, hl3⟩ := h.canCreate.mp hcan
  have hcalm : (s.create ⟨name, type, handle⟩).Calm := ⟨h.exitCodes, h.outcomes⟩
  have haddress : Ends (ipLinkSetAddress name) (s.create ⟨name, type, handle⟩)
      fun err s' => err = 0 ∧ s' = id (s.create ⟨name, type, handle⟩) :=
    hcalm.system (create_taken ⟨name, type, handle⟩ s)
  have hend : Ends (do let err ← ipLinkSetAddress name; return (err : Int))
      (s.create ⟨name, type, handle⟩) fun st s' => st = 0 ∧ s' = s.create ⟨name, type, handle⟩ := by
    apply haddress.bind
    rintro err _ ⟨rfl, rfl⟩
    exact Ends.pure ⟨rfl, rfl⟩
  cases type with
  | l2PortNetdev =>
    apply h.mlnxObjectToType.bind
    rintro _ _ rfl
    apply (h.system hfree).bind
    rintro err _ ⟨rfl, rfl⟩
    exact hend
  | l3PortNetdev =>
    apply h.mlnxObjectToType.bind
    rintro _ _ rfl
    apply (h.sxNet (by rw [hfree, hl3 rfl]; rfl)).bind
    rintro status _ ⟨rfl, rfl⟩
    exact hend
  | l3VlanNetdev =>
    apply (h.system hfree).bind
    rintro err _ ⟨rfl, rfl⟩
    exact Ends.pure ⟨rfl, rfl⟩

/-- One that cannot be created is not, and the failure is reported. -/
theorem mlnxCreateNetdev_invalid (h : s.Calm) (hcan : ¬s.CanCreate name handle type) :
    Ends (SwitchdSai.mlnxCreateNetdev name handle type) s fun st s' => st ≠ 0 ∧ s' = s := by
  rw [h.canCreate] at hcan
  have hne : ∀ err : Nat, WEXITSTATUS err ≠ 0 → (err : Int) ≠ 0 := fun err herr h0 =>
    herr (by rw [Int.natCast_eq_zero.mp h0]; rfl)
  cases type with
  | l2PortNetdev =>
    have hfree : s.free name = false := Bool.eq_false_iff.mpr fun hf => hcan ⟨hf, nofun⟩
    apply h.mlnxObjectToType.bind
    rintro _ _ rfl
    apply (h.system_invalid hfree).bind
    rintro err _ ⟨herr, rfl⟩
    rw [if_pos herr]
    exact Ends.pure ⟨hne err herr, rfl⟩
  | l3PortNetdev =>
    have hvalid : (s.free name && !s.kernel.any (isL3Port handle)) = false := by
      rw [Bool.eq_false_iff, ne_eq, Bool.and_eq_true, Bool.not_eq_true']
      exact fun hv => hcan ⟨hv.1, fun _ => hv.2⟩
    apply h.mlnxObjectToType.bind
    rintro _ _ rfl
    apply (h.sxNet_invalid hvalid).bind
    rintro status _ ⟨hs, rfl⟩
    rw [if_pos hs]
    exact Ends.pure ⟨mt sxError2Errno_eq_zero.mp hs, rfl⟩
  | l3VlanNetdev =>
    have hfree : s.free name = false := Bool.eq_false_iff.mpr fun hf => hcan ⟨hf, nofun⟩
    apply (h.system_invalid hfree).bind
    rintro err _ ⟨herr, rfl⟩
    exact Ends.pure ⟨hne err herr, rfl⟩

theorem mlnxRemoveNetdev (h : s.Calm) (htaken : s.taken name = true) :
    Ends (mlnxRemoveNetdev name) s fun st s' => st = 0 ∧ s' = s.remove (·.name = name) := by
  apply (h.system htaken).bind
  rintro status _ ⟨rfl, rfl⟩
  exact Ends.pure ⟨rfl, rfl⟩

theorem mlnxRemoveL3PortNetdev {hif : HifEntry} (h : s.Calm)
    (hfind : s.allHostIntf.lookup name = some hif)
    (hany : s.kernel.any (isL3Port hif.handle) = true) :
    Ends (mlnxRemoveL3PortNetdev name) s fun st s' =>
      st = 0 ∧ s' = s.remove (isL3Port hif.handle) := by
  rw [SwitchdSai.mlnxRemoveL3PortNetdev, hostIntfEntryFind]
  apply Ends.gets_bind
  rw [hfind]
  apply (h.sxNet hany).bind
  rintro status _ ⟨rfl, rfl⟩
  exact Ends.pure ⟨rfl, rfl⟩

end HostIntfs.Calm

/-! ## Replacing the host interface of a port -/

/-- Some entry is the host interface of the port with label `hwId`. -/
def HostIntfs.HasPort (s : HostIntfs) (hwId : Nat) : Prop :=
  ∃ name hif, s.allHostIntf.lookup name = some hif ∧ hif.isPort hwId = true

/-- The table mirrors the kernel, and a port has at most one entry. -/
structure HostIntfs.Tidy (s : HostIntfs) : Prop where
  calm : s.Calm
  ok : s.Ok
  unique : ∀ name name' hif hif' hwId, s.allHostIntf.lookup name = some hif →
    s.allHostIntf.lookup name' = some hif' → hif.isPort hwId = true → hif'.isPort hwId = true →
    name = name'

def HifEntry.turn (hwId : Nat) (type : HostIntfType) (hif : HifEntry) : HifEntry :=
  if hif.isPort hwId then { hif with type := type } else hif

/-- The host interface of the port with label `hwId` is of type `type`, and the others are as they
were. -/
structure HostIntfs.Turned (hwId : Nat) (type : HostIntfType) (s s' : HostIntfs) : Prop where
  tidy : s'.Tidy
  lookup : ∀ name, s'.allHostIntf.lookup name =
    (s.allHostIntf.lookup name).map (HifEntry.turn hwId type)

theorem HifEntry.isPort_iff {hif : HifEntry} : hif.isPort hwId = true ↔
    (hif.type = .l2PortNetdev ∨ hif.type = .l3PortNetdev) ∧ hif.handle = hwId := by
  simp [HifEntry.isPort]

theorem HifEntry.turn_isPort {hif : HifEntry} {hwId' : Nat}
    (ht : type = .l2PortNetdev ∨ type = .l3PortNetdev) :
    (hif.turn hwId type).isPort hwId' = hif.isPort hwId' := by
  unfold HifEntry.turn
  split
  next hp =>
    rw [Bool.eq_iff_iff, isPort_iff, isPort_iff]
    simp [ht, (isPort_iff.1 hp).1]
  next => rfl

theorem HifEntry.turn_turn {hif : HifEntry} (ht : type = .l2PortNetdev ∨ type = .l3PortNetdev) :
    (hif.turn hwId type).turn hwId type = hif.turn hwId type := by
  rw [HifEntry.turn, turn_isPort ht]
  unfold HifEntry.turn
  split <;> rfl

namespace HostIntfs.Turned

variable {s₁ : HostIntfs}

theorem again (h : s.Turned hwId type s₁) (h' : s₁.Turned hwId type s')
    (ht : type = .l2PortNetdev ∨ type = .l3PortNetdev) : s.Turned hwId type s' where
  tidy := h'.tidy
  lookup name := by
    rw [h'.lookup, h.lookup, Option.map_map]
    exact congrArg (fun f => Option.map f _) (funext fun hif => HifEntry.turn_turn ht)

theorem hasPort_iff (h : s.Turned hwId type s') (ht : type = .l2PortNetdev ∨ type = .l3PortNetdev)
    {hwId' : Nat} : s'.HasPort hwId' ↔ s.HasPort hwId' := by
  simp only [HasPort, h.lookup, Option.map_eq_some_iff]
  constructor
  · rintro ⟨name, _, ⟨hif, hfind, rfl⟩, hp⟩
    exact ⟨name, hif, hfind, (HifEntry.turn_isPort ht).symm.trans hp⟩
  · rintro ⟨name, hif, hfind, hp⟩
    exact ⟨name, _, ⟨hif, hfind, rfl⟩, (HifEntry.turn_isPort ht).trans hp⟩

end HostIntfs.Turned

/-- The type of the one entry of a port is set to `type`. -/
theorem HostIntfs.Tidy.turned {hif : HifEntry} (h : s.Tidy)
    (ht : type = .l2PortNetdev ∨ type = .l3PortNetdev)
    (hfind : s.allHostIntf.lookup name = some hif) (hp : hif.isPort hwId = true) (hcalm : s'.Calm)
    (hok : s'.Ok) (htable : ∀ n, s'.allHostIntf.lookup n =
      if n = name then some { hif with type := type } else s.allHostIntf.lookup n) :
    s.Turned hwId type s' := by
  have hlookup : ∀ n, s'.allHostIntf.lookup n =
      (s.allHostIntf.lookup n).map (HifEntry.turn hwId type) := by
    intro n
    rw [htable]
    split
    next hn => rw [hn, hfind, Option.map_some, HifEntry.turn, if_pos hp]
    next hn =>
      cases hn' : s.allHostIntf.lookup n with
      | none => rfl
      | some hif' =>
        have hp' : ¬hif'.isPort hwId = true := fun hp' => hn (h.unique _ _ _ _ _ hn' hfind hp' hp)
        rw [Option.map_some, HifEntry.turn, if_neg hp']
  refine ⟨⟨hcalm, hok, fun n n' hif₁ hif₂ hwId' hn hn' hp₁ hp₂ => ?_⟩, hlookup⟩
  rw [hlookup] at hn hn'
  obtain ⟨old₁, hold₁, rfl⟩ := Option.map_eq_some_iff.mp hn
  obtain ⟨old₂, hold₂, rfl⟩ := Option.map_eq_some_iff.mp hn'
  rw [HifEntry.turn_isPort ht] at hp₁ hp₂
  exact h.unique n n' old₁ old₂ hwId' hold₁ hold₂ hp₁ hp₂

theorem hostIntfOfPort_ends (h : s.HasPort hwId) :
    Ends (hostIntfOfPort hwId) s fun e s' => s.allHostIntf.lookup e.1 = some e.2 ∧
      e.2.isPort hwId = true ∧ ∃ cs, s' = { s with choices := cs } := by
  obtain ⟨name, hif, hfind, hp⟩ := h
  cases hrun : hostIntfOfPort hwId s with
  | ok r => exact ⟨r.1, r.2, hrun, hostIntfOfPort_ok hrun⟩
  | error e =>
    unfold hostIntfOfPort at hrun
    dsimp only at hrun
    split at hrun
    · cases hrun
    next hnone =>
      have hmem : (name, hif) ∈ walk (s.choices.headD 0)
          (s.allHostIntf.entries.map fun e => (e.1, e.2)) := by
        rw [mem_walk, List.mem_map]
        exact ⟨⟨name, hif⟩, AList.mem_lookup_iff.mp hfind, rfl⟩
      exact absurd hp (List.find?_eq_none.mp hnone _ hmem)

/-- A port that already has a host interface of the type keeps it. -/
theorem HostIntfs.Tidy.turned_self {hif : HifEntry} {cs : List Nat} (h : s.Tidy)
    (hfind : s.allHostIntf.lookup name = some hif) (hp : hif.isPort hwId = true) :
    s.Turned hwId hif.type { s with choices := cs } := by
  refine h.turned (HifEntry.isPort_type hp) hfind hp ⟨h.calm.exitCodes, h.calm.outcomes⟩
    (h.ok.of_tables rfl) fun n => ?_
  split
  next hn => rw [hn, ← hfind]
  next => rfl

/-- No device is the L3 device of a port that has an L2 device. -/
theorem HostIntfs.Tidy.any_isL3Port {hif : HifEntry} (h : s.Tidy)
    (hfind : s.allHostIntf.lookup name = some hif) (hl2 : hif.type = .l2PortNetdev) :
    s.kernel.any (isL3Port hif.handle) = false := by
  rw [List.any_eq_false]
  intro dev hdev hl3
  simp only [isL3Port, Bool.and_eq_true, decide_eq_true_eq] at hl3
  obtain ⟨hif', hfind', hrow⟩ := Option.map_eq_some_iff.mp (h.ok.rows_eq hdev)
  simp only [HifEntry.row, Prod.mk.injEq] at hrow
  have hp : hif.isPort hif.handle = true := HifEntry.isPort_iff.2 ⟨.inl hl2, rfl⟩
  have hp' : hif'.isPort hif.handle = true :=
    HifEntry.isPort_iff.2 ⟨.inr (hrow.1.trans hl3.1), hrow.2.trans hl3.2⟩
  rw [h.unique _ _ _ _ _ hfind' hfind hp' hp, hfind] at hfind'
  cases hfind'
  rw [hl2, hl3.1] at hrow
  cases hrow.1

/-- The device of a port is removed by `rm` and replaced by one of the type `type`. -/
theorem replace_ends {rm : Exec HostIntfs Int} {s₁ : HostIntfs} {hif : HifEntry} (h : s.Tidy)
    (ht : type = .l2PortNetdev ∨ type = .l3PortNetdev) (hne : type ≠ hif.type)
    (hfind : s.allHostIntf.lookup name = some hif) (hp : hif.isPort hwId = true)
    (hl3 : type = .l3PortNetdev → s.kernel.any (isL3Port hif.handle) = false)
    (hrm : Ends rm s₁ fun st s₂ => st = 0 ∧ s₂.Calm ∧ s₂.allHostIntf = s.allHostIntf ∧
      s₂.kernel = s.kernel.filter fun dev => !decide (dev.name = name)) :
    Ends (do
      let err ← rm
      if err ≠ 0 then return
      let err ← mlnxCreateNetdev name hif.handle type
      if err ≠ 0 then return
      hostIntfEntrySetType name hif type) s₁ fun _ s' => s.Turned hwId type s' := by
  apply hrm.bind
  rintro _ s₂ ⟨rfl, hcalm, htable, hkernel⟩
  rw [if_neg (not_not.mpr rfl)]
  have hany : type = .l3PortNetdev → s₂.kernel.any (isL3Port hif.handle) = false := by
    intro ht
    have hnone := List.any_eq_false.mp (hl3 ht)
    refine List.any_eq_false.mpr fun dev hdev => hnone dev ?_
    rw [hkernel] at hdev
    exact List.mem_of_mem_filter hdev
  have hcan := hcalm.canCreate.mpr ⟨h.ok.free_of_remove hfind hkernel, hany⟩
  obtain ⟨_, _, hrun, rfl, rfl⟩ := hcalm.mlnxCreateNetdev hcan
  have hset := (replace_exact h.ok (mlnxCreateNetdev_ok hrun) hfind hne hkernel
    htable rfl).1 ⟨hcan, hcalm.canAddress⟩
  refine ⟨(), _, bind_of_ok hrun, h.turned ht hfind hp ?_ hset fun n => ?_⟩
  · exact ⟨hcalm.exitCodes, hcalm.outcomes⟩
  · show (s₂.allHostIntf.insert name _).lookup n = _
    rw [htable]
    split
    next hn => rw [hn, AList.lookup_insert]
    next hn => rw [AList.lookup_insert_ne hn]

theorem portTransactionToL3_ends (h : s.Tidy) (hport : s.HasPort hwId) :
    Ends (portTransactionToL3 hwId) s fun _ s' => s.Turned hwId .l3PortNetdev s' := by
  apply (hostIntfOfPort_ends hport).bind
  rintro ⟨name, hif⟩ s₁ ⟨hfind, hp, cs, rfl⟩
  have hcalm : HostIntfs.Calm { s with choices := cs } := ⟨h.calm.exitCodes, h.calm.outcomes⟩
  dsimp only
  split
  next hl3 => exact Ends.pure (hl3 ▸ h.turned_self hfind hp)
  next hne =>
    have hl2 : hif.type = .l2PortNetdev := (HifEntry.isPort_type hp).resolve_right hne
    refine replace_ends h (.inr rfl) (Ne.symm hne) hfind hp (fun _ => h.any_isL3Port hfind hl2) ?_
    refine (hcalm.mlnxRemoveNetdev (h.ok.taken hfind)).mono ?_
    rintro _ _ ⟨rfl, rfl⟩
    exact ⟨rfl, ⟨hcalm.exitCodes, hcalm.outcomes⟩, rfl, rfl⟩

theorem portTransactionToL2_ends (h : s.Tidy) (hport : s.HasPort hwId) :
    Ends (portTransactionToL2 hwId) s fun _ s' => s.Turned hwId .l2PortNetdev s' := by
  apply (hostIntfOfPort_ends hport).bind
  rintro ⟨name, hif⟩ s₁ ⟨hfind, hp, cs, rfl⟩
  have hcalm : HostIntfs.Calm { s with choices := cs } := ⟨h.calm.exitCodes, h.calm.outcomes⟩
  dsimp only
  split
  next hl2 => exact Ends.pure (hl2 ▸ h.turned_self hfind hp)
  next hne =>
    have hl3 : hif.type = .l3PortNetdev := (HifEntry.isPort_type hp).resolve_left hne
    refine replace_ends h (.inl rfl) (Ne.symm hne) hfind hp (fun h => by cases h) ?_
    refine (hcalm.mlnxRemoveL3PortNetdev hfind (h.ok.any_isL3Port hfind hl3)).mono ?_
    rintro _ _ ⟨rfl, rfl⟩
    have hrow := rows_of_lookup hfind
    rw [hl3] at hrow
    exact ⟨rfl, ⟨hcalm.exitCodes, hcalm.outcomes⟩, rfl, h.ok.filter_isL3Port hrow⟩

/-! ## Creating and removing host interfaces -/

/-- A new entry is not the second one of a port. -/
theorem HostIntfs.Tidy.insert {mac : EthAddr} (h : s.Tidy)
    (hnew : type ≠ .l3VlanNetdev → ¬s.HasPort handle) (hcalm : s'.Calm) (hok : s'.Ok)
    (htable : s'.allHostIntf = s.allHostIntf.insert name ⟨type, handle, mac⟩) : s'.Tidy := by
  refine ⟨hcalm, hok, fun n n' hif hif' hwId hn hn' hp hp' => ?_⟩
  have hfresh : ∀ {n hif}, s.allHostIntf.lookup n = some hif → hif.isPort hwId = true →
      (⟨type, handle, mac⟩ : HifEntry).isPort hwId = true → False := by
    intro n hif hn hp hp'
    obtain ⟨ht, rfl⟩ := HifEntry.isPort_iff.1 hp'
    refine hnew ?_ ⟨n, hif, hn, hp⟩
    rintro rfl
    rcases ht with ht | ht <;> cases ht
  rw [htable] at hn hn'
  by_cases hname : n = name <;> by_cases hname' : n' = name
  · exact hname.trans hname'.symm
  · subst hname
    rw [AList.lookup_insert] at hn
    rw [AList.lookup_insert_ne hname'] at hn'
    cases hn
    exact (hfresh hn' hp' hp).elim
  · subst hname'
    rw [AList.lookup_insert] at hn'
    rw [AList.lookup_insert_ne hname] at hn
    cases hn'
    exact (hfresh hn hp hp').elim
  · rw [AList.lookup_insert_ne hname] at hn
    rw [AList.lookup_insert_ne hname'] at hn'
    exact h.unique n n' hif hif' hwId hn hn' hp hp'

theorem hostIntfNetdevCreate_ends (name : String) (mac : EthAddr) (h : s.Tidy)
    (hnew : type ≠ .l3VlanNetdev → ¬s.HasPort handle) :
    Ends (hostIntfNetdevCreate name type handle mac) s fun _ s' => s'.Tidy ∧
      (s'.allHostIntf = s.allHostIntf ∨ s.allHostIntf.lookup name = none ∧
        s'.allHostIntf = s.allHostIntf.insert name ⟨type, handle, mac⟩) := by
  by_cases hcan : s.CanCreate name handle type
  · have hnone := h.ok.lookup_of_free (CanCreate.free hcan).1
    apply (h.calm.mlnxCreateNetdev hcan).bind
    rintro _ _ ⟨rfl, rfl⟩
    rw [if_neg (not_not.mpr rfl), hostIntfEntryAdd, hostIntfEntryFind]
    refine ⟨0, _, bind_of_ok (require_bind.mpr ⟨?_, rfl⟩), ?_, .inr ⟨hnone, rfl⟩⟩
    · exact Option.isNone_iff_eq_none.mpr hnone
    · exact h.insert hnew ⟨h.calm.exitCodes, h.calm.outcomes⟩ (h.ok.create hcan mac rfl rfl) rfl
  · apply (h.calm.mlnxCreateNetdev_invalid hcan).bind
    rintro st _ ⟨hst, rfl⟩
    rw [if_pos hst]
    exact Ends.pure ⟨h, .inl rfl⟩

theorem HostIntfs.Tidy.erase (h : s.Tidy) (hcalm : s'.Calm) (hok : s'.Ok)
    (htable : s'.allHostIntf = s.allHostIntf.erase name) : s'.Tidy := by
  have hold : ∀ {n hif}, s'.allHostIntf.lookup n = some hif →
      s.allHostIntf.lookup n = some hif := by
    intro n hif hn
    rw [htable] at hn
    have hne : n ≠ name := by
      rintro rfl
      rw [AList.lookup_erase] at hn
      cases hn
    rwa [AList.lookup_erase_ne hne] at hn
  refine ⟨hcalm, hok, fun n n' hif hif' hwId hn hn' => ?_⟩
  exact h.unique n n' hif hif' hwId (hold hn) (hold hn')

theorem hostIntfNetdevRemove_ends {hif : HifEntry} (h : s.Tidy)
    (hfind : s.allHostIntf.lookup name = some hif) :
    Ends (hostIntfNetdevRemove name) s fun _ s' => s'.Tidy ∧
      s'.allHostIntf = s.allHostIntf.erase name := by
  rw [hostIntfNetdevRemove, hostIntfEntryFind]
  apply Ends.gets_bind
  apply (Ends.need (Q := fun a s' => hif = a ∧ s = s') hfind ⟨rfl, rfl⟩).bind
  rintro _ _ ⟨rfl, rfl⟩
  have hrow := rows_of_lookup hfind
  suffices hrm : Ends (mlnxRemoveNetdevOfType name hif.type) s fun st s₁ => st = 0 ∧ s₁.Calm ∧
      s₁.allHostIntf = s.allHostIntf ∧
      s₁.kernel = s.kernel.filter fun dev => !decide (dev.name = name) by
    apply hrm.bind
    rintro _ s₁ ⟨rfl, hcalm, htable, hkernel⟩
    rw [if_neg (not_not.mpr rfl)]
    have herase : s₁.allHostIntf.erase name = s.allHostIntf.erase name := by rw [htable]
    refine ⟨0, _, rfl, ?_, herase⟩
    exact h.erase ⟨hcalm.exitCodes, hcalm.outcomes⟩ (h.ok.remove hkernel herase) herase
  by_cases hl3 : hif.type = .l3PortNetdev
  · rw [hl3] at hrow ⊢
    refine (h.calm.mlnxRemoveL3PortNetdev hfind (h.ok.any_isL3Port hfind hl3)).mono ?_
    rintro _ _ ⟨rfl, rfl⟩
    exact ⟨rfl, ⟨h.calm.exitCodes, h.calm.outcomes⟩, rfl, h.ok.filter_isL3Port hrow⟩
  · rw [mlnxRemoveNetdevOfType_of_ne hl3]
    refine (h.calm.mlnxRemoveNetdev (h.ok.taken hfind)).mono ?_
    rintro _ _ ⟨rfl, rfl⟩
    exact ⟨rfl, ⟨h.calm.exitCodes, h.calm.outcomes⟩, rfl, rfl⟩

end

end SwitchdSai
