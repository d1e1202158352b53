import SwitchdSai.Verify.Traps

/-!
# The trap groups that the vendor's registration takes

The vendor's registration looks for the first trap group that SAI does not use, and then goes on
from it in steps of one (`mlnxTrapGroupsRegister_setsUp`). It leaves the groups of SAI alone exactly
if the groups it counts through are all free.
-/

namespace SwitchdSai

open Exec Traps TrapTables

/-- The trap group that a call into the SDK is about. -/
def TrapsHwCall.sxGroup : TrapsHwCall → Option Nat
  | .sxTrapGroupSet group _ | .sxPolicerBind group _ | .sxPolicerUnbind group _
  | .sxTrapIdSet _ group _ => some group
  | _ => none

/-- The trap group that a call into the SDK sets up. -/
def TrapsHwCall.setsSxGroup : TrapsHwCall → Option Nat
  | .sxTrapGroupSet group _ => some group
  | _ => none

/-! ## The groups that a program is about -/

/-- From `s` to `s'` the SDK is called about groups of `used` only, and sets up `groups` in this
order. -/
def SetsUp (used groups : List Nat) (s s' : Traps) : Prop :=
  ∃ calls, s'.calls = s.calls ++ calls ∧ calls.filterMap (·.setsSxGroup) = groups ∧
    ∀ call ∈ calls, ∀ group ∈ call.sxGroup, group ∈ used

section

variable {used used' groups groups' : List Nat} {s s₁ s' : Traps}

theorem SetsUp.of_calls (h : s'.calls = s.calls) : SetsUp used [] s s' :=
  ⟨[], by rw [h, List.append_nil], rfl, fun _ h => absurd h List.not_mem_nil⟩

theorem SetsUp.trans (h : SetsUp used groups s s₁) (h' : SetsUp used groups' s₁ s') :
    SetsUp used (groups ++ groups') s s' := by
  obtain ⟨calls, hcalls, hset, hused⟩ := h
  obtain ⟨calls', hcalls', hset', hused'⟩ := h'
  refine ⟨calls ++ calls', ?_, ?_, ?_⟩
  · rw [hcalls', hcalls, List.append_assoc]
  · rw [List.filterMap_append, hset, hset']
  · intro call hcall
    rcases List.mem_append.mp hcall with hcall | hcall
    · exact hused call hcall
    · exact hused' call hcall

theorem SetsUp.mono (hle : ∀ group ∈ used, group ∈ used') (h : SetsUp used groups s s') :
    SetsUp used' groups s s' := by
  obtain ⟨calls, hcalls, hset, hused⟩ := h
  exact ⟨calls, hcalls, hset, fun call hcall group hg => hle group (hused call hcall group hg)⟩

/-- The same of the calls made between the two states. -/
theorem SetsUp.callsSince (h : SetsUp used groups s s') :
    (s.callsSince s').filterMap (·.setsSxGroup) = groups ∧
      ∀ call ∈ s.callsSince s', ∀ group ∈ call.sxGroup, group ∈ used := by
  obtain ⟨calls, hcalls, h⟩ := h
  unfold Traps.callsSince
  rw [hcalls, List.drop_left]
  exact h

instance : IsPreorder Traps (SetsUp used []) where
  refl _ := SetsUp.of_calls rfl
  trans _ _ _ h h' := h.trans h'

/-- A call that is about a group of `used`, if about one at all, and sets up none. -/
theorem hwCall_setsUp {call : TrapsHwCall} (hset : call.setsSxGroup = none)
    (hused : ∀ group ∈ call.sxGroup, group ∈ used) : Rel (SetsUp used []) (hwCall call) := by
  intro s status s' h
  unfold hwCall at h
  split at h <;> cases h
  · refine ⟨[call], rfl, ?_, ?_⟩
    · rw [List.filterMap_cons_none hset]
      rfl
    · intro call' hcall'
      rw [List.mem_singleton.mp hcall']
      exact hused
  · exact SetsUp.of_calls rfl

theorem chooseFresh_setsUp (f : Traps → List Nat) : Rel (SetsUp used []) (chooseFresh f) :=
  fun _ _ _ h => by cases h; exact SetsUp.of_calls rfl

theorem xzalloc_setsUp : Rel (SetsUp used []) xzalloc := by
  refine (chooseFresh_setsUp _).bind fun _ => Rel.bind ?_ fun _ => Rel.pure _
  exact Rel.modify fun _ => SetsUp.of_calls rfl

theorem modifyEntry_setsUp (node : Nat) (f : OpsSaiTrapGroupEntry → OpsSaiTrapGroupEntry) :
    Rel (SetsUp used []) (modifyEntry node f) :=
  ((live_frame (·.calls) node).mono fun _ _ => SetsUp.of_calls).bind fun _ =>
    Rel.modify fun _ => SetsUp.of_calls rfl

theorem listPushBack_setsUp (l : TrapGroupList) (node : Nat) :
    Rel (SetsUp used []) (listPushBack l node) := by
  refine (Rel.gets _).bind fun _ => (Rel.forAll fun _ => ?_).bind fun _ => ?_
  · exact ((live_frame (·.calls) _).mono fun _ _ => SetsUp.of_calls).bind fun _ => Rel.pure _
  · exact Rel.modify fun _ => SetsUp.of_calls rfl

end

section

variable [Build] [TrapTables] {s s' : Traps}

/-- The generic registration makes no call into the SDK. -/
theorem hostIntfTrapsRegisterGeneric_setsUp :
    Rel (SetsUp [] []) hostIntfTrapsRegisterGeneric := by
  refine Rel.forAll fun config => Rel.bind xzalloc_setsUp fun node => ?_
  refine Rel.bind (m := policerCreate config.policerConfig) ?_ fun p => ?_
  · refine (chooseFresh_setsUp _).bind fun _ => Rel.bind ?_ fun _ => Rel.pure _
    exact hwCall_setsUp rfl fun _ h => by cases h
  refine (Rel.require _ _).bind fun _ => (chooseFresh_setsUp _).bind fun group => ?_
  refine (hwCall_setsUp rfl fun _ h => by cases h).bind fun _ => (Rel.require _ _).bind fun _ => ?_
  refine (modifyEntry_setsUp _ _).bind fun _ => Rel.bind ?_ fun _ => listPushBack_setsUp _ _
  refine Rel.forAll fun trapId => ?_
  refine (hwCall_setsUp rfl fun _ h => by cases h).bind fun _ => (Rel.require _ _).bind fun _ => ?_
  refine (hwCall_setsUp rfl fun _ h => by cases h).bind fun _ => (Rel.require _ _).bind fun _ => ?_
  exact (hwCall_setsUp rfl fun _ h => by cases h).bind fun _ => Rel.require _ _

omit [Build] [TrapTables] in
theorem mlnxTrapsBind_setsUp (config : OpsSaiTrapGroupConfig) (groupId : Nat) :
    Rel (SetsUp [groupId] []) (mlnxTrapsBind config groupId) := by
  refine Rel.forAll fun trapId => ?_
  refine (hwCall_setsUp rfl fun _ h => by cases h).bind fun _ => (Rel.require _ _).bind fun _ => ?_
  refine (hwCall_setsUp rfl fun group h => ?_).bind fun _ => Rel.require _ _
  cases h
  exact List.mem_singleton_self _

omit [Build] [TrapTables] in
/-- Setting up a group: a call that fails stops the program. -/
theorem sxTrapGroupSet_setsUp {label : String} {groupId prio : Nat} {s s₁ s₂ : Traps}
    {status : SaiStatus} (h : hwCall (.sxTrapGroupSet groupId prio) s = .ok (status, s₁))
    (hst : logAbort label status s₁ = .ok ((), s₂)) : SetsUp [groupId] [groupId] s s₂ := by
  obtain ⟨hsucceeds, hs⟩ := require_ok.mp hst
  cases hs
  unfold hwCall at h
  split at h <;> cases h
  · refine ⟨_, rfl, rfl, fun call hcall group hg => ?_⟩
    rw [List.mem_singleton.mp hcall] at hg
    cases hg
    exact List.mem_singleton_self _
  next hne => exact absurd (saiError2Errno_eq_zero.mp (of_decide_eq_true hsucceeds)) hne

omit [Build] in
/-- One turn sets up the group it is given. -/
theorem mlnxTrapGroupRegister_setsUp (config : OpsSaiTrapGroupConfig) (groupId : Nat) :
    Rel (SetsUp [groupId] [groupId]) (mlnxTrapGroupRegister config groupId) := by
  intro s a s' h
  obtain ⟨-, h⟩ := require_bind.mp h
  obtain ⟨node, s₁, h₁, h⟩ := bind_ok.mp h
  obtain ⟨status, s₂, h₂, h⟩ := bind_ok.mp h
  obtain ⟨_, s₃, h₃, h⟩ := bind_ok.mp h
  have hset : SetsUp [groupId] [groupId] s s₃ :=
    (xzalloc_setsUp _ _ _ h₁).trans (sxTrapGroupSet_setsUp h₂ h₃)
  refine hset.trans (Rel.bind (R := SetsUp [groupId] []) (chooseFresh_setsUp _) ?_ _ _ _ h)
  intro policer
  refine (hwCall_setsUp rfl fun _ h => by cases h).bind fun _ => (Rel.require _ _).bind fun _ => ?_
  refine (modifyEntry_setsUp _ _).bind fun _ => Rel.bind (hwCall_setsUp rfl fun group h => ?_) ?_
  · cases h
    exact List.mem_singleton_self _
  · refine fun _ => (Rel.require _ _).bind fun _ => (mlnxTrapsBind_setsUp _ _).bind fun _ => ?_
    exact (listPushBack_setsUp _ _).bind fun _ => modifyEntry_setsUp _ _

omit [Build] in
/-- The groups are those from the first one on. -/
theorem mlnxTrapGroupsRegister_setsUp (configs : List OpsSaiTrapGroupConfig) (groupId : Nat) :
    Rel (SetsUp (List.range' groupId configs.length) (List.range' groupId configs.length))
      (mlnxTrapGroupsRegister configs groupId) := by
  induction configs generalizing groupId with
  | nil =>
    intro s a s' h
    cases h
    exact SetsUp.of_calls rfl
  | cons config configs ih =>
    intro s a s' h
    obtain ⟨_, s₁, h₁, h⟩ := bind_ok.mp h
    rw [List.length_cons, List.range'_succ]
    have hturn := mlnxTrapGroupRegister_setsUp config groupId s _ s₁ h₁
    refine (hturn.mono fun group hg => ?_).trans ((ih (groupId + 1) s₁ _ s' h).mono fun _ hg => ?_)
    · rw [List.mem_singleton.mp hg]
      exact List.mem_cons_self ..
    · exact List.mem_cons_of_mem _ hg

/-- The groups that a registration takes. -/
theorem hostIntfTrapsRegister_setsUp {lists : TrapGroupList → List Nat} {valid : List (Nat → Bool)}
    {nodes : List Nat} (hready : Ready lists valid nodes s)
    (h : hostIntfTrapsRegister s = .ok ((), s')) :
    let groups := List.range' (firstFreeGroup (valid.headD fun _ => false))
      mlnxTrapGroupConfig.length
    SetsUp groups groups s s' := by
  obtain ⟨_, s₁, h₁, h⟩ := bind_ok.mp h
  obtain ⟨_, _, -, hready⟩ := (hostIntfTrapsRegisterGeneric_ready hready).of_ok h₁
  rw [gets_bind, hready.trapGroupValid] at h
  have hgeneric := hostIntfTrapsRegisterGeneric_setsUp _ _ _ h₁
  have hloop := mlnxTrapGroupsRegister_setsUp _ _ _ _ _ h
  exact (hgeneric.mono fun _ h => absurd h List.not_mem_nil).trans hloop

/-! ## The first free group -/

/-- Every group below the first free one is in use, and the first free one is free if it is a group
at all. -/
structure IsFirstFree (valid : Nat → Bool) (first : Nat) : Prop where
  below : ∀ group < first, valid group = true
  free : first < maxTrapGroups → valid first = false
  le : first ≤ maxTrapGroups

omit [Build] in
theorem firstFreeGroup_isFirstFree (valid : Nat → Bool) :
    IsFirstFree valid (firstFreeGroup valid) := by
  unfold firstFreeGroup
  cases h : (List.range maxTrapGroups).find? fun groupId => !valid groupId with
  | none =>
    refine ⟨fun group hlt => ?_, fun hlt => absurd hlt (Nat.lt_irrefl _), Nat.le_refl _⟩
    have hused := List.find?_eq_none.mp h group (List.mem_range.mpr hlt)
    simpa using hused
  | some first =>
    obtain ⟨hfree, hmem, hbelow⟩ := List.find?_range_eq_some.mp h
    refine ⟨fun group hlt => ?_, fun _ => ?_, Nat.le_of_lt (List.mem_range.mp hmem)⟩
    · simpa using hbelow group hlt
    · simpa using hfree

omit [Build] in
theorem IsFirstFree.unique {valid : Nat → Bool} {first first' : Nat} (h : IsFirstFree valid first)
    (h' : IsFirstFree valid first') : first = first' := by
  rcases Nat.lt_trichotomy first first' with hlt | heq | hlt
  · have hused := h'.below first hlt
    rw [h.free (Nat.lt_of_lt_of_le hlt h'.le)] at hused
    cases hused
  · exact heq
  · have hused := h.below first' hlt
    rw [h'.free (Nat.lt_of_lt_of_le hlt h.le)] at hused
    cases hused

/-! ## Sparing the groups of SAI -/

/-- The groups programmed from `s` to `s'` are different ones, exist, and are not in use by SAI. -/
structure TrapGroupsSpared (valid : Nat → Bool) (s s' : Traps) : Prop where
  nodup : ((s.callsSince s').filterMap (·.setsSxGroup)).Nodup
  lt : ∀ call ∈ s.callsSince s', ∀ group ∈ call.sxGroup, group < maxTrapGroups
  free : ∀ call ∈ s.callsSince s', ∀ group ∈ call.sxGroup, valid group = false

/-- The lowest free groups follow one another, as many as are configured. -/
def TrapGroupsConsecutive (valid : Nat → Bool) : Prop :=
  mlnxTrapGroupConfig = [] ∨ ∃ first, (∀ group < first, valid group = true) ∧
    ∀ group ∈ List.range' first mlnxTrapGroupConfig.length,
      group < maxTrapGroups ∧ valid group = false

omit [Build] in
theorem trapGroupsConsecutive_iff (valid : Nat → Bool) :
    TrapGroupsConsecutive valid ↔
      ∀ group ∈ List.range' (firstFreeGroup valid) mlnxTrapGroupConfig.length,
        group < maxTrapGroups ∧ valid group = false := by
  have hfirst := firstFreeGroup_isFirstFree valid
  constructor
  · rintro (hnil | ⟨first, hbelow, hfree⟩) group hgroup
    · rw [hnil] at hgroup
      cases hgroup
    have hmem : first ∈ List.range' first mlnxTrapGroupConfig.length := by
      rw [List.mem_range'_1] at hgroup ⊢
      omega
    obtain ⟨hlt, hf⟩ := hfree first hmem
    have heq := hfirst.unique ⟨hbelow, fun _ => hf, Nat.le_of_lt hlt⟩
    exact hfree group (heq ▸ hgroup)
  · exact fun h => .inr ⟨firstFreeGroup valid, hfirst.below, h⟩

/-- While every call succeeds, a registration completes and spares the groups of SAI exactly if the
lowest free groups follow one another, as many as the vendor has configured. -/
theorem hostIntfTrapsRegister_spares (hout : s.outcomes = [])
    (hlive : ∀ l, ∀ node ∈ s.list l, (s.heap.lookup node).isSome) :
    Ends hostIntfTrapsRegister s
        (fun _ s' => TrapGroupsSpared (s.trapGroupValid.headD fun _ => false) s s') ↔
      TrapGroupsConsecutive (s.trapGroupValid.headD fun _ => false) := by
  have hready : Ready s.list s.trapGroupValid (s.list .sai ++ s.list .mlnx) s := by
    refine ⟨hout, rfl, rfl, ?_, ?_⟩
    · rintro (_ | _) node hnode
      · exact List.mem_append_left _ hnode
      · exact List.mem_append_right _ hnode
    · intro node hnode
      rcases List.mem_append.mp hnode with hnode | hnode
      · exact hlive _ node hnode
      · exact hlive _ node hnode
  rw [trapGroupsConsecutive_iff]
  constructor
  · rintro ⟨_, s', hr, hspared⟩ group hgroup
    rw [← (hostIntfTrapsRegister_setsUp hready hr).callsSince.1] at hgroup
    obtain ⟨call, hcall, hg⟩ := List.mem_filterMap.mp hgroup
    have hg : group ∈ call.sxGroup := by
      unfold TrapsHwCall.setsSxGroup at hg
      split at hg <;> cases hg
      rfl
    exact ⟨hspared.lt call hcall group hg, hspared.free call hcall group hg⟩
  · intro hfree
    have hsuffice : TrapGroupsSuffice s.trapGroupValid := by
      unfold TrapGroupsSuffice
      rw [← List.length_eq_zero_iff]
      by_cases h0 : mlnxTrapGroupConfig.length = 0
      · exact .inl h0
      · have hlast := hfree (firstFreeGroup (s.trapGroupValid.headD fun _ => false) +
          (mlnxTrapGroupConfig.length - 1)) (by rw [List.mem_range'_1]; omega)
        exact .inr (by omega)
    obtain ⟨_, s', hr, -⟩ := hostIntfTrapsRegister_ready hsuffice hready
    refine ⟨(), s', hr, ?_⟩
    obtain ⟨hset, hused⟩ := (hostIntfTrapsRegister_setsUp hready hr).callsSince
    constructor
    · rw [hset]
      exact List.nodup_range'
    · exact fun call hcall group hg => (hfree group (hused call hcall group hg)).1
    · exact fun call hcall group hg => (hfree group (hused call hcall group hg)).2

end

section

attribute [local instance] sampleBuild

/-- The vendor's groups of IP2ME and of another protocol, with four groups in all. -/
@[reducible] def twoTrapGroups : TrapTables where
  trapGroupConfigTable := [⟨[1, 2, 3], ⟨1000, 1000⟩, 2, true, true⟩]
  mlnxTrapGroupConfig := [⟨[4], ⟨5, 5⟩, 4, false, true⟩, ⟨[5], ⟨5, 5⟩, 4, false, true⟩]
  maxTrapGroups := 4

attribute [local instance] twoTrapGroups

/-- SAI uses the groups 0 and 1. -/
theorem hostIntfTrapsRegister_spares_two :
    Ends hostIntfTrapsRegister (reset [] [fun group => group < 2]) fun _ s' =>
      TrapGroupsSpared (fun group => group < 2) (reset [] [fun group => group < 2]) s' := by
  refine (hostIntfTrapsRegister_spares (s := reset [] [fun group => group < 2]) rfl ?_).mpr ?_
  · exact fun _ _ h => absurd h List.not_mem_nil
  · exact .inr ⟨2, by decide, by decide⟩

/-- SAI uses the groups 0 and 2: the second of the vendor's groups is set up in place of SAI's. -/
theorem hostIntfTrapsRegister_overrides :
    mlnxTrapGroupConfig.length ≤
        ((List.range maxTrapGroups).filter fun group => !decide (group % 2 = 0)).length ∧
      ¬Ends hostIntfTrapsRegister (reset [] [fun group => group % 2 = 0])
        fun _ s' => TrapGroupsSpared (fun group => group % 2 = 0)
          (reset [] [fun group => group % 2 = 0]) s' := by
  refine ⟨by decide, ?_⟩
  have hrun : result (do
      hostIntfTrapsRegister
      gets fun s' : Traps => decide (.sxTrapGroupSet 2 4 ∈ s'.calls))
      (reset [] [fun group => group % 2 = 0]) = some true := by
    decide +kernel
  rintro ⟨_, s', hr, hspared⟩
  obtain ⟨_, h⟩ := result_eq_some.mp hrun
  rw [bind_of_ok hr] at h
  obtain ⟨hmem, -⟩ := Prod.mk.inj (Except.ok.inj h)
  have hfree := hspared.free _ (of_decide_eq_true hmem) 2 rfl
  exact absurd hfree (by decide)

end

end SwitchdSai
