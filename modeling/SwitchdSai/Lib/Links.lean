import Mathlib.Data.List.Nodup
import Mathlib.Logic.Function.Basic

/-!
# Members and groups

Each member points to the group it is in, and each group that exists lists its members. The links
are well formed when the two directions agree and no list repeats a member. The operations that
move members and make and remove groups keep them so.
-/

@[ext] structure Links (ι κ : Type) where
  owner : ι → Option κ
  /-- The members of a group; `none` when the group does not exist. -/
  members : κ → Option (List ι)

namespace Links

variable {ι κ : Type}

structure WF (l : Links ι κ) : Prop where
  owner_iff : ∀ i k, l.owner i = some k ↔ ∃ is, l.members k = some is ∧ i ∈ is
  nodup : ∀ k is, l.members k = some is → is.Nodup

section
variable {l : Links ι κ} {i : ι} {k : κ} {is : List ι}

theorem WF.mem_iff (h : l.WF) (hk : l.members k = some is) : i ∈ is ↔ l.owner i = some k := by
  rw [h.owner_iff]
  constructor
  · intro hi
    exact ⟨is, hk, hi⟩
  · rintro ⟨is', hk', hi⟩
    rw [hk] at hk'
    cases hk'
    exact hi

/-- The group a member points to exists. -/
theorem WF.exists_members (h : l.WF) (hi : l.owner i = some k) :
    ∃ is, l.members k = some is ∧ i ∈ is := (h.owner_iff i k).mp hi

end

variable [DecidableEq κ] {l : Links ι κ} {i j : ι} {k k' : κ} {is : List ι}

/-- Make an empty group. -/
def create (k : κ) (l : Links ι κ) : Links ι κ :=
  { l with members := Function.update l.members k (some []) }

/-- Remove a group. -/
def remove (k : κ) (l : Links ι κ) : Links ι κ :=
  { l with members := Function.update l.members k none }

theorem create_members : (l.create k).members k' = if k' = k then some [] else l.members k' :=
  Function.update_apply ..

theorem remove_members : (l.remove k).members k' = if k' = k then none else l.members k' :=
  Function.update_apply ..

theorem WF.create (h : l.WF) (hk : l.members k = none) : (l.create k).WF := by
  refine ⟨fun j k' => ?_, fun k' js hk' => ?_⟩
  · refine (h.owner_iff j k').trans ?_
    rw [create_members]
    by_cases hkk : k' = k
    · subst hkk
      simp [hk]
    · rw [if_neg hkk]
  · rw [create_members] at hk'
    by_cases hkk : k' = k
    · rw [if_pos hkk, Option.some.injEq] at hk'
      exact hk' ▸ List.nodup_nil
    · rw [if_neg hkk] at hk'
      exact h.nodup k' js hk'

theorem WF.remove (h : l.WF) (hk : l.members k = some []) : (l.remove k).WF := by
  refine ⟨fun j k' => ?_, fun k' js hk' => ?_⟩
  · refine (h.owner_iff j k').trans ?_
    rw [remove_members]
    by_cases hkk : k' = k
    · subst hkk
      simp [hk]
    · rw [if_neg hkk]
  · rw [remove_members] at hk'
    by_cases hkk : k' = k
    · rw [if_pos hkk] at hk'
      cases hk'
    · rw [if_neg hkk] at hk'
      exact h.nodup k' js hk'

variable [DecidableEq ι]

/-- Take member `i` out of group `k`. -/
def detach (i : ι) (k : κ) (l : Links ι κ) : Links ι κ where
  owner := Function.update l.owner i none
  members := Function.update l.members k ((l.members k).map (·.erase i))

/-- Put member `i` at the end of group `k`. -/
def attach (i : ι) (k : κ) (l : Links ι κ) : Links ι κ where
  owner := Function.update l.owner i (some k)
  members := Function.update l.members k ((l.members k).map (· ++ [i]))

theorem detach_owner : (l.detach i k).owner j = if j = i then none else l.owner j :=
  Function.update_apply ..

theorem detach_members : (l.detach i k).members k' =
    if k' = k then (l.members k).map (·.erase i) else l.members k' := Function.update_apply ..

theorem attach_owner : (l.attach i k).owner j = if j = i then some k else l.owner j :=
  Function.update_apply ..

theorem attach_members : (l.attach i k).members k' =
    if k' = k then (l.members k).map (· ++ [i]) else l.members k' := Function.update_apply ..

/-- Taking out a member that has just been put into a group leaves the links as they were. -/
theorem detach_attach (hi : l.owner i = none) (hk : ∀ is, l.members k = some is → i ∉ is) :
    (l.attach i k).detach i k = l := by
  refine Links.ext (funext fun j => ?_) (funext fun k' => ?_)
  · rw [detach_owner, attach_owner]
    by_cases hj : j = i
    · rw [if_pos hj, hj, hi]
    · rw [if_neg hj, if_neg hj]
  · rw [detach_members, attach_members, attach_members, if_pos rfl]
    by_cases hkk : k' = k
    · rw [if_pos hkk, hkk]
      cases hm : l.members k with
      | none => rfl
      | some is =>
        rw [Option.map_some, Option.map_some, List.erase_append_right _ (hk is hm),
          List.erase_cons_head, List.append_nil]
    · rw [if_neg hkk, if_neg hkk]

theorem WF.detach (h : l.WF) (hi : l.owner i = some k) : (l.detach i k).WF := by
  obtain ⟨is, hk, hmem⟩ := h.exists_members hi
  have hnodup := h.nodup k is hk
  refine ⟨fun j k' => ?_, fun k' js hk' => ?_⟩
  · rw [detach_owner, detach_members]
    by_cases hkk : k' = k
    · subst hkk
      simp only [hk, Option.map_some, Option.some.injEq, if_true, exists_eq_left',
        hnodup.mem_erase_iff, h.mem_iff hk]
      by_cases hj : j = i <;> simp [hj]
    · rw [if_neg hkk, ← h.owner_iff]
      by_cases hj : j = i
      · subst hj
        simp [hi, Ne.symm hkk]
      · rw [if_neg hj]
  · rw [detach_members] at hk'
    by_cases hkk : k' = k
    · rw [if_pos hkk, hk, Option.map_some, Option.some.injEq] at hk'
      exact hk' ▸ hnodup.erase i
    · rw [if_neg hkk] at hk'
      exact h.nodup k' js hk'

theorem WF.attach (h : l.WF) (hi : l.owner i = none) (hk : l.members k = some is) :
    (l.attach i k).WF := by
  have hnot : i ∉ is := by
    rw [h.mem_iff hk, hi]
    simp
  refine ⟨fun j k' => ?_, fun k' js hk' => ?_⟩
  · rw [attach_owner, attach_members]
    by_cases hkk : k' = k
    · subst hkk
      simp only [hk, Option.map_some, Option.some.injEq, if_true, exists_eq_left',
        List.mem_append, List.mem_singleton, h.mem_iff hk]
      by_cases hj : j = i <;> simp [hj]
    · rw [if_neg hkk, ← h.owner_iff]
      by_cases hj : j = i
      · subst hj
        simp [hi, Ne.symm hkk]
      · rw [if_neg hj]
  · rw [attach_members] at hk'
    by_cases hkk : k' = k
    · rw [if_pos hkk, hk, Option.map_some, Option.some.injEq] at hk'
      subst hk'
      refine List.nodup_append.mpr ⟨h.nodup k is hk, List.nodup_singleton i, ?_⟩
      rintro a ha b hb rfl
      exact hnot (List.mem_singleton.mp hb ▸ ha)
    · rw [if_neg hkk] at hk'
      exact h.nodup k' js hk'

/-! ## Taking out several members -/

/-- Take the members `is` out of group `k`, one after another. -/
def detachAll (is : List ι) (k : κ) (l : Links ι κ) : Links ι κ :=
  is.foldl (fun l i => l.detach i k) l

/-- Taking out every member leaves the group empty. -/
theorem WF.detachAll (h : l.WF) (hk : l.members k = some is) :
    (l.detachAll is k).WF ∧ (l.detachAll is k).members k = some [] := by
  induction is generalizing l with
  | nil => exact ⟨h, hk⟩
  | cons i is ih =>
    have hi : l.owner i = some k := (h.mem_iff hk).mp (List.mem_cons_self ..)
    refine ih (h.detach hi) ?_
    rw [detach_members, if_pos rfl, hk, Option.map_some, List.erase_cons_head]

/-! ## Leaving a group for good -/

/-- Member `i` leaves its group, and the group goes when it was the last one. -/
def leave (i : ι) (l : Links ι κ) : Links ι κ :=
  match l.owner i with
  | none => l
  | some k =>
    if (l.detach i k).members k = some [] then (l.detach i k).remove k else l.detach i k

theorem WF.leave (h : l.WF) : (l.leave i).WF := by
  unfold Links.leave
  cases hi : l.owner i with
  | none => exact h
  | some k =>
    have hd := h.detach hi
    show Links.WF (if _ then _ else _)
    split
    next hk => exact hd.remove hk
    next => exact hd

theorem leave_owner : (l.leave i).owner j = if j = i then none else l.owner j := by
  unfold Links.leave
  cases hi : l.owner i with
  | none =>
    by_cases hj : j = i
    · simp [hj, hi]
    · simp [hj]
  | some k =>
    rw [← detach_owner (k := k)]
    show (if _ then _ else _ : Links ι κ).owner j = _
    split <;> rfl

end Links
