import Mathlib.Logic.Function.Basic

/-!
# A table whose rows are owned

Every row of a table belongs to one owner, and an owner has at most one row. An owner records the
key of its row with data of its own, and `agree` says which data goes with which row.
-/

variable {κ ρ δ τ : Type}

structure Owned (agree : δ → τ → Prop) (rec : κ → Option (ρ × δ)) (table : ρ → Option τ) :
    Prop where
  held : ∀ k r d, rec k = some (r, d) → ∃ t, table r = some t ∧ agree d t
  distinct : ∀ k k' r d d', rec k = some (r, d) → rec k' = some (r, d') → k = k'
  owner : ∀ r t, table r = some t → ∃ k d, rec k = some (r, d)

namespace Owned

variable {agree : δ → τ → Prop} {rec : κ → Option (ρ × δ)} {table : ρ → Option τ} {k : κ} {r r' : ρ}
  {d d' : δ} {t t' : τ}

theorem empty : Owned agree (fun _ : κ => none) fun _ : ρ => none where
  held _ _ _ h := by cases h
  distinct _ _ _ _ _ h := by cases h
  owner _ _ h := by cases h

/-- A row that no other owner has recorded belongs to `k`. -/
theorem owner_eq (h : Owned agree rec table) (ht : table r = some t)
    (hother : ∀ k' d, k' ≠ k → rec k' ≠ some (r, d)) : ∃ d, rec k = some (r, d) := by
  obtain ⟨k', d, hrec⟩ := h.owner r t ht
  by_cases hk : k' = k
  · exact ⟨d, hk ▸ hrec⟩
  · exact absurd hrec (hother k' d hk)

section
variable [DecidableEq κ] [DecidableEq ρ]

/-- An owner without a row takes a new one. -/
theorem take (h : Owned agree rec table) (hk : rec k = none) (hr : table r = none)
    (hd : agree d t) :
    Owned agree (Function.update rec k (some (r, d))) (Function.update table r (some t)) := by
  have hne : ∀ {k' r' d'}, rec k' = some (r', d') → r' ≠ r := by
    rintro k' r' d' hrec rfl
    obtain ⟨t', ht', -⟩ := h.held k' r' d' hrec
    cases hr.symm.trans ht'
  have hcases : ∀ {k' r' d'}, Function.update rec k (some (r, d)) k' = some (r', d') →
      k' = k ∧ r' = r ∧ d' = d ∨ k' ≠ k ∧ rec k' = some (r', d') := by
    intro k' r' d' hrec
    by_cases hk' : k' = k
    · subst hk'
      rw [Function.update_self] at hrec
      cases hrec
      exact .inl ⟨rfl, rfl, rfl⟩
    · rw [Function.update_of_ne hk'] at hrec
      exact .inr ⟨hk', hrec⟩
  refine ⟨fun k' r' d' hrec => ?_, fun k₁ k₂ r' d₁ d₂ h₁ h₂ => ?_, fun r' t' ht' => ?_⟩
  · rcases hcases hrec with ⟨-, rfl, rfl⟩ | ⟨-, hrec⟩
    · exact ⟨t, Function.update_self .., hd⟩
    · rw [Function.update_of_ne (hne hrec)]
      exact h.held k' r' d' hrec
  · rcases hcases h₁ with ⟨rfl, rfl, -⟩ | ⟨-, hold₁⟩
    · rcases hcases h₂ with ⟨rfl, -, -⟩ | ⟨-, hold₂⟩
      · rfl
      · exact absurd rfl (hne hold₂)
    · rcases hcases h₂ with ⟨-, hr₂, -⟩ | ⟨-, hold₂⟩
      · exact absurd hr₂ (hne hold₁)
      · exact h.distinct k₁ k₂ r' d₁ d₂ hold₁ hold₂
  · by_cases hr' : r' = r
    · subst hr'
      exact ⟨k, d, Function.update_self ..⟩
    · rw [Function.update_of_ne hr'] at ht'
      obtain ⟨k', d', hrec⟩ := h.owner r' t' ht'
      have hk' : k' ≠ k := by
        rintro rfl
        cases hk.symm.trans hrec
      exact ⟨k', d', (Function.update_of_ne hk' ..).trans hrec⟩

/-- An owner gives up its row. -/
theorem giveUp (h : Owned agree rec table) (hk : rec k = some (r, d)) :
    Owned agree (Function.update rec k none) (Function.update table r none) := by
  have hcases : ∀ {k' r' d'}, Function.update rec k none k' = some (r', d') →
      k' ≠ k ∧ rec k' = some (r', d') := by
    intro k' r' d' hrec
    by_cases hk' : k' = k
    · subst hk'
      rw [Function.update_self] at hrec
      cases hrec
    · rw [Function.update_of_ne hk'] at hrec
      exact ⟨hk', hrec⟩
  refine ⟨fun k' r' d' hrec => ?_, fun k₁ k₂ r' d₁ d₂ h₁ h₂ => ?_, fun r' t' ht' => ?_⟩
  · obtain ⟨hk', hrec⟩ := hcases hrec
    have hr' : r' ≠ r := by
      rintro rfl
      exact hk' (h.distinct k' k r' d' d hrec hk)
    rw [Function.update_of_ne hr']
    exact h.held k' r' d' hrec
  · exact h.distinct k₁ k₂ r' d₁ d₂ (hcases h₁).2 (hcases h₂).2
  · have hr' : r' ≠ r := by
      rintro rfl
      rw [Function.update_self] at ht'
      cases ht'
    rw [Function.update_of_ne hr'] at ht'
    obtain ⟨k', d', hrec⟩ := h.owner r' t' ht'
    have hk' : k' ≠ k := by
      rintro rfl
      cases hk.symm.trans hrec
      exact hr' rfl
    exact ⟨k', d', (Function.update_of_ne hk' ..).trans hrec⟩

/-- An owner changes its row and what it records with it. -/
theorem change (h : Owned agree rec table) (hk : rec k = some (r, d)) (hd : agree d' t') :
    Owned agree (Function.update rec k (some (r, d'))) (Function.update table r (some t')) := by
  have hgive := h.giveUp hk
  have htake := hgive.take (k := k) (r := r) (Function.update_self ..) (Function.update_self ..) hd
  rwa [Function.update_idem, Function.update_idem] at htake

end

end Owned
