import Mathlib.Data.List.Nodup
import Mathlib.Data.Set.Insert
import Mathlib.Logic.Function.Basic

/-!
# A cache that mirrors a table

A cache is a set of entries; an entry may stand for a row of a table, as `row` says. `Mirrors row C
t` says that the rows of `t` are exactly those that the entries of `C` stand for. Several entries
may stand for one row, so that removing an entry needs to know that no other one does.
-/

variable {ε α β : Type}

/-- In a list with distinct keys, removing the first entry with a key removes the only one. -/
theorem List.mem_eraseP_key [DecidableEq α] {key : ε → α} {k : α} {l : List ε}
    (hl : (l.map key).Nodup) {e : ε} :
    e ∈ l.eraseP (key · = k) ↔ e ∈ l ∧ key e ≠ k := by
  induction l with
  | nil => simp
  | cons e' l ih =>
    obtain ⟨hnot, hl'⟩ := List.nodup_cons.mp hl
    by_cases hk : key e' = k
    · rw [List.eraseP_cons_of_pos (by simpa using hk)]
      have hne : e ∈ l → key e ≠ k := by
        intro hmem he
        exact hnot (List.mem_map.mpr ⟨e, hmem, he.trans hk.symm⟩)
      constructor
      · exact fun hmem => ⟨List.mem_cons_of_mem _ hmem, hne hmem⟩
      · rintro ⟨hmem, hne⟩
        rcases List.mem_cons.mp hmem with rfl | hmem
        · exact absurd hk hne
        · exact hmem
    · rw [List.eraseP_cons_of_neg (by simpa using hk), List.mem_cons, ih hl', List.mem_cons]
      constructor
      · rintro (rfl | ⟨hmem, hne⟩)
        · exact ⟨.inl rfl, hk⟩
        · exact ⟨.inr hmem, hne⟩
      · rintro ⟨rfl | hmem, hne⟩
        · exact .inl rfl
        · exact .inr ⟨hmem, hne⟩

structure Mirrors (row : ε → Option (α × β)) (C : Set ε) (t : α → Option β) : Prop where
  sound : ∀ e ∈ C, ∀ a b, row e = some (a, b) → t a = some b
  complete : ∀ a b, t a = some b → ∃ e ∈ C, row e = some (a, b)

namespace Mirrors

variable {row : ε → Option (α × β)} {C : Set ε} {t : α → Option β} {e : ε} {a : α} {b : β}

theorem empty : Mirrors row ∅ fun _ => none where
  sound _ h := h.elim
  complete _ _ h := by cases h

/-- An entry that stands for no row may come. -/
theorem insert_none (h : Mirrors row C t) (he : row e = none) : Mirrors row (insert e C) t where
  sound e' hmem a b hrow := by
    rcases hmem with rfl | hmem
    · cases he.symm.trans hrow
    · exact h.sound e' hmem a b hrow
  complete a b ht := by
    obtain ⟨e', hmem, hrow⟩ := h.complete a b ht
    exact ⟨e', .inr hmem, hrow⟩

/-- Entries that stand for no row may go. -/
theorem remove_none {P : ε → Prop} (h : Mirrors row C t) (hP : ∀ e ∈ C, P e → row e = none) :
    Mirrors row {e ∈ C | ¬P e} t where
  sound e hmem := h.sound e hmem.1
  complete a b ht := by
    obtain ⟨e, hmem, hrow⟩ := h.complete a b ht
    exact ⟨e, ⟨hmem, fun hp => by cases (hP e hmem hp).symm.trans hrow⟩, hrow⟩

section
variable [DecidableEq α]

/-- A row is written when its entry comes; other entries for it must agree. -/
theorem insert (h : Mirrors row C t) (he : row e = some (a, b))
    (hagree : ∀ e' ∈ C, ∀ b', row e' = some (a, b') → b' = b) :
    Mirrors row (insert e C) (Function.update t a (some b)) where
  sound e' hmem a' b' hrow := by
    rcases hmem with rfl | hmem
    · cases he.symm.trans hrow
      exact Function.update_self ..
    · by_cases ha : a' = a
      · subst ha
        rw [hagree e' hmem b' hrow]
        exact Function.update_self ..
      · rw [Function.update_of_ne ha]
        exact h.sound e' hmem a' b' hrow
  complete a' b' ht := by
    by_cases ha : a' = a
    · subst ha
      rw [Function.update_self] at ht
      cases ht
      exact ⟨e, .inl rfl, he⟩
    · rw [Function.update_of_ne ha] at ht
      obtain ⟨e', hmem, hrow⟩ := h.complete a' b' ht
      exact ⟨e', .inr hmem, hrow⟩

/-- A row is deleted when the entries for it go, and no others do. -/
theorem remove {P : ε → Prop} (h : Mirrors row C t) (hP : ∀ e ∈ C, P e → ∃ b, row e = some (a, b))
    (hall : ∀ e ∈ C, ∀ b, row e = some (a, b) → P e) :
    Mirrors row {e ∈ C | ¬P e} (Function.update t a none) where
  sound e hmem a' b' hrow := by
    have ha : a' ≠ a := by
      rintro rfl
      exact hmem.2 (hall e hmem.1 b' hrow)
    rw [Function.update_of_ne ha]
    exact h.sound e hmem.1 a' b' hrow
  complete a' b' ht := by
    by_cases ha : a' = a
    · subst ha
      rw [Function.update_self] at ht
      cases ht
    · rw [Function.update_of_ne ha] at ht
      obtain ⟨e, hmem, hrow⟩ := h.complete a' b' ht
      refine ⟨e, ⟨hmem, fun hp => ?_⟩, hrow⟩
      obtain ⟨b, hrow'⟩ := hP e hmem hp
      cases hrow.symm.trans hrow'
      exact ha rfl

end

end Mirrors
