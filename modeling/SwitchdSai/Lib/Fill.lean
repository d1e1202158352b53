import Mathlib.Logic.Function.Basic

/-!
# Filling a table

`fill f l t` is the table `t` after each element `a` of the list `l` has been written, in order, at
the index `f a`. Every index that is written holds one of the elements written there, so that all
elements are found again exactly if `f` tells them apart.
-/

variable {α κ : Type} [DecidableEq κ] {f : α → κ} {l : List α} {t : κ → α}

def fill (f : α → κ) (l : List α) (t : κ → α) : κ → α :=
  l.foldl (fun t a => Function.update t (f a) a) t

@[simp] theorem fill_nil : fill f [] t = t := rfl

@[simp] theorem fill_cons {a : α} : fill f (a :: l) t = fill f l (Function.update t (f a) a) := rfl

theorem fill_of_not_mem {k : κ} (h : ∀ a ∈ l, f a ≠ k) : fill f l t k = t k := by
  induction l generalizing t with
  | nil => rfl
  | cons a l ih =>
    rw [fill_cons, ih fun b hb => h b (List.mem_cons_of_mem _ hb),
      Function.update_of_ne (h a (List.mem_cons_self ..)).symm]

/-- An index that is written holds one of the elements written there. -/
theorem exists_fill_eq {k : κ} (h : ∃ a ∈ l, f a = k) : ∃ a ∈ l, f a = k ∧ fill f l t k = a := by
  induction l generalizing t with
  | nil =>
    obtain ⟨_, ha, -⟩ := h
    cases ha
  | cons a l ih =>
    rw [fill_cons]
    by_cases hl : ∃ b ∈ l, f b = k
    · obtain ⟨b, hb, hk, hfill⟩ := ih hl
      exact ⟨b, List.mem_cons_of_mem _ hb, hk, hfill⟩
    · have hother : ∀ b ∈ l, f b ≠ k := fun b hb hk => hl ⟨b, hb, hk⟩
      obtain ⟨b, hb, hk⟩ := h
      rcases List.mem_cons.mp hb with rfl | hb
      · refine ⟨b, List.mem_cons_self .., hk, ?_⟩
        rw [fill_of_not_mem hother, hk, Function.update_self]
      · exact absurd hk (hother b hb)

/-- Every element is found at its index exactly if no two have the same one. -/
theorem fill_eq_self_iff :
    (∀ a ∈ l, fill f l t (f a) = a) ↔ ∀ a ∈ l, ∀ b ∈ l, f a = f b → a = b := by
  constructor
  · intro h a ha b hb hab
    rw [← h a ha, hab, h b hb]
  · intro h a ha
    obtain ⟨b, hb, hk, hfill⟩ := exists_fill_eq (t := t) ⟨a, ha, rfl⟩
    rw [hfill]
    exact h b hb a ha hk
