import SwitchdSai.Lib.Exec

/-!
# Programs that play a script

A script is a list of calls. A program plays a script when it makes the calls of the list one after
another and stops at the first that the environment refuses: then the calls before that one have had
their effect, and no other. Where a run has stopped thus depends only on the script and on the
environment.
-/

namespace Exec

/-- The calls `C` that programs over `σ` make. -/
structure Api (σ τ C : Type) where
  /-- The part of the state that calls act on. -/
  view : σ → τ
  act : C → τ → τ
  /-- Whether the environment grants the `n`-th of the calls to come. -/
  grants : σ → Nat → Bool

namespace Api

variable {σ τ C α : Type} (A : Api σ τ C)

/-- The calls of `l`, one after another. -/
def play (l : List C) (t : τ) : τ := l.foldl (fun t c => A.act c t) t

theorem play_append (l l' : List C) (t : τ) : A.play (l ++ l') t = A.play l' (A.play l t) :=
  List.foldl_append

/-- Every call of `l` has been granted and has had its effect. -/
structure Done (l : List C) (s s' : σ) : Prop where
  granted : ∀ i < l.length, A.grants s i = true
  view : A.view s' = A.play l (A.view s)
  grants : ∀ i, A.grants s' i = A.grants s (l.length + i)

/-- A call of `l` has been refused; those before it have been granted and have had their effect. -/
structure Stopped (l : List C) (s s' : σ) (k : Nat) : Prop where
  lt : k < l.length
  granted : ∀ i < k, A.grants s i = true
  refused : A.grants s k = false
  view : A.view s' = A.play (l.take k) (A.view s)

/-- `m` plays `l`: it succeeds when `l` is done, and fails when it is stopped. -/
def Plays (l : List C) (m : Exec σ Int) : Prop :=
  ∀ s st s', m s = .ok (st, s') → (st = 0 ∧ A.Done l s s') ∨ (st ≠ 0 ∧ ∃ k, A.Stopped l s s' k)

variable {A} {l l' : List C} {m k : Exec σ Int} {s s₁ s' : σ} {n : Nat}

theorem Done.append (h : A.Done l s s₁) (h' : A.Done l' s₁ s') : A.Done (l ++ l') s s' where
  granted i hi := by
    rw [List.length_append] at hi
    by_cases hl : i < l.length
    · exact h.granted i hl
    · have hg := h'.granted (i - l.length) (by omega)
      rwa [h.grants, show l.length + (i - l.length) = i by omega] at hg
  view := by rw [h'.view, h.view, play_append]
  grants i := by rw [h'.grants, h.grants, List.length_append, Nat.add_assoc]

theorem Stopped.append_right (h : A.Stopped l s s' n) (l' : List C) :
    A.Stopped (l ++ l') s s' n where
  lt := by
    have := h.lt
    rw [List.length_append]
    omega
  granted := h.granted
  refused := h.refused
  view := by rw [h.view, List.take_append_of_le_length (Nat.le_of_lt h.lt)]

theorem Stopped.after (h : A.Done l s s₁) (h' : A.Stopped l' s₁ s' n) :
    A.Stopped (l ++ l') s s' (l.length + n) where
  lt := by
    have := h'.lt
    rw [List.length_append]
    omega
  granted i hi := by
    by_cases hl : i < l.length
    · exact h.granted i hl
    · have hg := h'.granted (i - l.length) (by omega)
      rwa [h.grants, show l.length + (i - l.length) = i by omega] at hg
  refused := by rw [← h.grants, h'.refused]
  view := by rw [h'.view, h.view, List.take_length_add_append, play_append]

/-- The environment alone decides at which call of a script a run stops. -/
theorem Stopped.unique {n' : Nat} {s₂ : σ} (h : A.Stopped l s s' n) (h' : A.Stopped l' s s₂ n') :
    n = n' := by
  rcases Nat.lt_trichotomy n n' with hlt | heq | hlt
  · exact absurd (h'.granted n hlt) (by rw [h.refused]; exact Bool.false_ne_true)
  · exact heq
  · exact absurd (h.granted n' hlt) (by rw [h'.refused]; exact Bool.false_ne_true)

/-! ## Rules -/

/-- A program that makes no call. -/
theorem Plays.nil (h : ∀ s st s', m s = .ok (st, s') →
    st = 0 ∧ A.view s' = A.view s ∧ A.grants s' = A.grants s) : A.Plays [] m := by
  intro s st s' hm
  obtain ⟨h0, hview, hgrants⟩ := h s st s' hm
  exact .inl ⟨h0, fun i hi => absurd hi (Nat.not_lt_zero i), hview, fun i => by
    rw [hgrants, List.length_nil, Nat.zero_add]⟩

theorem Plays.pure : A.Plays [] (pure 0) := .nil fun _ _ _ h => by cases h; exact ⟨rfl, rfl, rfl⟩

/-- One call. -/
theorem Plays.call {c : C} (h : ∀ s st s', m s = .ok (st, s') →
    (st = 0 ∧ A.grants s 0 = true ∧ A.view s' = A.act c (A.view s) ∧
      ∀ i, A.grants s' i = A.grants s (i + 1)) ∨
      (st ≠ 0 ∧ A.grants s 0 = false ∧ A.view s' = A.view s)) : A.Plays [c] m := by
  intro s st s' hm
  rcases h s st s' hm with ⟨h0, hgrant, hview, hgrants⟩ | ⟨h0, hrefuse, hview⟩
  · refine .inl ⟨h0, fun i hi => ?_, hview, fun i => ?_⟩
    · rw [show i = 0 from Nat.lt_one_iff.mp hi]
      exact hgrant
    · rw [hgrants, List.length_singleton, Nat.add_comm]
  · exact .inr ⟨h0, 0, Nat.one_pos, fun i hi => absurd hi (Nat.not_lt_zero i), hrefuse, hview⟩

theorem Plays.thenOk (hm : A.Plays l m) (hk : A.Plays l' k) : A.Plays (l ++ l') (m.thenOk k) := by
  intro s st s' h
  rcases thenOk_ok.mp h with ⟨h₁, h0⟩ | ⟨s₁, h₁, h₂⟩
  · obtain ⟨n, hstop⟩ := ((hm s st s' h₁).resolve_left fun h => h0 h.1).2
    exact .inr ⟨h0, n, hstop.append_right l'⟩
  · have hdone := ((hm s 0 s₁ h₁).resolve_right fun h => h.1 rfl).2
    rcases hk s₁ st s' h₂ with ⟨h0, hdone'⟩ | ⟨h0, n, hstop⟩
    · exact .inl ⟨h0, hdone.append hdone'⟩
    · exact .inr ⟨h0, _, hstop.after hdone⟩

theorem Plays.ite {c : Prop} [Decidable c] (hm : A.Plays l m) (hk : A.Plays l' k) :
    A.Plays (if c then l else l') (if c then m else k) := by
  split <;> assumption

theorem Plays.forEach {as : List α} {f : α → Exec σ Int} {e : α → List C}
    (h : ∀ a ∈ as, A.Plays (e a) (f a)) : A.Plays (as.flatMap e) (forEach as f) := by
  induction as with
  | nil => exact Plays.pure
  | cons a as ih =>
    have hrest := ih fun a' ha' => h a' (List.mem_cons_of_mem _ ha')
    exact (h a List.mem_cons_self).thenOk hrest

end Api

end Exec
