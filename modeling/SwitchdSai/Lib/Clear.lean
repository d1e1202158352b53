import Mathlib.Data.List.Nodup
import SwitchdSai.Lib.Exec

/-!
# Removing entries from a table

A state has a table, which `table` reads. `Clears table P ks m Q` is a contract for a program that
removes entries: from a state satisfying `P` that has an entry at each of the keys `ks`, it
succeeds, removes these entries and no others, and ends in a state satisfying `Q`. Contracts are put
together the way the programs are, and the keys are appended.
-/

namespace Exec

variable {σ κ ν α : Type} {table : σ → κ → Option ν} {ks ks' : List κ} {s s₁ s' : σ}

/-- The entries at the keys `ks` are gone and the others are as they were. -/
structure Cleared (table : σ → κ → Option ν) (ks : List κ) (s s' : σ) : Prop where
  gone : ∀ k ∈ ks, table s' k = none
  kept : ∀ k, k ∉ ks → table s' k = table s k

namespace Cleared

theorem of_eq (h : table s' = table s) : Cleared table [] s s' :=
  ⟨fun _ hk => (List.not_mem_nil hk).elim, fun k _ => congrFun h k⟩

theorem trans_eq (h : Cleared table ks s s₁) (heq : table s' = table s₁) :
    Cleared table ks s s' :=
  ⟨fun k hk => heq ▸ h.gone k hk, fun k hk => heq ▸ h.kept k hk⟩

theorem append (h : Cleared table ks s s₁) (h' : Cleared table ks' s₁ s') :
    Cleared table (ks ++ ks') s s' := by
  refine ⟨fun k hk => ?_, fun k hk => ?_⟩
  · by_cases hk' : k ∈ ks'
    · exact h'.gone k hk'
    · rw [h'.kept k hk']
      exact h.gone k ((List.mem_append.mp hk).resolve_right hk')
  · rw [List.mem_append, not_or] at hk
    rw [h'.kept k hk.2, h.kept k hk.1]

theorem perm (h : Cleared table ks s s') (hp : ks.Perm ks') : Cleared table ks' s s' :=
  ⟨fun k hk => h.gone k (hp.mem_iff.mpr hk), fun k hk => h.kept k (mt hp.mem_iff.mp hk)⟩

end Cleared

def Clears (table : σ → κ → Option ν) (P : σ → Prop) (ks : List κ) (m : Exec σ Int)
    (Q : σ → Prop) : Prop :=
  ∀ s st s', P s → ks.Nodup → (∀ k ∈ ks, (table s k).isSome) → m s = .ok (st, s') →
    st = 0 ∧ Q s' ∧ Cleared table ks s s'

namespace Clears

variable {P Q R : σ → Prop} {m n : Exec σ Int}

theorem pure : Clears table P [] (pure 0) P := fun _ _ _ hP _ _ h => by
  cases h
  exact ⟨rfl, hP, .of_eq rfl⟩

theorem imp {P' Q' : σ → Prop} (h : Clears table P ks m Q) (hP : ∀ s, P' s → P s)
    (hQ : ∀ s, Q s → Q' s) : Clears table P' ks m Q' := by
  intro s st s' hs hnodup hthere hm
  obtain ⟨h0, hs', hcleared⟩ := h s st s' (hP s hs) hnodup hthere hm
  exact ⟨h0, hQ s' hs', hcleared⟩

/-- A program that leaves the table as it is. -/
theorem quiet (h : ∀ s st s', P s → m s = .ok (st, s') → st = 0 ∧ Q s' ∧ table s' = table s) :
    Clears table P [] m Q := fun s st s' hP _ _ hm =>
  let ⟨h0, hQ, htable⟩ := h s st s' hP hm
  ⟨h0, hQ, .of_eq htable⟩

theorem thenOk (hm : Clears table P ks m Q) (hn : Clears table Q ks' n R) :
    Clears table P (ks ++ ks') (m.thenOk n) R := by
  intro s st s' hP hnodup hthere h
  obtain ⟨hks, hks', hdisjoint⟩ := List.nodup_append'.mp hnodup
  have hthere₁ : ∀ k ∈ ks, (table s k).isSome := fun k hk => hthere k (List.mem_append_left _ hk)
  rcases thenOk_ok.1 h with ⟨h₁, h0⟩ | ⟨s₁, h₁, h₂⟩
  · exact absurd (hm _ _ _ hP hks hthere₁ h₁).1 h0
  · obtain ⟨-, hQ, hcleared⟩ := hm _ _ _ hP hks hthere₁ h₁
    -- what is still to be removed has not been touched
    have hthere₂ : ∀ k ∈ ks', (table s₁ k).isSome := fun k hk => by
      rw [hcleared.kept k fun hk' => hdisjoint hk' hk]
      exact hthere k (List.mem_append_right _ hk)
    obtain ⟨h0, hR, hcleared'⟩ := hn _ _ _ hQ hks' hthere₂ h₂
    exact ⟨h0, hR, hcleared.append hcleared'⟩

theorem forEach {f : α → Exec σ Int} {key : α → κ} (h : ∀ a, Clears table P [key a] (f a) P)
    (l : List α) : Clears table P (l.map key) (forEach l f) P := by
  induction l with
  | nil => exact pure
  | cons a l ih => exact (h a).thenOk ih

theorem perm (h : Clears table P ks m Q) (hp : ks.Perm ks') : Clears table P ks' m Q := by
  intro s st s' hP hnodup hthere hm
  obtain ⟨h0, hQ, hcleared⟩ := h s st s' hP (hp.nodup_iff.mpr hnodup)
    (fun k hk => hthere k (hp.mem_iff.mp hk)) hm
  exact ⟨h0, hQ, hcleared.perm hp⟩

end Clears

end Exec
