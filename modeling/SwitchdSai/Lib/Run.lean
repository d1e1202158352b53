import Mathlib.Logic.Relation
import SwitchdSai.Lib.Exec

/-!
# Runs of a system

A system offers calls of a type `ι`; call `c` is the program `prog c`. `Reaches ok prog s s'` says
that a finite sequence of completed calls leads from `s` to `s'`, each made in a state in which it
is allowed by `ok`. `Trace ok prog s es` records the calls of such a sequence with their results.
-/

namespace Exec

variable {σ ι α : Type}

/-- One completed call, made in a state in which it is allowed. -/
def Step (ok : σ → ι → Prop) (prog : ι → Exec σ α) (s s' : σ) : Prop :=
  ∃ c a, ok s c ∧ prog c s = .ok (a, s')

/-- A finite sequence of allowed calls leads from `s` to `s'`. -/
def Reaches (ok : σ → ι → Prop) (prog : ι → Exec σ α) : σ → σ → Prop :=
  Relation.ReflTransGen (Step ok prog)

/-- What holds at the start and is preserved by every allowed call holds in every state reached. -/
theorem Reaches.invariant {ok : σ → ι → Prop} {prog : ι → Exec σ α} {I : σ → Prop} {s s' : σ}
    (step : ∀ c s, ok s c → ∀ a s', prog c s = .ok (a, s') → I s → I s')
    (H : Reaches ok prog s s') (h : I s) : I s' := by
  induction H with
  | refl => exact h
  | tail _ hs ih =>
    obtain ⟨c, a, hok, hc⟩ := hs
    exact step c _ hok a _ hc ih

/-- A completed call: the state it was made in, the call, its result and the state it left. -/
structure Event (σ ι α : Type) where
  before : σ
  call : ι
  result : α
  after : σ

/-- The events of a run, the last one first, and the state it has reached. -/
inductive Trace (prog : ι → Exec σ α) (s₀ : σ) : List (Event σ ι α) → σ → Prop
  | nil : Trace prog s₀ [] s₀
  | snoc {es s c a s'} : Trace prog s₀ es s → prog c s = .ok (a, s') →
      Trace prog s₀ (⟨s, c, a, s'⟩ :: es) s'

/-- Every event of a run is an execution of its call. -/
theorem Trace.of_mem {prog : ι → Exec σ α} {s₀ s : σ} {es : List (Event σ ι α)}
    (H : Trace prog s₀ es s) {e : Event σ ι α} (he : e ∈ es) :
    prog e.call e.before = .ok (e.result, e.after) := by
  induction H with
  | nil => cases he
  | snoc _ hc ih =>
    rcases List.mem_cons.mp he with rfl | he
    · exact hc
    · exact ih he

/-- When a call from a state that satisfies the invariant `I` has the property `Q` exactly if it
meets the condition `S`, and then keeps `I`, a run has `Q` throughout exactly if it meets `S`
throughout. `L` says which runs are considered. -/
theorem Trace.forall_iff {prog : ι → Exec σ α} {s₀ s : σ} {es : List (Event σ ι α)}
    {I : List (Event σ ι α) → σ → Prop} {L : List (Event σ ι α) → Prop}
    {Q S : Event σ ι α → Prop} (hL : ∀ e es, L (e :: es) → L es)
    (step : ∀ es e, I es e.before → L (e :: es) → prog e.call e.before = .ok (e.result, e.after) →
      (S e → Q e ∧ I (e :: es) e.after) ∧ (Q e → S e))
    (init : I [] s₀) (H : Trace prog s₀ es s) (legal : L es) :
    (∀ e ∈ es, Q e) ↔ ∀ e ∈ es, S e := by
  suffices h : ((∀ e ∈ es, S e) → I es s) ∧ ((∀ e ∈ es, Q e) ↔ ∀ e ∈ es, S e) from h.2
  induction H with
  | nil => exact ⟨fun _ => init, iff_of_true (fun _ h => by cases h) fun _ h => by cases h⟩
  | snoc H hc ih =>
    obtain ⟨hI, hiff⟩ := ih (hL _ _ legal)
    rw [List.forall_mem_cons, List.forall_mem_cons]
    refine ⟨fun hS => ((step _ _ (hI hS.2) legal hc).1 hS.1).2, ?_, ?_⟩
    · rintro ⟨hQ, hQs⟩
      have hS := hiff.mp hQs
      exact ⟨(step _ _ (hI hS) legal hc).2 hQ, hS⟩
    · rintro ⟨hS, hSs⟩
      exact ⟨((step _ _ (hI hSs) legal hc).1 hS).1, hiff.mpr hSs⟩

end Exec
