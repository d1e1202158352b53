import Mathlib.Data.List.Basic

/-!
# Reading a container by position

A cursor gives, for a position, an element and the position after it, or nothing at the end.
`Enumerates` says which elements there are from a position on. `find` is a loop that reads until a
function takes an element; it is given a number of turns, and one more than there are elements is
enough.
-/

namespace Cursor

variable {π α β : Type}

/-- From position `p` on, `read` gives the elements of the list and then nothing. -/
inductive Enumerates (read : π → Option α × π) : π → List α → Prop where
  | done {p p' : π} : read p = (none, p') → Enumerates read p []
  | more {p p' : π} {a : α} {l : List α} : read p = (some a, p') → Enumerates read p' l →
      Enumerates read p (a :: l)

/-- Read until `f` takes an element, for at most `n` turns. -/
def find (read : π → Option α × π) (f : α → Option β) : Nat → π → Option (Option β × π)
  | 0, _ => none
  | n + 1, p =>
    match read p with
    | (none, p') => some (none, p')
    | (some a, p') =>
      match f a with
      | some b => some (some b, p')
      | none => find read f n p'

variable {read : π → Option α × π} {f : α → Option β} {p : π} {l : List α} {n : Nat}

/-- A search that has enough turns ends: at the end when `f` takes nothing, and otherwise behind the
first element that `f` takes. -/
theorem find_ends (h : Enumerates read p l) (hn : l.length < n) :
    ∃ r p', find read f n p = some (r, p') ∧
      (r = none ∧ l.filterMap f = [] ∨ ∃ b rest, r = some b ∧
        l.filterMap f = b :: rest.filterMap f ∧ rest.length < l.length ∧
        Enumerates read p' rest) := by
  induction h generalizing n with
  | @done p p' hread =>
    cases n with
    | zero => cases hn
    | succ n => exact ⟨none, p', by rw [find, hread], .inl ⟨rfl, rfl⟩⟩
  | @more p p' a l hread hrest ih =>
    cases n with
    | zero => cases hn
    | succ n =>
      cases ha : f a with
      | some b =>
        refine ⟨some b, p', by simp only [find, hread, ha], .inr ⟨b, l, rfl, ?_, ?_, hrest⟩⟩
        · rw [List.filterMap_cons_some ha]
        · exact Nat.lt_succ_self _
      | none =>
        obtain ⟨r, p'', hfind, hr⟩ := ih (Nat.lt_of_succ_lt_succ hn)
        refine ⟨r, p'', by simp only [find, hread, ha, hfind], ?_⟩
        rw [List.filterMap_cons_none ha]
        rcases hr with hr | ⟨b, rest, rfl, hb, hlt, henum⟩
        · exact .inl hr
        · exact .inr ⟨b, rest, rfl, hb, Nat.lt_succ_of_lt hlt, henum⟩

end Cursor
