import Mathlib.Data.List.Basic
import Mathlib.Data.List.InsertIdx

/-!
# Arbitrary orders and fresh numbers

A hash table is walked in an order its user does not control, and an allocator returns a number its
user does not choose. Both choices are driven by a number: `walk seed l` is a permutation of `l`,
and `fresh n used` is a number outside `used`, which is `n` whenever it can be.
-/

/-- The elements of `l` in the order given by `seed`. -/
def walk {α : Type} : Nat → List α → List α
  | _, [] => []
  | seed, a :: l => (walk (seed / (l.length + 1)) l).insertIdx (seed % (l.length + 1)) a

theorem walk_perm {α : Type} (seed : Nat) (l : List α) : (walk seed l).Perm l := by
  induction l generalizing seed with
  | nil => exact .nil
  | cons a l ih =>
    have ih := ih (seed / (l.length + 1))
    refine (List.perm_insertIdx a _ ?_).trans (ih.cons a)
    rw [ih.length_eq]
    exact Nat.le_of_lt_succ (Nat.mod_lt _ (Nat.succ_pos _))

@[simp] theorem mem_walk {α : Type} {seed : Nat} {l : List α} {a : α} : a ∈ walk seed l ↔ a ∈ l :=
  (walk_perm seed l).mem_iff

/-- A number outside `used`: `n` itself unless it is used. -/
def fresh (n : Nat) (used : List Nat) : Nat :=
  if n ∈ used then used.max?.getD 0 + 1 else n

theorem fresh_notMem (n : Nat) (used : List Nat) : fresh n used ∉ used := by
  unfold fresh
  split
  · intro h
    have := List.le_max?_getD_of_mem (k := 0) h
    omega
  · assumption
