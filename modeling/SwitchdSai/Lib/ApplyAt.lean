import Mathlib.Logic.Function.Basic
import Mathlib.Data.List.Count

/-!
# Changing a table at one key

`applyAt k f t` is the table `t` with the function `f` applied to the row at `k`. Changes at one key
compose like the functions, and changes at distinct keys do not meet.
-/

section
variable {κ ν : Type} [DecidableEq κ] {k : κ} {f g : ν → ν} {t : κ → ν}

def applyAt (k : κ) (f : ν → ν) (t : κ → ν) : κ → ν := Function.update t k (f (t k))

@[simp] theorem applyAt_self : applyAt k f t k = f (t k) := Function.update_self ..

theorem applyAt_of_ne {k' : κ} (h : k' ≠ k) : applyAt k f t k' = t k' :=
  Function.update_of_ne h ..

@[simp] theorem applyAt_id : applyAt k id t = t := Function.update_eq_self ..

theorem applyAt_applyAt : applyAt k g (applyAt k f t) = applyAt k (g ∘ f) t := by
  funext k'
  by_cases h : k' = k
  · subst h; simp
  · rw [applyAt_of_ne h, applyAt_of_ne h, applyAt_of_ne h]

/-- One function applied at each of several keys, at a key that is among them at most once. -/
theorem foldl_applyAt {ks : List κ} {k' : κ} (hk : ks.count k' ≤ 1) (t : κ → ν) :
    ks.foldl (fun t k => applyAt k f t) t k' = if k' ∈ ks then f (t k') else t k' := by
  induction ks generalizing t with
  | nil => simp
  | cons k ks ih =>
    rw [List.foldl_cons]
    by_cases h : k' = k
    · subst h
      have hnot : k' ∉ ks := by
        rw [List.count_cons_self] at hk
        exact List.count_eq_zero.mp (by omega)
      rw [ih (by rw [List.count_eq_zero.mpr hnot]; omega), if_neg hnot]
      simp
    · rw [List.count_cons_of_ne (Ne.symm h)] at hk
      rw [ih hk, applyAt_of_ne h]
      simp [h]

end
