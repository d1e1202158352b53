import Mathlib.Logic.Function.Basic
import SwitchdSai.Lib.Run

/-!
# Parties that share resources

Several parties work on one shared state, whose resources are named by `ι`. `view` reads the content
of each resource, `none` for one that does not exist, and every party owns some of them. A party
that works as a tenant (`Tenant`) leaves the resources of others alone and takes over only ones that
did not exist. Then no resource gets two owners, and a party finds its own as it left them, whatever
the others do in between.
-/

variable {ι β κ σ α γ : Type}

/-- A party that owned `own` and now owns `own'` has changed the resources as a tenant. -/
structure Tenant (own own' : ι → Prop) (view view' : ι → Option β) : Prop where
  others : ∀ i, (view i).isSome → ¬own i → view' i = view i
  taken : ∀ i, own' i → own i ∨ view i = none

namespace Tenant

variable {own own' own'' : ι → Prop} {view view' view'' : ι → Option β}

theorem refl (own : ι → Prop) (view : ι → Option β) : Tenant own own view view :=
  ⟨fun _ _ _ => rfl, fun _ => .inl⟩

theorem trans (h : Tenant own own' view view') (h' : Tenant own' own'' view' view'') :
    Tenant own own'' view view'' where
  others i hi hown := by
    have hi' := h.others i hi hown
    have hown' : ¬own' i := fun hown' => (h.taken i hown').elim hown fun hnone => by
      rw [hnone] at hi
      cases hi
    rw [h'.others i (hi' ▸ hi) hown', hi']
  taken i hown'' := by
    by_cases hown : own i
    · exact .inl hown
    refine .inr ?_
    by_contra hview
    have hi : (view i).isSome := Option.isSome_iff_ne_none.mpr hview
    have hi' := h.others i hi hown
    rcases h'.taken i hown'' with hown' | hnone
    · exact (h.taken i hown').elim hown hview
    · exact hview (hi' ▸ hnone)

/-- Giving up resources. -/
theorem giveUp (h : Tenant own own' view view') (hsub : ∀ i, own'' i → own' i) :
    Tenant own own'' view view' := ⟨h.others, fun i hi => h.taken i (hsub i hi)⟩

theorem of_eq (hview : view' = view) (hown : own' = own) : Tenant own own' view view' := by
  rw [hview, hown]
  exact refl own view

end Tenant

/-- What the parties own exists, and nothing has two owners. -/
structure Tenants (own : κ → ι → Prop) (view : ι → Option β) : Prop where
  exist : ∀ k i, own k i → (view i).isSome
  distinct : ∀ k k' i, own k i → own k' i → k = k'

namespace Tenants

variable {own own' : κ → ι → Prop} {view view' : ι → Option β} {k k' : κ}

/-- A resource that one party owns is not touched by another. -/
theorem untouched (h : Tenants own view) (hstep : Tenant (own k) (own' k) view view')
    (hk : k' ≠ k) {i : ι} (hi : own k' i) : view' i = view i :=
  hstep.others i (h.exist k' i hi) fun hown => hk (h.distinct k' k i hi hown)

/-- What a tenant takes over belongs to nobody else. -/
theorem not_taken (h : Tenants own view) (hstep : Tenant (own k) (own' k) view view') {i : ι}
    (hi : own' k i) (hk : k' ≠ k) : ¬own k' i := fun hi' =>
  (hstep.taken i hi).elim (fun hki => hk (h.distinct k' k i hi' hki)) fun hnone => by
    have hsome := h.exist k' i hi'
    rw [hnone] at hsome
    cases hsome

theorem step (h : Tenants own view) (hstep : Tenant (own k) (own' k) view view')
    (hown : ∀ k', k' ≠ k → own' k' = own k') (hexist : ∀ i, own' k i → (view' i).isSome) :
    Tenants own' view' where
  exist k' i hi := by
    by_cases hk : k' = k
    · exact hexist i (hk ▸ hi)
    · rw [hown k' hk] at hi
      rw [h.untouched hstep hk hi]
      exact h.exist k' i hi
  distinct k₁ k₂ i h₁ h₂ := by
    by_cases hk₁ : k₁ = k <;> by_cases hk₂ : k₂ = k
    · exact hk₁.trans hk₂.symm
    · rw [hown k₂ hk₂] at h₂
      exact absurd h₂ (h.not_taken hstep (hk₁ ▸ h₁) hk₂)
    · rw [hown k₁ hk₁] at h₁
      exact absurd h₁ (h.not_taken hstep (hk₂ ▸ h₂) hk₁)
    · rw [hown k₁ hk₁] at h₁
      rw [hown k₂ hk₂] at h₂
      exact h.distinct k₁ k₂ i h₁ h₂

end Tenants

/-- Everything that exists has an owner. -/
def FullyOwned (own : κ → ι → Prop) (view : ι → Option β) : Prop :=
  ∀ i, (view i).isSome → ∃ k, own k i

/-- A party leaves nothing behind: what it does not own existed and was not its own. -/
theorem FullyOwned.step {own own' : κ → ι → Prop} {view view' : ι → Option β} {k : κ}
    (h : FullyOwned own view) (hown : ∀ k', k' ≠ k → own' k' = own k')
    (hleft : ∀ i, (view' i).isSome → ¬own' k i → (view i).isSome ∧ ¬own k i) :
    FullyOwned own' view' := by
  intro i hi
  by_cases hk : own' k i
  · exact ⟨k, hk⟩
  obtain ⟨hview, hnot⟩ := hleft i hi hk
  obtain ⟨k', hk'⟩ := h i hview
  refine ⟨k', ?_⟩
  rw [hown k' fun h => hnot (h ▸ hk')]
  exact hk'
