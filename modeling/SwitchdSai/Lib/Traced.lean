import Mathlib.Tactic.Tauto
import SwitchdSai.Lib.Exec

/-!
# Programs with the statuses of their calls

`Traced σ α` is a program with two lists of statuses for every state that it is run from: those that
its calls return, and those that it drops. Forgetting the lists gives the program, so that a program
is traced by writing it down once more with its calls marked. `Accounts` says that the calls have
all succeeded exactly if the program reports no failure and has dropped none; it is proved from one
rule for each way of building a program.
-/

namespace Exec

structure Traced (σ α : Type) where
  prog : Exec σ α
  /-- The statuses of the calls. -/
  calls : σ → List Int
  /-- The statuses that are dropped. -/
  dropped : σ → List Int

namespace Traced

variable {σ α β : Type}

/-- What `f` gives after `m`. -/
def after (m : Exec σ α) (f : α → σ → List Int) (s : σ) : List Int :=
  match m s with
  | .ok (a, s') => f a s'
  | .error _ => []

theorem after_ok {m : Exec σ α} {f : α → σ → List Int} {s s' : σ} {a : α}
    (h : m s = .ok (a, s')) : after m f s = f a s' := by
  unfold after
  rw [h]

/-- A program that makes no call that counts. -/
def quiet (m : Exec σ α) : Traced σ α := ⟨m, fun _ => [], fun _ => []⟩

/-- One call, whose status is found in its result. -/
def callOf (status : α → Int) (m : Exec σ α) : Traced σ α :=
  ⟨m, after m fun a _ => [status a], fun _ => []⟩

/-- One call. -/
def call (m : Exec σ Int) : Traced σ Int := callOf id m

def bind (t : Traced σ α) (k : α → Traced σ β) : Traced σ β where
  prog := t.prog >>= fun a => (k a).prog
  calls s := t.calls s ++ after t.prog (fun a => (k a).calls) s
  dropped s := t.dropped s ++ after t.prog (fun a => (k a).dropped) s

instance : Monad (Traced σ) where
  pure a := quiet (pure a)
  bind := bind

instance : MonadLift (Exec σ) (Traced σ) := ⟨quiet⟩

/-- Run `t`, drop its status and go on. -/
def drop (t : Traced σ Int) (u : Traced σ α) : Traced σ α where
  prog := t.prog >>= fun _ => u.prog
  calls s := t.calls s ++ after t.prog (fun _ => u.calls) s
  dropped s := t.dropped s ++ after t.prog (fun st s' => st :: u.dropped s') s

def thenOk (t u : Traced σ Int) : Traced σ Int := do
  let status ← t
  if status = 0 then u else pure status

/-- Run `m`, which makes no call that counts, then `t` if it returns zero; drop the status and go on
with `u`. -/
def dropAfter (m : Exec σ Int) (t : Traced σ Int) (u : Traced σ α) : Traced σ α := do
  let status ← quiet m
  if status = 0 then t.drop u else u

def forEach : List α → (α → Traced σ Int) → Traced σ Int
  | [], _ => pure 0
  | a :: as, f => (f a).thenOk (forEach as f)

/-! ## Forgetting the statuses -/

@[simp] theorem prog_pure (a : α) : (pure a : Traced σ α).prog = pure a := rfl

@[simp] theorem prog_quiet (m : Exec σ α) : (quiet m).prog = m := rfl

@[simp] theorem prog_lift (m : Exec σ α) : (liftM m : Traced σ α).prog = m := rfl

@[simp] theorem prog_callOf (status : α → Int) (m : Exec σ α) : (callOf status m).prog = m := rfl

@[simp] theorem prog_call (m : Exec σ Int) : (call m).prog = m := rfl

@[simp] theorem prog_bind (t : Traced σ α) (k : α → Traced σ β) :
    (t >>= k).prog = t.prog >>= fun a => (k a).prog := rfl

@[simp] theorem prog_drop (t : Traced σ Int) (u : Traced σ α) :
    (t.drop u).prog = t.prog >>= fun _ => u.prog := rfl

@[simp] theorem prog_ite (c : Prop) [Decidable c] (t u : Traced σ α) :
    (if c then t else u).prog = if c then t.prog else u.prog := by
  split <;> rfl

@[simp] theorem prog_thenOk (t u : Traced σ Int) :
    (t.thenOk u).prog = t.prog.thenOk u.prog := by
  simp [thenOk, Exec.thenOk]

@[simp] theorem prog_dropAfter (m : Exec σ Int) (t : Traced σ Int) (u : Traced σ α) :
    (dropAfter m t u).prog = m.thenOk t.prog >>= fun _ => u.prog := by
  simp only [dropAfter, Exec.thenOk, prog_bind, prog_quiet, prog_ite, prog_drop, bind_assoc]
  refine bind_congr fun status => ?_
  split <;> simp

@[simp] theorem prog_forEach (l : List α) (f : α → Traced σ Int) :
    (forEach l f).prog = Exec.forEach l fun a => (f a).prog := by
  induction l with
  | nil => rfl
  | cons a l ih => simp [forEach, Exec.forEach, ih]

/-! ## Accounting for failures -/

/-- Nothing that is dropped is a failure. -/
def Clean (t : Traced σ α) (s : σ) : Prop := ∀ st ∈ t.dropped s, st = 0

/-- Every call succeeds. -/
def Succeeding (t : Traced σ α) (s : σ) : Prop := ∀ st ∈ t.calls s, st = 0

section
variable {m : Exec σ Int} {t : Traced σ α} {u : Traced σ β} {s s' : σ} {st : Int} {a : α}

theorem clean_quiet (m : Exec σ α) : (quiet m).Clean s := fun _ h => by cases h

theorem succeeding_quiet (m : Exec σ α) : (quiet m).Succeeding s := fun _ h => by cases h

theorem clean_bind {k : α → Traced σ β} (h : t.prog s = .ok (a, s')) :
    (t >>= k).Clean s ↔ t.Clean s ∧ (k a).Clean s' := by
  have hdropped : (t >>= k).dropped s = t.dropped s ++ (k a).dropped s' := congrArg _ (after_ok h)
  unfold Clean
  rw [hdropped, List.forall_mem_append]

theorem clean_quiet_bind {m : Exec σ α} {k : α → Traced σ β} (h : m s = .ok (a, s')) :
    (quiet m >>= k).Clean s ↔ (k a).Clean s' := by
  rw [clean_bind (t := quiet m) h, and_iff_right (clean_quiet m)]

theorem succeeding_bind {k : α → Traced σ β} (h : t.prog s = .ok (a, s')) :
    (t >>= k).Succeeding s ↔ t.Succeeding s ∧ (k a).Succeeding s' := by
  have hcalls : (t >>= k).calls s = t.calls s ++ (k a).calls s' := congrArg _ (after_ok h)
  unfold Succeeding
  rw [hcalls, List.forall_mem_append]

theorem clean_drop {t : Traced σ Int} (h : t.prog s = .ok (st, s')) :
    (t.drop u).Clean s ↔ t.Clean s ∧ st = 0 ∧ u.Clean s' := by
  have hdropped : (t.drop u).dropped s = t.dropped s ++ st :: u.dropped s' :=
    congrArg _ (after_ok h)
  unfold Clean
  rw [hdropped, List.forall_mem_append, List.forall_mem_cons]

theorem succeeding_drop {t : Traced σ Int} (h : t.prog s = .ok (st, s')) :
    (t.drop u).Succeeding s ↔ t.Succeeding s ∧ u.Succeeding s' := by
  have hcalls : (t.drop u).calls s = t.calls s ++ u.calls s' := congrArg _ (after_ok h)
  unfold Succeeding
  rw [hcalls, List.forall_mem_append]

/-- A status that has not been zero is that of the first part. -/
theorem Clean.dropAfter {t : Traced σ Int} (hclean : (dropAfter m t u).Clean s)
    (h : m.thenOk t.prog s = .ok (st, s')) : (st = 0 ∨ m s = .ok (st, s')) ∧ u.Clean s' := by
  rcases thenOk_ok.mp h with ⟨hm, h0⟩ | ⟨s₁, hm, ht⟩
  · have hu := (clean_quiet_bind hm).mp hclean
    rw [if_neg h0] at hu
    exact ⟨.inr hm, hu⟩
  · have hrest := (clean_quiet_bind hm).mp hclean
    rw [if_pos rfl] at hrest
    obtain ⟨-, h0, hu⟩ := (clean_drop ht).mp hrest
    exact ⟨.inl h0, hu⟩

end

/-- In every run that completes all calls have succeeded exactly if the result reports no failure
and no failure has been dropped. -/
def Accounts (t : Traced σ α) (good : α → Prop) : Prop :=
  ∀ s a s', t.prog s = .ok (a, s') → (t.Succeeding s ↔ good a ∧ t.Clean s)

/-- The result is the status of the first call that failed. -/
abbrev Reports (t : Traced σ Int) : Prop := t.Accounts (· = 0)

/-- Every failure is dropped. -/
abbrev Drops (t : Traced σ α) : Prop := t.Accounts fun _ => True

namespace Accounts

variable {good : β → Prop} {t u : Traced σ Int}

theorem quiet (m : Exec σ α) : Drops (quiet m) := fun _ _ _ _ =>
  iff_of_true (succeeding_quiet m) ⟨trivial, clean_quiet m⟩

/-- What makes no call and reports no failure. -/
theorem quiet_good {m : Exec σ β} (h : ∀ s b s', m s = .ok (b, s') → good b) :
    (Traced.quiet m).Accounts good := fun s b s' hm =>
  iff_of_true (succeeding_quiet m) ⟨h s b s' hm, clean_quiet m⟩

theorem pure {a : β} (h : good a) : (pure a : Traced σ β).Accounts good :=
  quiet_good (m := Pure.pure a) fun _ _ _ hm => by
    cases hm
    exact h

theorem callOf (status : β → Int) (m : Exec σ β) :
    (callOf status m).Accounts fun a => status a = 0 := by
  intro s a s' h
  have hcalls : (Traced.callOf status m).calls s = [status a] :=
    after_ok (show m s = .ok (a, s') from h)
  unfold Succeeding Clean
  rw [hcalls]
  simp [Traced.callOf]

theorem call (m : Exec σ Int) : Reports (call m) := callOf id m

/-- A program that goes on when its first part is good and otherwise returns a failure. -/
theorem bind_good {first : α → Prop} {t : Traced σ α} {k : α → Traced σ β}
    (ht : t.Accounts first) (hgood : ∀ a, first a → (k a).Accounts good)
    (hbad : ∀ a, ¬first a → ∃ b, k a = Pure.pure b ∧ ¬good b) : (t >>= k).Accounts good := by
  intro s b s' h
  obtain ⟨a, s₁, h₁, h₂⟩ := bind_ok.mp h
  rw [succeeding_bind h₁, clean_bind h₁, ht s a s₁ h₁]
  by_cases ha : first a
  · rw [hgood a ha s₁ b s' h₂]
    tauto
  · obtain ⟨b', hk, hb'⟩ := hbad a ha
    rw [hk] at h₂
    cases h₂
    tauto

theorem bind {t : Traced σ α} {k : α → Traced σ β} (ht : Drops t) (hk : ∀ a, (k a).Accounts good) :
    (t >>= k).Accounts good :=
  bind_good ht (fun a _ => hk a) fun _ h => absurd trivial h

theorem drop {u : Traced σ β} (ht : Reports t) (hu : u.Accounts good) :
    (t.drop u).Accounts good := by
  intro s b s' h
  obtain ⟨st, s₁, h₁, h₂⟩ := bind_ok.mp h
  rw [succeeding_drop h₁, clean_drop h₁, ht s st s₁ h₁, hu s₁ b s' h₂]
  tauto

theorem ite {c : Prop} [Decidable c] {t u : Traced σ β} (ht : t.Accounts good)
    (hu : u.Accounts good) : (if c then t else u).Accounts good := by
  split <;> assumption

/-- A program that returns at the first failure of its parts. -/
theorem thenOk (ht : Reports t) (hu : Reports u) : Reports (t.thenOk u) := by
  refine bind_good ht (fun st h0 => ?_) fun st h0 => ⟨st, if_neg h0, h0⟩
  rw [if_pos h0]
  exact hu

theorem dropAfter {m : Exec σ Int} {u : Traced σ β} (ht : Reports t) (hu : u.Accounts good) :
    (dropAfter m t u).Accounts good :=
  bind (quiet m) fun _ => ite (drop ht hu) hu

/-- A program that drops the failures of its parts. -/
theorem thenOk_drops (ht : Drops t) (hu : Drops u) : Drops (t.thenOk u) :=
  bind ht fun _ => ite hu (pure trivial)

theorem forEach {l : List α} {f : α → Traced σ Int} (hf : ∀ a, Reports (f a)) :
    Reports (forEach l f) := by
  induction l with
  | nil => exact pure rfl
  | cons a l ih => exact (hf a).thenOk ih

theorem forEach_drops {l : List α} {f : α → Traced σ Int} (hf : ∀ a, Drops (f a)) :
    Drops (Traced.forEach l f) := by
  induction l with
  | nil => exact pure trivial
  | cons a l ih => exact (hf a).thenOk_drops ih

end Accounts

end Traced

end Exec
