import Mathlib.Order.Defs.Unbundled

/-!
# Programs that change a state and may stop

`Exec σ α` is a sequential program over a state `σ` with a result in `α`. A program that fails an
assertion, or whose next step has no defined meaning, stops: it has no final state. Programs of type
`Exec σ Int` return a status, zero for success, and are sequenced by `thenOk` and `forEach`, which
stop at the first status that is not zero.

Six judgments describe programs: `Rel R m` (an execution that completes relates its final state to
its initial one), `Succeeds P m` (it returns zero), `Does view m f` (when it does, it acts on a part
of the state as the function `f`), `Avoids E m s` (from `s` it does not stop for a reason in `E`),
`Never E m` (from no state it does) and `Ends m s Q` (it completes, and then `Q` holds). Each has
one rule for each way programs are built. A property that `Composes` passes from the parts of a
sequence to the sequence, and so from the turns of a loop to the loop.
-/

/-- Why a program stopped before its end. -/
inductive Halt where
  /-- An assertion failed; the label says which. -/
  | assertion (label : String)
  /-- The next step has no defined meaning. -/
  | undefined (label : String)
  deriving DecidableEq, Repr

/-- A program over the state `σ` with a result in `α`. -/
def Exec (σ α : Type) : Type := σ → Except Halt (α × σ)

namespace Exec

variable {σ τ α β γ : Type}

instance : Monad (Exec σ) where
  pure a s := .ok (a, s)
  bind m k s := match m s with
    | .error e => .error e
    | .ok (a, s') => k a s'

instance : LawfulMonad (Exec σ) :=
  .mk' _ (fun m => funext fun s => by
      change (match m s with | .error e => Except.error e | .ok (a, s') => .ok (a, s')) = m s
      cases m s <;> rfl)
    (fun _ _ => rfl) fun m k l => funext fun s => by
      change (match (match m s with | .error e => Except.error e | .ok (a, s') => k a s') with
        | .error e => Except.error e
        | .ok (b, s') => l b s') = match m s with
        | .error e => Except.error e
        | .ok (a, s') => match k a s' with
          | .error e => Except.error e
          | .ok (b, s') => l b s'
      cases m s <;> rfl

/-- Stop. -/
def halt (e : Halt) : Exec σ α := fun _ => .error e

/-- Read the state through `f`. -/
def gets (f : σ → α) : Exec σ α := fun s => .ok (f s, s)

/-- Replace the state by its image under `f`. -/
def modify (f : σ → σ) : Exec σ Unit := fun s => .ok ((), f s)

/-- Stop unless `b` holds. -/
def require (e : Halt) (b : Bool) : Exec σ Unit := if b then pure () else halt e

abbrev assert (label : String) (b : Bool) : Exec σ Unit := require (.assertion label) b

/-- What follows has a defined meaning only if `b` holds. -/
abbrev defined (label : String) (b : Bool) : Exec σ Unit := require (.undefined label) b

/-- Continue with the value of `o`; without one, stop. -/
def need (e : Halt) : Option α → Exec σ α
  | some a => pure a
  | none => halt e

/-- Run a program over a part of the state. -/
def zoom (get : σ → τ) (put : τ → σ → σ) (m : Exec τ α) : Exec σ α := fun s =>
  match m (get s) with
  | .error e => .error e
  | .ok (a, t) => .ok (a, put t s)

/-- Run `k` after `m` if the status of `m` is zero; otherwise return that status. -/
def thenOk (m k : Exec σ Int) : Exec σ Int := do
  let status ← m
  if status = 0 then k else pure status

/-- Run `f` on each element in turn, up to the first status that is not zero. -/
def forEach : List α → (α → Exec σ Int) → Exec σ Int
  | [], _ => pure 0
  | a :: as, f => (f a).thenOk (forEach as f)

/-- Run `f` on each element in turn. -/
def forAll : List α → (α → Exec σ Unit) → Exec σ Unit
  | [], _ => pure ()
  | a :: as, f => do f a; forAll as f

/-- The result of an execution that completes. -/
def result (m : Exec σ α) (s : σ) : Option α :=
  match m s with
  | .error _ => none
  | .ok (a, _) => some a

/-! ## Inversion -/

theorem result_eq_some {m : Exec σ α} {s : σ} {a : α} :
    result m s = some a ↔ ∃ s', m s = .ok (a, s') := by
  unfold result
  cases m s with
  | error e => simp
  | ok p => simp [Prod.ext_iff]

@[simp] theorem pure_apply (a : α) (s : σ) : (pure a : Exec σ α) s = .ok (a, s) := rfl

@[simp] theorem halt_apply (e : Halt) (s : σ) : (halt e : Exec σ α) s = .error e := rfl

@[simp] theorem gets_apply (f : σ → α) (s : σ) : gets f s = .ok (f s, s) := rfl

@[simp] theorem modify_apply (f : σ → σ) (s : σ) : modify f s = .ok ((), f s) := rfl

theorem bind_of_ok {m : Exec σ α} {k : α → Exec σ β} {s s' : σ} {a : α} (h : m s = .ok (a, s')) :
    (m >>= k) s = k a s' := by
  change (match m s with | .error e => Except.error e | .ok (a, s') => k a s') = _
  rw [h]

theorem bind_of_error {m : Exec σ α} {k : α → Exec σ β} {s : σ} {e : Halt} (h : m s = .error e) :
    (m >>= k) s = .error e := by
  change (match m s with | .error e => Except.error e | .ok (a, s') => k a s') = _
  rw [h]

theorem bind_ok {m : Exec σ α} {k : α → Exec σ β} {s : σ} {r : β × σ} :
    (m >>= k) s = .ok r ↔ ∃ a s', m s = .ok (a, s') ∧ k a s' = .ok r := by
  cases hm : m s with
  | error e => simp [bind_of_error hm]
  | ok p =>
    rw [bind_of_ok hm]
    exact ⟨fun h => ⟨p.1, p.2, rfl, h⟩, fun ⟨_, _, h, hk⟩ => by cases h; exact hk⟩

theorem gets_bind (f : σ → α) (k : α → Exec σ β) (s : σ) : (gets f >>= k) s = k (f s) s := rfl

theorem modify_bind (f : σ → σ) (k : Unit → Exec σ β) (s : σ) :
    (modify f >>= k) s = k () (f s) := rfl

theorem require_ok {e : Halt} {b : Bool} {s : σ} {r : Unit × σ} :
    (require e b : Exec σ Unit) s = .ok r ↔ b = true ∧ r = ((), s) := by
  unfold require
  cases b <;> simp [eq_comm]

theorem require_bind {e : Halt} {b : Bool} {k : Unit → Exec σ α} {s : σ} {r : α × σ} :
    (require e b >>= k) s = .ok r ↔ b = true ∧ k () s = .ok r := by
  rw [bind_ok]
  constructor
  · rintro ⟨_, s', h₁, h⟩
    obtain ⟨hb, h₁⟩ := require_ok.1 h₁
    cases h₁
    exact ⟨hb, h⟩
  · rintro ⟨hb, h⟩
    exact ⟨(), s, require_ok.2 ⟨hb, rfl⟩, h⟩

theorem need_ok {e : Halt} {o : Option α} {s : σ} {r : α × σ} :
    (need e o : Exec σ α) s = .ok r ↔ ∃ a, o = some a ∧ r = (a, s) := by
  cases o <;> simp [need, eq_comm]

theorem need_bind {e : Halt} {o : Option α} {k : α → Exec σ β} {s : σ} {r : β × σ} :
    (need e o >>= k) s = .ok r ↔ ∃ a, o = some a ∧ k a s = .ok r := by
  rw [bind_ok]
  constructor
  · rintro ⟨a, s', h₁, h⟩
    obtain ⟨_, ha, h₁⟩ := need_ok.1 h₁
    cases h₁
    exact ⟨a, ha, h⟩
  · rintro ⟨a, ha, h⟩
    exact ⟨a, s, need_ok.2 ⟨a, ha, rfl⟩, h⟩

theorem zoom_ok {get : σ → τ} {put : τ → σ → σ} {m : Exec τ α} {s : σ} {a : α} {s' : σ} :
    zoom get put m s = .ok (a, s') ↔ ∃ t, m (get s) = .ok (a, t) ∧ s' = put t s := by
  unfold zoom
  cases hm : m (get s) with
  | error e => simp
  | ok p =>
    obtain ⟨b, t⟩ := p
    simp only [Except.ok.injEq, Prod.mk.injEq]
    constructor
    · rintro ⟨rfl, rfl⟩; exact ⟨t, ⟨rfl, rfl⟩, rfl⟩
    · rintro ⟨_, ⟨rfl, rfl⟩, rfl⟩; exact ⟨rfl, rfl⟩

/-- A sequence that completes either stopped at the status of `m` or ran both. -/
theorem thenOk_ok {m k : Exec σ Int} {s : σ} {st : Int} {s' : σ} :
    (m.thenOk k) s = .ok (st, s') ↔
      (m s = .ok (st, s') ∧ st ≠ 0) ∨ ∃ s₁, m s = .ok (0, s₁) ∧ k s₁ = .ok (st, s') := by
  unfold thenOk
  rw [bind_ok]
  constructor
  · rintro ⟨a, s₁, hm, hk⟩
    by_cases ha : a = 0
    · subst ha; exact .inr ⟨s₁, hm, by simpa using hk⟩
    · simp only [ha, if_false, pure_apply, Except.ok.injEq, Prod.mk.injEq] at hk
      obtain ⟨rfl, rfl⟩ := hk
      exact .inl ⟨hm, ha⟩
  · rintro (⟨hm, ha⟩ | ⟨s₁, hm, hk⟩)
    · exact ⟨st, s', hm, by simp [ha]⟩
    · exact ⟨0, s₁, hm, by simpa using hk⟩

theorem thenOk_zero {m k : Exec σ Int} {s s' : σ} :
    (m.thenOk k) s = .ok (0, s') ↔ ∃ s₁, m s = .ok (0, s₁) ∧ k s₁ = .ok (0, s') := by
  rw [thenOk_ok]; simp

theorem thenOk_of_ok {m k : Exec σ Int} {s s₁ : σ} (h : m s = .ok (0, s₁)) :
    (m.thenOk k) s = k s₁ := bind_of_ok h

theorem thenOk_assoc (m k l : Exec σ Int) :
    (m.thenOk k).thenOk l = m.thenOk (k.thenOk l) := by
  simp only [thenOk, bind_assoc]
  refine bind_congr fun status => ?_
  by_cases h0 : status = 0 <;> simp [h0]

theorem zero_thenOk (k : Exec σ Int) (s : σ) : ((pure 0 : Exec σ Int).thenOk k) s = k s := rfl

/-- Every element of a loop that succeeds has had its turn. -/
theorem forEach_zero_mem {l : List α} {f : α → Exec σ Int} {a : α} {s s' : σ} (ha : a ∈ l)
    (h : forEach l f s = .ok (0, s')) :
    ∃ s₁ s₂ rest, f a s₁ = .ok (0, s₂) ∧ forEach rest f s₂ = .ok (0, s') := by
  induction l generalizing s with
  | nil => cases ha
  | cons b l ih =>
    obtain ⟨s₁, hb, hrest⟩ := thenOk_zero.1 h
    rcases List.mem_cons.mp ha with rfl | ha
    · exact ⟨s, s₁, l, hb, hrest⟩
    · exact ih ha hrest

/-- The loop rule. `P` holds of the elements to come and the state before every turn, and `Q` of the
state that a turn leaves when it fails. -/
theorem forEach_ok {P : List α → σ → Prop} {Q : σ → Prop} {f : α → Exec σ Int}
    (turn : ∀ a l s st s', P (a :: l) s → f a s = .ok (st, s') →
      (st = 0 → P l s') ∧ (st ≠ 0 → Q s'))
    {l : List α} {s s' : σ} {st : Int} (h : forEach l f s = .ok (st, s')) (hP : P l s) :
    (st = 0 → P [] s') ∧ (st ≠ 0 → Q s') := by
  induction l generalizing s with
  | nil =>
    cases h
    exact ⟨fun _ => hP, fun h0 => absurd rfl h0⟩
  | cons a l ih =>
    rcases thenOk_ok.1 h with ⟨hm, h0⟩ | ⟨s₁, hm, hrest⟩
    · exact ⟨fun h => absurd h h0, (turn a l s st s' hP hm).2⟩
    · exact ih hrest ((turn a l s 0 s₁ hP hm).1 rfl)

/-! ## Properties of statuses in sequence -/

/-- A property of programs with a status that a sequence has when its parts have it. -/
structure Composes (C : Exec σ Int → Prop) : Prop where
  zero : C (pure 0)
  thenOk : ∀ {m k : Exec σ Int}, C m → C k → C (m.thenOk k)

theorem Composes.ite {C : Exec σ Int → Prop} (hC : Composes C) {c : Prop} [Decidable c]
    {m : Exec σ Int} (hm : C m) : C (if c then m else pure 0) :=
  iteInduction (fun _ => hm) fun _ => hC.zero

theorem Composes.forEach {C : Exec σ Int → Prop} (hC : Composes C) {l : List α}
    {f : α → Exec σ Int} (h : ∀ a ∈ l, C (f a)) : C (forEach l f) := by
  induction l with
  | nil => exact hC.zero
  | cons a l ih =>
    exact hC.thenOk (h a (List.mem_cons_self ..)) (ih fun b hb => h b (List.mem_cons_of_mem _ hb))

/-! ## Relating the final state to the initial one -/

/-- Every execution that completes relates its final state to its initial state by `R`. -/
def Rel (R : σ → σ → Prop) (m : Exec σ α) : Prop :=
  ∀ s a s', m s = .ok (a, s') → R s s'

/-- An execution that completes leaves `f` of the state as it was. -/
abbrev Frame (f : σ → τ) (m : Exec σ α) : Prop := Rel (fun s s' => f s' = f s) m

/-- An execution that completes preserves `I`. -/
abbrev Keeps (I : σ → Prop) (m : Exec σ α) : Prop := Rel (fun s s' => I s → I s') m

instance (f : σ → τ) : IsPreorder σ (fun s s' => f s' = f s) where
  refl _ := rfl
  trans _ _ _ h h' := h'.trans h

instance (I : σ → Prop) : IsPreorder σ (fun s s' => I s → I s') where
  refl _ := id
  trans _ _ _ h h' := h' ∘ h

theorem Rel.mono {R R' : σ → σ → Prop} {m : Exec σ α} (h : ∀ s s', R s s' → R' s s')
    (H : Rel R m) : Rel R' m := fun s a s' hm => h s s' (H s a s' hm)

/-- What leaves `f` as it was leaves every function of `f` as it was. -/
theorem Frame.comp {f : σ → τ} {m : Exec σ α} (H : Frame f m) (g : τ → γ) :
    Frame (fun s => g (f s)) m := fun s a s' hm => congrArg g (H s a s' hm)

/-- What leaves `f` as it was preserves every property of `f`. -/
theorem Frame.keeps {f : σ → τ} {m : Exec σ α} (H : Frame f m) (I : τ → Prop) :
    Keeps (fun s => I (f s)) m := fun s a s' hm h => by
  show I (f s')
  rw [H s a s' hm]; exact h

theorem Rel.halt {R : σ → σ → Prop} (e : Halt) : Rel R (halt e : Exec σ α) :=
  fun _ _ _ h => by cases h

theorem Rel.modify {R : σ → σ → Prop} {f : σ → σ} (h : ∀ s, R s (f s)) : Rel R (modify f) :=
  fun s _ _ hm => by cases hm; exact h s

theorem Rel.ite {R : σ → σ → Prop} {c : Prop} [Decidable c] {m k : Exec σ α} (hm : Rel R m)
    (hk : Rel R k) : Rel R (if c then m else k) := by
  split <;> assumption

section
variable {R : σ → σ → Prop} [IsPreorder σ R]

theorem Rel.pure (a : α) : Rel R (pure a : Exec σ α) :=
  fun s _ _ h => by cases h; exact refl_of R s

theorem Rel.gets (f : σ → α) : Rel R (gets f) :=
  fun s _ _ h => by cases h; exact refl_of R s

theorem Rel.require (e : Halt) (b : Bool) : Rel R (require e b : Exec σ Unit) :=
  fun s _ _ h => by obtain ⟨-, h⟩ := require_ok.1 h; cases h; exact refl_of R s

theorem Rel.need (e : Halt) (o : Option α) : Rel R (need e o : Exec σ α) :=
  fun s _ _ h => by obtain ⟨_, -, h⟩ := need_ok.1 h; cases h; exact refl_of R s

theorem Rel.bind {m : Exec σ α} {k : α → Exec σ β} (hm : Rel R m) (hk : ∀ a, Rel R (k a)) :
    Rel R (m >>= k) := fun s b s' h => by
  obtain ⟨a, s₁, h₁, h₂⟩ := bind_ok.1 h
  exact trans_of R (hm s a s₁ h₁) (hk a s₁ b s' h₂)

theorem Rel.thenOk {m k : Exec σ Int} (hm : Rel R m) (hk : Rel R k) : Rel R (m.thenOk k) :=
  Rel.bind hm fun _ => Rel.ite hk (Rel.pure _)

theorem Rel.composes : Composes fun m : Exec σ Int => Rel R m := ⟨Rel.pure 0, Rel.thenOk⟩

theorem Rel.forEach_mem {l : List α} {f : α → Exec σ Int} (h : ∀ a ∈ l, Rel R (f a)) :
    Rel R (forEach l f) := Composes.forEach Rel.composes h

theorem Rel.forEach {l : List α} {f : α → Exec σ Int} (h : ∀ a, Rel R (f a)) :
    Rel R (forEach l f) := Rel.forEach_mem fun a _ => h a

theorem Rel.forAll {l : List α} {f : α → Exec σ Unit} (h : ∀ a, Rel R (f a)) :
    Rel R (forAll l f) := by
  induction l with
  | nil => exact Rel.pure _
  | cons a l ih => exact (h a).bind fun _ => ih

/-- In a loop that succeeds every element has had its turn. -/
theorem Rel.forEach_turn {l : List α} {f : α → Exec σ Int} (hf : ∀ a, Rel R (f a)) {s s' : σ}
    (h : Exec.forEach l f s = .ok (0, s')) {a : α} (ha : a ∈ l) :
    ∃ s₁ s₂, R s s₁ ∧ f a s₁ = .ok (0, s₂) ∧ R s₂ s' := by
  induction l generalizing s with
  | nil => cases ha
  | cons b l ih =>
    obtain ⟨s₁, hb, hrest⟩ := thenOk_zero.1 h
    rcases List.mem_cons.mp ha with rfl | ha
    · exact ⟨s, s₁, refl_of R s, hb, Rel.forEach hf _ _ _ hrest⟩
    · obtain ⟨s₂, s₃, h₂, hturn, h₃⟩ := ih hrest ha
      exact ⟨s₂, s₃, trans_of R (hf b _ _ _ hb) h₂, hturn, h₃⟩

end

theorem Rel.zoom {R : σ → σ → Prop} {get : σ → τ} {put : τ → σ → σ} {m : Exec τ α}
    (h : ∀ s a t, m (get s) = .ok (a, t) → R s (put t s)) : Rel R (zoom get put m) :=
  fun s a s' hm => by
    obtain ⟨t, ht, rfl⟩ := zoom_ok.1 hm
    exact h s a t ht

/-! ## Programs that succeed -/

/-- From a state satisfying `P`, every execution of `m` that completes succeeds and ends in a state
satisfying `P`. -/
def Succeeds (P : σ → Prop) (m : Exec σ Int) : Prop :=
  ∀ s st s', P s → m s = .ok (st, s') → st = 0 ∧ P s'

section
variable {P : σ → Prop} {m k : Exec σ Int}

theorem Succeeds.pure : Succeeds P (pure 0) := fun _ _ _ hP h => by cases h; exact ⟨rfl, hP⟩

theorem Succeeds.halt {e : Halt} : Succeeds P (halt e) := fun _ _ _ _ h => by cases h

theorem Succeeds.ite {c : Prop} [Decidable c] (hm : Succeeds P m) (hk : Succeeds P k) :
    Succeeds P (if c then m else k) := by
  split <;> assumption

theorem Succeeds.bind {m : Exec σ α} {k : α → Exec σ Int} (hm : Keeps P m)
    (hk : ∀ a, Succeeds P (k a)) : Succeeds P (m >>= k) := fun s st s' hP h => by
  obtain ⟨a, s₁, h₁, h₂⟩ := bind_ok.1 h
  exact hk a s₁ st s' (hm s a s₁ h₁ hP) h₂

theorem Succeeds.thenOk (hm : Succeeds P m) (hk : Succeeds P k) : Succeeds P (m.thenOk k) := by
  intro s st s' hP h
  rcases thenOk_ok.1 h with ⟨h₁, h0⟩ | ⟨s₁, h₁, h₂⟩
  · exact absurd (hm s st s' hP h₁).1 h0
  · exact hk s₁ st s' (hm s 0 s₁ hP h₁).2 h₂

theorem Succeeds.composes : Composes (Succeeds P) := ⟨Succeeds.pure, Succeeds.thenOk⟩

theorem Succeeds.forEach {l : List α} {f : α → Exec σ Int} (h : ∀ a, Succeeds P (f a)) :
    Succeeds P (forEach l f) := Composes.forEach Succeeds.composes fun a _ => h a

end

/-! ## The effect of a successful program on a part of the state -/

/-- When `m` succeeds it acts on `view` as the function `f`. -/
def Does (view : σ → τ) (m : Exec σ Int) (f : τ → τ) : Prop :=
  ∀ s s', m s = .ok (0, s') → view s' = f (view s)

section
variable {view : σ → τ} {m k : Exec σ Int} {f g : τ → τ}

theorem Does.pure {st : Int} : Does view (pure st) id := fun _ _ h => by cases h; rfl

theorem Does.thenOk (hm : Does view m f) (hk : Does view k g) :
    Does view (m.thenOk k) (g ∘ f) := fun s s' h => by
  obtain ⟨s₁, h₁, h₂⟩ := thenOk_zero.1 h
  rw [hk s₁ s' h₂, hm s s₁ h₁]; rfl

end

/-! ## Programs that do not stop for some reasons -/

/-- From `s`, `m` does not stop for a reason in `E`. -/
def Avoids (E : Halt → Prop) (m : Exec σ α) (s : σ) : Prop := ∀ e, m s = .error e → ¬E e

namespace Avoids

variable {E : Halt → Prop} {m : Exec σ α} {s : σ}

theorem pure (a : α) : Avoids E (pure a : Exec σ α) s := fun _ h => by cases h

theorem gets (f : σ → α) : Avoids E (gets f) s := fun _ h => by cases h

theorem modify (f : σ → σ) : Avoids E (modify f) s := fun _ h => by cases h

theorem require {e : Halt} {b : Bool} (h : b = true ∨ ¬E e) :
    Avoids E (require e b : Exec σ Unit) s := fun e' he => by
  unfold Exec.require at he
  split at he
  · cases he
  next hb =>
    cases he
    exact h.resolve_left hb

theorem need {e : Halt} {o : Option α} (h : o.isSome = true ∨ ¬E e) :
    Avoids E (need e o : Exec σ α) s := fun e' he => by
  cases o with
  | some a => cases he
  | none =>
    cases he
    exact h.resolve_left Bool.false_ne_true

/-- What follows runs from the states that `m` can leave. -/
theorem bind {k : α → Exec σ β} (hm : Avoids E m s)
    (hk : ∀ a s', m s = .ok (a, s') → Avoids E (k a) s') : Avoids E (m >>= k) s := fun e h => by
  cases hms : m s with
  | error e' =>
    rw [bind_of_error hms] at h
    cases h
    exact hm e hms
  | ok p =>
    rw [bind_of_ok hms] at h
    exact hk p.1 p.2 hms e h

theorem gets_bind {f : σ → α} {k : α → Exec σ β} (h : Avoids E (k (f s)) s) :
    Avoids E (Exec.gets f >>= k) s := h

theorem require_bind {e : Halt} {b : Bool} {k : Unit → Exec σ β} (hb : b = true)
    (h : Avoids E (k ()) s) : Avoids E (Exec.require e b >>= k) s := by
  subst hb
  exact h

theorem need_bind {e : Halt} {o : Option α} {k : α → Exec σ β} {a : α} (ho : o = some a)
    (h : Avoids E (k a) s) : Avoids E (Exec.need e o >>= k) s := by
  subst ho
  exact h

theorem ite {c : Prop} [Decidable c] {k : Exec σ α} (hm : c → Avoids E m s)
    (hk : ¬c → Avoids E k s) : Avoids E (if c then m else k) s := by
  split
  next h => exact hm h
  next h => exact hk h

theorem thenOk {m k : Exec σ Int} (hm : Avoids E m s)
    (hk : ∀ s', m s = .ok (0, s') → Avoids E k s') : Avoids E (m.thenOk k) s :=
  hm.bind fun _ s' h => ite (fun h0 => hk s' (h0 ▸ h)) fun _ => pure _

/-- Every turn starts in a state that the turns before it can leave. -/
theorem forEach {R : σ → σ → Prop} [IsPreorder σ R] {l : List α} {f : α → Exec σ Int}
    (hf : ∀ a, Rel R (f a)) (turn : ∀ a ∈ l, ∀ s', R s s' → Avoids E (f a) s') :
    Avoids E (forEach l f) s := by
  induction l generalizing s with
  | nil => exact pure _
  | cons a l ih =>
    refine (turn a (List.mem_cons_self ..) s (refl_of R s)).thenOk fun s₁ h => ih ?_
    intro b hb s' hs'
    exact turn b (List.mem_cons_of_mem _ hb) s' (trans_of R (hf a _ _ _ h) hs')

theorem zoom {get : σ → τ} {put : τ → σ → σ} {m : Exec τ α} (hm : Avoids E m (get s)) :
    Avoids E (zoom get put m) s := fun e h => by
  unfold Exec.zoom at h
  cases hms : m (get s) with
  | error e' =>
    rw [hms] at h
    cases h
    exact hm e hms
  | ok p => rw [hms] at h; cases h

end Avoids

/-! ## Programs that never stop for some reasons -/

/-- `m` never stops for a reason in `E`. -/
def Never (E : Halt → Prop) (m : Exec σ α) : Prop := ∀ s, Avoids E m s

namespace Never

variable {E : Halt → Prop} {m k : Exec σ α}

theorem pure (a : α) : Never E (pure a : Exec σ α) := fun _ => Avoids.pure a

theorem halt {e : Halt} (h : ¬E e) : Never E (halt e : Exec σ α) := fun _ _ he => by
  cases he
  exact h

theorem gets (f : σ → α) : Never E (gets f) := fun _ => Avoids.gets f

theorem modify (f : σ → σ) : Never E (modify f) := fun _ => Avoids.modify f

theorem require {e : Halt} {b : Bool} (h : ¬E e) : Never E (require e b : Exec σ Unit) :=
  fun _ => Avoids.require (.inr h)

theorem need {e : Halt} {o : Option α} (h : ¬E e) : Never E (need e o : Exec σ α) :=
  fun _ => Avoids.need (.inr h)

theorem bind {m : Exec σ α} {k : α → Exec σ β} (hm : Never E m) (hk : ∀ a, Never E (k a)) :
    Never E (m >>= k) := fun s => (hm s).bind fun a s' _ => hk a s'

theorem ite {c : Prop} [Decidable c] (hm : Never E m) (hk : Never E k) :
    Never E (if c then m else k) := fun s => Avoids.ite (fun _ => hm s) fun _ => hk s

theorem thenOk {m k : Exec σ Int} (hm : Never E m) (hk : Never E k) : Never E (m.thenOk k) :=
  bind hm fun _ => ite hk (pure _)

theorem composes : Composes fun m : Exec σ Int => Never E m := ⟨pure 0, thenOk⟩

theorem forEach {l : List α} {f : α → Exec σ Int} (h : ∀ a, Never E (f a)) :
    Never E (forEach l f) := Composes.forEach composes fun a _ => h a

theorem forAll {l : List α} {f : α → Exec σ Unit} (h : ∀ a, Never E (f a)) :
    Never E (forAll l f) := by
  induction l with
  | nil => exact pure _
  | cons a l ih => exact bind (h a) fun _ => ih

theorem zoom {get : σ → τ} {put : τ → σ → σ} {m : Exec τ α} (hm : Never E m) :
    Never E (zoom get put m) := fun s => Avoids.zoom (hm (get s))

/-- What never stops at all completes from every state. -/
theorem completes (H : Never (fun _ => True) m) (s : σ) : ∃ a s', m s = .ok (a, s') := by
  cases hm : m s with
  | error e => exact absurd trivial (H s e hm)
  | ok p => exact ⟨p.1, p.2, rfl⟩

end Never

/-! ## Programs that complete -/

/-- From `s`, `m` completes, with a result and a final state that satisfy `Q`. -/
def Ends (m : Exec σ α) (s : σ) (Q : α → σ → Prop) : Prop := ∃ a s', m s = .ok (a, s') ∧ Q a s'

namespace Ends

variable {m : Exec σ α} {s : σ} {Q : α → σ → Prop}

theorem of_ok {a : α} {s' : σ} (H : Ends m s Q) (h : m s = .ok (a, s')) : Q a s' := by
  obtain ⟨b, s₁, hm, hQ⟩ := H
  cases hm.symm.trans h
  exact hQ

theorem avoids {E : Halt → Prop} (H : Ends m s Q) : Avoids E m s := by
  intro e he
  obtain ⟨_, _, hm, -⟩ := H
  cases hm.symm.trans he

theorem mono {Q' : α → σ → Prop} (H : Ends m s Q) (h : ∀ a s', Q a s' → Q' a s') :
    Ends m s Q' := by
  obtain ⟨a, s', hm, hQ⟩ := H
  exact ⟨a, s', hm, h a s' hQ⟩

theorem pure {a : α} (h : Q a s) : Ends (pure a : Exec σ α) s Q := ⟨a, s, rfl, h⟩

theorem gets_bind {f : σ → α} {k : α → Exec σ β} {R : β → σ → Prop} (h : Ends (k (f s)) s R) :
    Ends (gets f >>= k) s R := h

theorem require_bind {e : Halt} {b : Bool} {k : Unit → Exec σ β} {R : β → σ → Prop}
    (hb : b = true) (h : Ends (k ()) s R) : Ends (Exec.require e b >>= k) s R := by
  subst hb
  exact h

theorem modify {f : σ → σ} {Q : Unit → σ → Prop} (h : Q () (f s)) : Ends (modify f) s Q :=
  ⟨(), f s, rfl, h⟩

theorem require {e : Halt} {b : Bool} {Q : Unit → σ → Prop} (hb : b = true) (h : Q () s) :
    Ends (require e b : Exec σ Unit) s Q :=
  ⟨(), s, require_ok.2 ⟨hb, rfl⟩, h⟩

theorem need {e : Halt} {o : Option α} {a : α} (ho : o = some a) (h : Q a s) :
    Ends (need e o : Exec σ α) s Q :=
  ⟨a, s, need_ok.2 ⟨a, ho, rfl⟩, h⟩

theorem bind {k : α → Exec σ β} {R : β → σ → Prop} (hm : Ends m s Q)
    (hk : ∀ a s', Q a s' → Ends (k a) s' R) : Ends (m >>= k) s R := by
  obtain ⟨a, s₁, h₁, hQ⟩ := hm
  obtain ⟨b, s', h₂, hR⟩ := hk a s₁ hQ
  exact ⟨b, s', bind_ok.2 ⟨a, s₁, h₁, h₂⟩, hR⟩

theorem zoom {get : σ → τ} {put : τ → σ → σ} {m : Exec τ α}
    (h : Ends m (get s) fun a t => Q a (put t s)) : Ends (zoom get put m) s Q := by
  obtain ⟨a, t, hm, hQ⟩ := h
  exact ⟨a, put t s, zoom_ok.2 ⟨t, hm, rfl⟩, hQ⟩

/-- `k` runs when `m` succeeds, as it does. -/
theorem thenOk {m k : Exec σ Int} {P : σ → Prop} {Q : Int → σ → Prop}
    (hm : Ends m s fun st s' => st = 0 ∧ P s') (hk : ∀ s', P s' → Ends k s' Q) :
    Ends (m.thenOk k) s Q := by
  obtain ⟨_, s₁, h₁, rfl, hP⟩ := hm
  obtain ⟨st, s', h₂, hQ⟩ := hk s₁ hP
  exact ⟨st, s', thenOk_ok.2 (.inr ⟨s₁, h₁, h₂⟩), hQ⟩

/-- `I` holds of the elements to come and the state before every turn. -/
theorem forAll {f : α → Exec σ Unit} {I : List α → σ → Prop}
    (turn : ∀ a l s, I (a :: l) s → Ends (f a) s fun _ s' => I l s') {l : List α} {s : σ}
    (h : I l s) : Ends (forAll l f) s fun _ s' => I [] s' := by
  induction l generalizing s with
  | nil => exact Ends.pure h
  | cons a l ih => exact (turn a l s h).bind fun _ _ h => ih h

theorem forEach {f : α → Exec σ Int} {I : List α → σ → Prop}
    (turn : ∀ a l s, I (a :: l) s → Ends (f a) s fun st s' => st = 0 ∧ I l s') {l : List α} {s : σ}
    (h : I l s) : Ends (forEach l f) s fun st s' => st = 0 ∧ I [] s' := by
  induction l generalizing s with
  | nil => exact Ends.pure ⟨rfl, h⟩
  | cons a l ih => exact thenOk (turn a l s h) fun _ hI => ih hI

end Ends

end Exec
