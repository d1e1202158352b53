import SwitchdSai.Lib.Exec

/-!
# Programs with a log

`Logged ε σ α` is a program with the events, of a type `ε`, of its run from every state. Forgetting
the log gives the program, so that a program is logged by writing it down once more with its events
marked. `Logs R` says that every run that completes relates the state before, the log and the state
after by `R`. It is proved from one rule for each way of building a program, when `R` holds of
nothing happening and passes to sequences.
-/

namespace Exec

structure Logged (ε σ α : Type) where
  prog : Exec σ α
  /-- The events of the run from a state, the first one first. -/
  log : σ → List ε

namespace Logged

variable {ε σ τ α β : Type}

/-- The log of what follows `m`. -/
def after (m : Exec σ α) (f : α → σ → List ε) (s : σ) : List ε :=
  match m s with
  | .ok (a, s') => f a s'
  | .error _ => []

theorem after_ok {m : Exec σ α} {f : α → σ → List ε} {s s' : σ} {a : α}
    (h : m s = .ok (a, s')) : after m f s = f a s' := by
  unfold after
  rw [h]

/-- A program without events. -/
def quiet (m : Exec σ α) : Logged ε σ α := ⟨m, fun _ => []⟩

/-- A program that is one event, whether it completes or not. -/
def mark (e : ε) (m : Exec σ α) : Logged ε σ α := ⟨m, fun _ => [e]⟩

/-- A program that is one event, which its result is part of. -/
def event (ev : α → ε) (m : Exec σ α) : Logged ε σ α := ⟨m, after m fun a _ => [ev a]⟩

def bind (t : Logged ε σ α) (k : α → Logged ε σ β) : Logged ε σ β where
  prog := t.prog >>= fun a => (k a).prog
  log s := t.log s ++ after t.prog (fun a => (k a).log) s

/-- Run a program over a part of the state. -/
def zoom (get : σ → τ) (put : τ → σ → σ) (t : Logged ε τ α) : Logged ε σ α where
  prog := Exec.zoom get put t.prog
  log s := t.log (get s)

instance : Monad (Logged ε σ) where
  pure a := quiet (pure a)
  bind := bind

instance : MonadLift (Exec σ) (Logged ε σ) := ⟨quiet⟩

def thenOk (t u : Logged ε σ Int) : Logged ε σ Int := do
  let status ← t
  if status = 0 then u else pure status

def forEach : List α → (α → Logged ε σ Int) → Logged ε σ Int
  | [], _ => pure 0
  | a :: as, f => (f a).thenOk (forEach as f)

/-! ## Forgetting the log -/

@[simp] theorem prog_pure (a : α) : (pure a : Logged ε σ α).prog = pure a := rfl

@[simp] theorem prog_quiet (m : Exec σ α) : (quiet m : Logged ε σ α).prog = m := rfl

@[simp] theorem prog_mark (e : ε) (m : Exec σ α) : (mark e m).prog = m := rfl

@[simp] theorem prog_lift (m : Exec σ α) : (liftM m : Logged ε σ α).prog = m := rfl

@[simp] theorem prog_event (ev : α → ε) (m : Exec σ α) : (event ev m : Logged ε σ α).prog = m := rfl

@[simp] theorem prog_bind (t : Logged ε σ α) (k : α → Logged ε σ β) :
    (t >>= k).prog = t.prog >>= fun a => (k a).prog := rfl

@[simp] theorem prog_zoom (get : σ → τ) (put : τ → σ → σ) (t : Logged ε τ α) :
    (zoom get put t).prog = Exec.zoom get put t.prog := rfl

@[simp] theorem prog_ite (c : Prop) [Decidable c] (t u : Logged ε σ α) :
    (if c then t else u).prog = if c then t.prog else u.prog := by
  split <;> rfl

@[simp] theorem prog_thenOk (t u : Logged ε σ Int) :
    (t.thenOk u).prog = t.prog.thenOk u.prog := by
  simp [thenOk, Exec.thenOk]

@[simp] theorem prog_forEach (l : List α) (f : α → Logged ε σ Int) :
    (forEach l f).prog = Exec.forEach l fun a => (f a).prog := by
  induction l with
  | nil => rfl
  | cons a l ih => simp [forEach, Exec.forEach, ih]

/-! ## The log of a sequence -/

section
variable {t u : Logged ε σ Int} {s s' : σ} {st : Int}

theorem log_event {ev : α → ε} {m : Exec σ α} {a : α} (h : m s = .ok (a, s')) :
    (event ev m).log s = [ev a] := after_ok h

theorem log_bind {t : Logged ε σ α} {k : α → Logged ε σ β} {a : α}
    (h : t.prog s = .ok (a, s')) : (t >>= k).log s = t.log s ++ (k a).log s' :=
  congrArg _ (after_ok h)

theorem log_lift_bind {m : Exec σ α} {k : α → Logged ε σ β} {a : α} (h : m s = .ok (a, s')) :
    (liftM m >>= k).log s = (k a).log s' := log_bind (t := quiet m) h

/-- A result that is computed from `t` adds nothing, whether `t` completes or not. -/
theorem log_bind_pure {t : Logged ε σ α} {f : α → β} :
    (t >>= fun a => pure (f a)).log s = t.log s := by
  show t.log s ++ after t.prog (fun _ _ => []) s = t.log s
  unfold after
  split <;> exact List.append_nil _

theorem log_lift_pure {m : Exec σ α} {b : β} :
    (liftM m >>= fun _ => pure b : Logged ε σ β).log s = [] := log_bind_pure

theorem log_thenOk (h : t.prog s = .ok (0, s')) : (t.thenOk u).log s = t.log s ++ u.log s' :=
  log_bind h

theorem log_thenOk_failed (h : t.prog s = .ok (st, s')) (h0 : st ≠ 0) :
    (t.thenOk u).log s = t.log s := by
  rw [thenOk, log_bind h, if_neg h0]
  exact List.append_nil _

/-- What follows without events adds none. -/
theorem log_thenOk_quiet (h : ∀ s, u.log s = []) : (t.thenOk u).log s = t.log s := by
  show t.log s ++ after t.prog (fun st => (if st = 0 then u else Pure.pure st).log) s = t.log s
  unfold after
  split
  next st s₁ _ =>
    dsimp only
    split
    · rw [h s₁, List.append_nil]
    · exact List.append_nil _
  next => exact List.append_nil _

theorem log_require_bind {e : Halt} {b : Bool} {k : Unit → Logged ε σ β} :
    (quiet (require e b) >>= k).log s = if b then (k ()).log s else [] := by
  cases b <;> rfl

/-- A loop that succeeds has one event for each element when a turn that succeeds is one event. -/
theorem log_forEach {l : List α} {f : α → Logged ε σ Int} {ev : α → ε}
    (hf : ∀ a s s', (f a).prog s = .ok (0, s') → (f a).log s = [ev a])
    (h : (forEach l f).prog s = .ok (0, s')) : (forEach l f).log s = l.map ev := by
  induction l generalizing s with
  | nil => rfl
  | cons a l ih =>
    rw [prog_forEach] at h
    obtain ⟨s₁, ha, hrest⟩ := thenOk_zero.mp h
    rw [forEach, log_thenOk ha, hf a s s₁ ha, ih (by rw [prog_forEach]; exact hrest)]
    rfl

end

/-! ## The events of all runs -/

/-- An event of a sequence, whether it completes or not. -/
theorem mem_log_bind {t : Logged ε σ α} {k : α → Logged ε σ β} {s : σ} {e : ε} :
    e ∈ (t >>= k).log s ↔
      e ∈ t.log s ∨ ∃ a s', t.prog s = .ok (a, s') ∧ e ∈ (k a).log s' := by
  show e ∈ t.log s ++ after t.prog (fun a => (k a).log) s ↔ _
  rw [List.mem_append]
  refine or_congr_right ?_
  cases h : t.prog s with
  | error halt =>
    unfold after
    rw [h]
    simp
  | ok p =>
    rw [after_ok h]
    constructor
    · exact fun he => ⟨p.1, p.2, rfl, he⟩
    · rintro ⟨a, s', hp, he⟩
      cases hp
      exact he

/-- Every event of every run of `t`, whether it completes or not, satisfies `P`. -/
def Only (P : ε → Prop) (t : Logged ε σ α) : Prop := ∀ s, ∀ e ∈ t.log s, P e

namespace Only

variable {P : ε → Prop} {t u : Logged ε σ α}

theorem quiet (m : Exec σ α) : Only P (Logged.quiet m) := fun _ _ h => absurd h List.not_mem_nil

theorem pure (a : α) : Only P (pure a : Logged ε σ α) := quiet _

theorem mark {e : ε} {m : Exec σ α} (h : P e) : Only P (mark e m) := fun _ _ he =>
  List.mem_singleton.mp he ▸ h

theorem ite {c : Prop} [Decidable c] (ht : Only P t) (hu : Only P u) :
    Only P (if c then t else u) := by
  split <;> assumption

theorem bind {k : α → Logged ε σ β} (ht : Only P t) (hk : ∀ a, Only P (k a)) :
    Only P (t >>= k) := fun s e he => by
  rcases mem_log_bind.1 he with he | ⟨a, s', -, he⟩
  · exact ht s e he
  · exact hk a s' e he

end Only

/-! ## What a run and its log have in common -/

/-- Every run of `t` that completes relates its two states and its log by `R`. -/
def Logs (R : σ → List ε → σ → Prop) (t : Logged ε σ α) : Prop :=
  ∀ s a s', t.prog s = .ok (a, s') → R s (t.log s) s'

/-- `R` holds when nothing happens, and of two runs one after the other. -/
class IsLogRel (R : σ → List ε → σ → Prop) : Prop where
  nil : ∀ s, R s [] s
  append : ∀ {s s₁ s' l l'}, R s l s₁ → R s₁ l' s' → R s (l ++ l') s'

namespace Logs

variable {R : σ → List ε → σ → Prop} {t u : Logged ε σ Int}

theorem mono {R' : σ → List ε → σ → Prop} {t : Logged ε σ α} (h : ∀ s l s', R s l s' → R' s l s')
    (H : Logs R t) : Logs R' t := fun s a s' hm => h s _ s' (H s a s' hm)

theorem quiet {m : Exec σ α} (h : Rel (fun s s' => R s [] s') m) : Logs R (quiet m) := h

theorem event {ev : α → ε} {m : Exec σ α}
    (h : ∀ s a s', m s = .ok (a, s') → R s [ev a] s') : Logs R (event ev m) := by
  intro s a s' hm
  have hm : m s = .ok (a, s') := hm
  rw [log_event hm]
  exact h s a s' hm

theorem ite {c : Prop} [Decidable c] {t u : Logged ε σ α} (ht : Logs R t) (hu : Logs R u) :
    Logs R (if c then t else u) := by
  split <;> assumption

variable [IsLogRel R]

theorem pure (a : α) : Logs R (pure a : Logged ε σ α) := fun s _ s' h => by
  cases h
  exact IsLogRel.nil s

theorem bind {t : Logged ε σ α} {k : α → Logged ε σ β} (ht : Logs R t) (hk : ∀ a, Logs R (k a)) :
    Logs R (t >>= k) := by
  intro s b s' h
  obtain ⟨a, s₁, h₁, h₂⟩ := bind_ok.mp h
  rw [log_bind h₁]
  exact IsLogRel.append (ht s a s₁ h₁) (hk a s₁ b s' h₂)

/-- A first part without events, by what is known of its result. -/
theorem lift_bind {m : Exec σ α} {k : α → Logged ε σ β}
    (h : ∀ s a s', m s = .ok (a, s') → R s [] s' ∧ Logs R (k a)) : Logs R (liftM m >>= k) := by
  intro s b s' hm
  obtain ⟨a, s₁, h₁, h₂⟩ := bind_ok.mp hm
  obtain ⟨hR, hk⟩ := h s a s₁ h₁
  rw [log_bind (t := liftM m) h₁]
  exact IsLogRel.append hR (hk s₁ b s' h₂)

theorem thenOk (ht : Logs R t) (hu : Logs R u) : Logs R (t.thenOk u) :=
  bind ht fun _ => ite hu (pure _)

/-- A part that is run on a condition. -/
theorem flagged {c : Bool} (ht : c = true → Logs R t) :
    Logs R (if c then t else Pure.pure 0) := by
  cases c with
  | true => exact ht rfl
  | false => exact pure _

/-- One run of a sequence, by what is known where its parts start. -/
theorem thenOk_run {s s' : σ} {st : Int}
    (ht : ∀ st s₁, t.prog s = .ok (st, s₁) → R s (t.log s) s₁)
    (hu : ∀ s₁, t.prog s = .ok (0, s₁) → ∀ st s', u.prog s₁ = .ok (st, s') → R s₁ (u.log s₁) s')
    (h : (t.thenOk u).prog s = .ok (st, s')) : R s ((t.thenOk u).log s) s' := by
  rw [prog_thenOk] at h
  rcases thenOk_ok.mp h with ⟨hrun, h0⟩ | ⟨s₁, hrun, hrest⟩
  · rw [log_thenOk_failed hrun h0]
    exact ht _ _ hrun
  · rw [log_thenOk hrun]
    exact IsLogRel.append (ht _ _ hrun) (hu _ hrun _ _ hrest)

theorem forEach_mem {l : List α} {f : α → Logged ε σ Int} (h : ∀ a ∈ l, Logs R (f a)) :
    Logs R (forEach l f) := by
  induction l with
  | nil => exact pure _
  | cons a l ih =>
    exact (h a (List.mem_cons_self ..)).thenOk (ih fun b hb => h b (List.mem_cons_of_mem _ hb))

theorem forEach {l : List α} {f : α → Logged ε σ Int} (h : ∀ a, Logs R (f a)) :
    Logs R (forEach l f) := forEach_mem fun a _ => h a

end Logs

/-- `I` is kept, of the events so far and the state, and every event satisfies `P` together with
the events before it. -/
def Keeps (I : List ε → σ → Prop) (P : List ε → ε → Prop) (s : σ) (l : List ε) (s' : σ) : Prop :=
  ∀ past, I past s → I (past ++ l) s' ∧ ∀ l₁ e l₂, l = l₁ ++ e :: l₂ → P (past ++ l₁) e

section
variable {I : List ε → σ → Prop} {P : List ε → ε → Prop}

theorem Keeps.nil {s s' : σ} (h : ∀ past, I past s → I past s') : Keeps I P s [] s' :=
  fun past hI => ⟨by simpa using h past hI, fun l₁ e l₂ hl => by simp at hl⟩

theorem Keeps.event {s s' : σ} {e : ε} (h : ∀ past, I past s → I (past ++ [e]) s' ∧ P past e) :
    Keeps I P s [e] s' := by
  intro past hI
  obtain ⟨hI', hP⟩ := h past hI
  refine ⟨hI', fun l₁ e' l₂ hl => ?_⟩
  obtain ⟨rfl, rfl⟩ : l₁ = [] ∧ e' = e := by
    cases l₁ with
    | nil => exact ⟨rfl, (List.cons.inj hl).1.symm⟩
    | cons _ l₁ => simp at hl
  simpa using hP

/-- The invariant may be assumed. -/
theorem Keeps.assume {s s' : σ} {l : List ε} (h : ∀ past, I past s → Keeps I P s l s') :
    Keeps I P s l s' := fun past hI => h past hI past hI

/-- By another invariant, which holds at the start and gives this one at the end. -/
theorem Keeps.imp {J : List ε → σ → Prop} {s s' : σ} {l : List ε} (h : Keeps J P s l s')
    (hJ : ∀ past, I past s → J past s) (hI : ∀ past, J past s' → I past s') :
    Keeps I P s l s' := fun past hs =>
  ⟨hI _ (h past (hJ past hs)).1, (h past (hJ past hs)).2⟩

instance : IsLogRel (Keeps I P) where
  nil s := Keeps.nil fun _ hI => hI
  append {s s₁ s' l l'} h h' past hI := by
    obtain ⟨hI₁, hP⟩ := h past hI
    obtain ⟨hI', hP'⟩ := h' _ hI₁
    refine ⟨by rwa [List.append_assoc] at hI', fun l₁ e l₂ hl => ?_⟩
    rcases List.append_eq_append_iff.mp hl.symm with ⟨m, hm, hrest⟩ | ⟨m, hm, hrest⟩
    · cases m with
      | nil =>
        have := hP' [] e l₂ hrest.symm
        rwa [List.append_nil, hm, List.append_nil] at this
      | cons e' m =>
        obtain ⟨rfl, -⟩ := List.cons.inj hrest
        exact hP l₁ e m hm
    · rw [hm, ← List.append_assoc]
      exact hP' m e l₂ hrest

end

/-- Every event satisfies `P`. -/
abbrev Emits (P : ε → Prop) (t : Logged ε σ α) : Prop := Logs (fun _ l _ => ∀ e ∈ l, P e) t

instance (P : ε → Prop) : IsLogRel fun (_ : σ) l _ => ∀ e ∈ l, P e where
  nil _ := fun _ h => by cases h
  append h h' := List.forall_mem_append.mpr ⟨h, h'⟩

theorem Emits.lift_bind {P : ε → Prop} {m : Exec σ α} {k : α → Logged ε σ β}
    (hk : ∀ a, Emits P (k a)) : Emits P (liftM m >>= k) :=
  Logs.lift_bind fun _ a _ _ => ⟨fun _ h => (by cases h), hk a⟩

/-! ## Events that fail -/

/-- A run that fails has an event that failed. -/
def Fails (status : ε → Int) (t : Logged ε σ Int) : Prop :=
  ∀ s st s', t.prog s = .ok (st, s') → st ≠ 0 → ∃ e ∈ t.log s, status e ≠ 0

namespace Fails

variable {status : ε → Int} {t u : Logged ε σ Int}

theorem zero : Fails status (pure 0 : Logged ε σ Int) := fun s st s' h h0 => by
  cases h
  exact absurd rfl h0

theorem event {ev : Int → ε} {m : Exec σ Int} (hev : ∀ st, status (ev st) = st) :
    Fails status (event ev m) := by
  intro s st s' h h0
  have h : m s = .ok (st, s') := h
  rw [log_event h]
  exact ⟨ev st, List.mem_singleton_self _, by rwa [hev]⟩

theorem lift_bind {m : Exec σ α} {k : α → Logged ε σ Int} (hk : ∀ a, Fails status (k a)) :
    Fails status (liftM m >>= k) := by
  intro s st s' h h0
  obtain ⟨a, s₁, h₁, h₂⟩ := bind_ok.mp h
  rw [log_bind (t := liftM m) h₁]
  obtain ⟨e, he, hne⟩ := hk a s₁ st s' h₂ h0
  exact ⟨e, List.mem_append_right _ he, hne⟩

theorem thenOk (ht : Fails status t) (hu : Fails status u) : Fails status (t.thenOk u) := by
  intro s st s' h h0
  rw [prog_thenOk] at h
  rcases thenOk_ok.mp h with ⟨hrun, -⟩ | ⟨s₁, hrun, hrest⟩
  · rw [log_thenOk_failed hrun h0]
    exact ht s st s' hrun h0
  · rw [log_thenOk hrun]
    obtain ⟨e, he, hne⟩ := hu s₁ st s' hrest h0
    exact ⟨e, List.mem_append_right _ he, hne⟩

theorem forEach {l : List α} {f : α → Logged ε σ Int} (h : ∀ a, Fails status (f a)) :
    Fails status (forEach l f) := by
  induction l with
  | nil => exact zero
  | cons a l ih => exact (h a).thenOk ih

end Fails

end Logged

end Exec
