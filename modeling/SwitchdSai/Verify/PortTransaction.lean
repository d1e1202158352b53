import SwitchdSai.Model.PortTransaction
import SwitchdSai.Verify.HostIntfTurns
import SwitchdSai.Verify.RifsFound

/-!
# Host interfaces follow router interfaces

While the commands on host interfaces succeed, the host interface of a port is an L3 device exactly
when the port has a recorded router interface, in every run of the functions that create and remove
both. Which SDK calls on router interfaces fail makes no difference, and neither does how often and
in which order the callbacks have been registered.
-/

namespace SwitchdSai

open Exec Vendor

/-- A router interface on the port with label `handle` is recorded. -/
def Hw.HasRif (hw : Hw) (handle : Nat) : Prop :=
  ∃ e ∈ hw.allRouterIntf, e.type = .port ∧ e.handle = handle

/-! ## Callbacks -/

section
variable {s s' : Vendor} {handle hwId : Nat} {transaction : OpsSaiPortTransaction}

/-- The type of the host interface of a port after a transaction. -/
def OpsSaiPortTransaction.netdev : OpsSaiPortTransaction → HostIntfType
  | .toL2 => .l2PortNetdev
  | .toL3 => .l3PortNetdev

/-- The callback that gives the host interface its type. -/
def OpsSaiPortTransaction.clb : OpsSaiPortTransaction → PortTransactionClb
  | .toL2 => .portTransactionToL2
  | .toL3 => .portTransactionToL3

theorem netdev_isPort :
    transaction.netdev = .l2PortNetdev ∨ transaction.netdev = .l3PortNetdev := by
  cases transaction
  · exact .inl rfl
  · exact .inr rfl

/-- A registration that the initialization functions make. -/
def OpsSaiPortTransactionCallback.Known (iter : OpsSaiPortTransactionCallback) : Prop :=
  iter.callback = iter.type.clb ∨ iter.callback = .mlnxPortTransactionToL2 ∧ iter.type = .toL2

/-- Only known registrations have been made, and those of both host interface callbacks. -/
structure Registered (callbackList : List OpsSaiPortTransactionCallback) : Prop where
  known : ∀ iter ∈ callbackList, iter.Known
  mem : ∀ transaction : OpsSaiPortTransaction, ⟨transaction.clb, transaction⟩ ∈ callbackList

/-- The tables of the hardware and the list of callbacks are as they were. -/
structure Vendor.Idle (s s' : Vendor) : Prop where
  hw : ∃ outcomes, s'.hw = { s.hw with outcomes := outcomes }
  callbackList : s'.callbackList = s.callbackList

instance : IsPreorder Vendor Vendor.Idle where
  refl s := ⟨⟨s.hw.outcomes, rfl⟩, rfl⟩
  trans s s₁ s₂ h h' := by
    obtain ⟨outcomes, hhw⟩ := h.hw
    obtain ⟨outcomes', hhw'⟩ := h'.hw
    refine ⟨⟨outcomes', ?_⟩, h'.callbackList.trans h.callbackList⟩
    rw [hhw', hhw]

theorem onHw_ok_iff {α : Type} {m : Exec Hw α} {a : α} :
    Vendor.onHw m s = .ok (a, s') ↔ ∃ hw, m s.hw = .ok (a, hw) ∧ s' = { s with hw := hw } :=
  zoom_ok

theorem onHostIntfs_ok {α : Type} {m : Exec HostIntfs α} {a : α} :
    onHostIntfs m s = .ok (a, s') ↔
      ∃ t, m s.hostIntfs = .ok (a, t) ∧ s' = { s with hostIntfs := t } := zoom_ok

/-- What the callback of the router interfaces leaves alone. -/
abbrev Vendor.IdleHw (s s' : Vendor) : Prop := s.Idle s' ∧ s'.hostIntfs = s.hostIntfs

instance : IsPreorder Vendor Vendor.IdleHw where
  refl s := ⟨refl_of _ s, rfl⟩
  trans _ _ _ h h' := ⟨trans_of _ h.1 h'.1, h'.2.trans h.2⟩

theorem onHw_sxCall_idle : Rel Vendor.IdleHw (Vendor.onHw sxCall) := by
  intro s status s' h
  obtain ⟨hw, hhw, rfl⟩ := onHw_ok_iff.1 h
  refine ⟨⟨?_, rfl⟩, rfl⟩
  rcases Hw.call_cases hhw with ⟨-, rfl⟩ | ⟨-, rfl⟩ <;> exact ⟨_, rfl⟩

theorem mlnxPortTransactionToL2_idle : Rel Vendor.IdleHw (mlnxPortTransactionToL2 hwId) := by
  have hset : ∀ portId state, Rel Vendor.IdleHw (sxRstpPortStateSet portId state) := by
    intro portId state
    refine Rel.bind onHw_sxCall_idle fun _ => Rel.ite (Rel.bind (Rel.modify fun s => ?_) fun _ =>
      Rel.pure _) (Rel.pure _)
    exact ⟨⟨⟨s.hw.outcomes, rfl⟩, rfl⟩, rfl⟩
  refine (Rel.gets _).bind fun _ => Rel.bind onHw_sxCall_idle fun _ =>
    (Rel.require _ _).bind fun _ => Rel.bind onHw_sxCall_idle fun _ => (Rel.pure _).ite ?_
  exact (hset _ _).bind fun _ => (Rel.pure _).ite ((hset _ _).bind fun _ => Rel.pure _)

theorem callback_clb : callback hwId transaction.clb = onHostIntfs (match transaction with
    | .toL2 => portTransactionToL2 hwId
    | .toL3 => portTransactionToL3 hwId) := by
  cases transaction <;> rfl

theorem callback_clb_ends (ht : s.hostIntfs.Tidy) (hp : s.hostIntfs.HasPort hwId) :
    Ends (callback hwId transaction.clb) s fun _ s' => s.Idle s' ∧
      s.hostIntfs.Turned hwId transaction.netdev s'.hostIntfs := by
  have hends : Ends (match transaction with
      | .toL2 => portTransactionToL2 hwId
      | .toL3 => portTransactionToL3 hwId) s.hostIntfs fun _ t =>
      s.hostIntfs.Turned hwId transaction.netdev t := by
    cases transaction
    · exact portTransactionToL2_ends ht hp
    · exact portTransactionToL3_ends ht hp
  obtain ⟨_, t, hrun, hturned⟩ := hends
  rw [callback_clb]
  exact ⟨(), _, onHostIntfs_ok.2 ⟨t, hrun, rfl⟩, ⟨⟨s.hw.outcomes, rfl⟩, rfl⟩, hturned⟩

/-- The calls of the callbacks on `l`: the host interface of the port has its new type afterwards if
its callback is among them. -/
theorem callbacks_ok {l : List OpsSaiPortTransactionCallback} (hknown : ∀ iter ∈ l, iter.Known)
    (ht : s.hostIntfs.Tidy) (hp : s.hostIntfs.HasPort hwId)
    (h : forAll l (fun iter =>
      if iter.type = transaction then callback hwId iter.callback else pure ()) s = .ok ((), s')) :
    s.Idle s' ∧ (s.hostIntfs.Turned hwId transaction.netdev s'.hostIntfs ∨
      s'.hostIntfs = s.hostIntfs ∧ ⟨transaction.clb, transaction⟩ ∉ l) := by
  induction l generalizing s with
  | nil =>
    cases h
    exact ⟨refl_of _ _, .inr ⟨rfl, List.not_mem_nil⟩⟩
  | cons iter l ih =>
    obtain ⟨hiter, hknown⟩ := List.forall_mem_cons.mp hknown
    obtain ⟨_, s₁, h₁, h⟩ := bind_ok.mp h
    suffices hturn : s.Idle s₁ ∧ (s.hostIntfs.Turned hwId transaction.netdev s₁.hostIntfs ∨
        s₁.hostIntfs = s.hostIntfs ∧ iter ≠ ⟨transaction.clb, transaction⟩) by
      obtain ⟨hidle, hturned | ⟨heq, hne⟩⟩ := hturn
      · have hp₁ := (hturned.hasPort_iff netdev_isPort).mpr hp
        obtain ⟨hidle', hturned' | ⟨heq', -⟩⟩ := ih hknown hturned.tidy hp₁ h
        · exact ⟨trans_of _ hidle hidle', .inl (hturned.again hturned' netdev_isPort)⟩
        · exact ⟨trans_of _ hidle hidle', .inl (heq'.symm ▸ hturned)⟩
      · obtain ⟨hidle', hrest⟩ := ih hknown (heq ▸ ht) (heq ▸ hp) h
        refine ⟨trans_of _ hidle hidle', ?_⟩
        rw [heq] at hrest
        refine hrest.imp_right fun hsame => ⟨hsame.1, ?_⟩
        rw [List.mem_cons, not_or]
        exact ⟨Ne.symm hne, hsame.2⟩
    dsimp only at h₁
    split at h₁
    next htype =>
      rcases hiter with hclb | ⟨hclb, -⟩
      · rw [hclb, htype] at h₁
        obtain ⟨hidle, hturned⟩ := (callback_clb_ends ht hp).of_ok h₁
        exact ⟨hidle, .inl hturned⟩
      · rw [hclb] at h₁
        obtain ⟨hidle, heq⟩ := mlnxPortTransactionToL2_idle _ _ _ h₁
        refine ⟨hidle, .inr ⟨heq, fun h => ?_⟩⟩
        rw [h] at hclb
        cases transaction <;> cases hclb
    next htype =>
      cases h₁
      exact ⟨refl_of _ _, .inr ⟨rfl, fun h => htype (by rw [h])⟩⟩

/-- **A transaction** gives the host interface of the port its new type, in whatever order the
callbacks are registered and however often. -/
theorem opsSaiPortTransaction_ok (hreg : Registered s.callbackList) (ht : s.hostIntfs.Tidy)
    (hp : s.hostIntfs.HasPort (handle % 2 ^ 32))
    (h : opsSaiPortTransaction handle transaction s = .ok ((), s')) :
    s.Idle s' ∧ s.hostIntfs.Turned (handle % 2 ^ 32) transaction.netdev s'.hostIntfs := by
  rw [opsSaiPortTransaction, gets_bind] at h
  obtain ⟨hidle, hturned | ⟨-, hnot⟩⟩ := callbacks_ok hreg.known ht hp h
  · exact ⟨hidle, hturned⟩
  · exact absurd (hreg.mem transaction) hnot

theorem mlnxPortTransactionToL2_never : Never Fault (mlnxPortTransactionToL2 hwId) := by
  have hcall : Never Fault (Vendor.onHw sxCall) := callIf_never.zoom
  have hset : ∀ portId state, Never Fault (sxRstpPortStateSet portId state) := fun _ _ =>
    hcall.bind fun _ => ((Never.modify _).bind fun _ => Never.pure _).ite (Never.pure _)
  refine (Never.gets _).bind fun _ => hcall.bind fun _ => (Never.require (· rfl)).bind fun _ => ?_
  refine hcall.bind fun _ => (Never.pure _).ite ((hset _ _).bind fun _ => (Never.pure _).ite ?_)
  exact (hset _ _).bind fun _ => Never.pure _

theorem callbacks_avoids {l : List OpsSaiPortTransactionCallback}
    (hknown : ∀ iter ∈ l, iter.Known) (ht : s.hostIntfs.Tidy) (hp : s.hostIntfs.HasPort hwId) :
    Avoids Fault (forAll l fun iter =>
      if iter.type = transaction then callback hwId iter.callback else pure ()) s := by
  induction l generalizing s with
  | nil => exact Avoids.pure _
  | cons iter l ih =>
    obtain ⟨hiter, hrest⟩ := List.forall_mem_cons.mp hknown
    refine Avoids.bind (Avoids.ite (fun htype => ?_) fun _ => Avoids.pure _) fun _ s₁ h₁ => ?_
    · rcases hiter with hclb | ⟨hclb, -⟩
      · rw [hclb]
        exact (callback_clb_ends ht hp).avoids
      · rw [hclb]
        exact mlnxPortTransactionToL2_never s
    · have hone : forAll [iter] (fun iter =>
          if iter.type = transaction then callback hwId iter.callback else pure ()) s =
            .ok ((), s₁) := by
        exact bind_of_ok h₁
      obtain ⟨-, hturned | ⟨heq, -⟩⟩ :=
        callbacks_ok (List.forall_mem_cons.mpr ⟨hiter, fun _ h => by cases h⟩) ht hp hone
      · exact ih hrest hturned.tidy ((hturned.hasPort_iff netdev_isPort).mpr hp)
      · exact ih hrest (heq ▸ ht) (heq ▸ hp)

theorem opsSaiPortTransaction_avoids (hreg : Registered s.callbackList) (ht : s.hostIntfs.Tidy)
    (hp : s.hostIntfs.HasPort (handle % 2 ^ 32)) :
    Avoids Fault (opsSaiPortTransaction handle transaction) s :=
  (Avoids.gets _).bind fun _ _ h => by
    cases h
    exact callbacks_avoids hreg.known ht hp

end

/-! ## Creating and removing router interfaces -/

section
variable {t : HostIntfs} {callbackList : List OpsSaiPortTransactionCallback} {α β : Type}

/-- From host interfaces `t` and a list of callbacks, `k` does to the hardware what `k'` does, and
leaves a state that satisfies `Q`. It stops where `k'` does, or at the object of a port. -/
structure Vendor.Mimics (t : HostIntfs) (callbackList : List OpsSaiPortTransactionCallback)
    (Q : β → Hw → Vendor → Prop) (k : Exec Vendor β) (k' : Exec Hw β) : Prop where
  ok : ∀ s r s', s.hostIntfs = t → s.callbackList = callbackList → k s = .ok (r, s') →
    ∃ hw, k' s.hw = .ok (r, hw) ∧ Q r hw s'
  error : ∀ s e, s.hostIntfs = t → s.callbackList = callbackList → k s = .error e →
    k' s.hw = .error e ∨ ¬Fault e

namespace Vendor.Mimics

variable {Q : β → Hw → Vendor → Prop} {k : Exec Vendor β} {k' : Exec Hw β}

theorem onHw_bind {m : Exec Hw α} {k : α → Exec Vendor β} {k' : α → Exec Hw β}
    (h : ∀ a, Mimics t callbackList Q (k a) (k' a)) :
    Mimics t callbackList Q (onHw m >>= k) (m >>= k') where
  ok s r s' ht hcbs hrun := by
    obtain ⟨a, s₁, hzoom, hrun⟩ := bind_ok.mp hrun
    obtain ⟨hw, hm, rfl⟩ := onHw_ok_iff.1 hzoom
    rw [bind_of_ok hm]
    exact (h a).ok { s with hw := hw } r s' ht hcbs hrun
  error s e ht hcbs hrun := by
    cases hm : m s.hw with
    | error e' =>
      have hzoom : onHw m s = .error e' := by rw [onHw, zoom, hm]
      rw [bind_of_error hzoom] at hrun
      cases hrun
      exact .inl (bind_of_error hm)
    | ok r =>
      have hzoom : onHw m s = .ok (r.1, { s with hw := r.2 }) := onHw_ok_iff.2 ⟨r.2, hm, rfl⟩
      rw [bind_of_ok hzoom] at hrun
      rw [bind_of_ok hm]
      exact (h r.1).error { s with hw := r.2 } e ht hcbs hrun

theorem ite {c : Prop} [Decidable c] {l : Exec Vendor β} {l' : Exec Hw β}
    (hk : c → Mimics t callbackList Q k k') (hl : ¬c → Mimics t callbackList Q l l') :
    Mimics t callbackList Q (if c then k else l) (if c then k' else l') := by
  split
  next h => exact hk h
  next h => exact hl h

theorem pure {b : β} (h : ∀ s : Vendor, s.hostIntfs = t → s.callbackList = callbackList →
    Q b s.hw s) : Mimics t callbackList Q (pure b) (pure b) where
  ok s r s' ht hcbs hrun := by
    cases hrun
    exact ⟨s.hw, rfl, h s ht hcbs⟩
  error s e _ _ hrun := by cases hrun

theorem need_bind {o : Option α} {e : Halt} {k : α → Exec Vendor β} {k' : α → Exec Hw β}
    (h : ∀ a, o = some a → Mimics t callbackList Q (k a) (k' a)) :
    Mimics t callbackList Q (need e o >>= k) (need e o >>= k') := by
  cases o with
  | none =>
    constructor
    · intro s r s' _ _ hrun
      cases hrun
    · intro s e' _ _ hrun
      cases hrun
      exact .inl rfl
  | some a => exact h a rfl

end Vendor.Mimics

/-- The end of a creation or removal: a transaction if the interface is on a port, and then `tail'`
on the hardware, for which the outcomes of later calls make no difference. -/
theorem mimics_transaction {Q : β → Hw → Vendor → Prop} {handle : Nat}
    {type : RouterIntfType} {tr : OpsSaiPortTransaction} {tail : Exec Vendor β}
    {tail' : Exec Hw β} (hreg : Registered callbackList) (ht : t.Tidy)
    (hp : type = .port → t.HasPort (handle % 2 ^ 32)) (htail : ∀ s, tail s = onHw tail' s)
    (houtcomes : ∀ hw outcomes, tail' { hw with outcomes := outcomes } =
      (tail' hw).map fun r => (r.1, { r.2 with outcomes := outcomes }))
    (hQ : ∀ b hw₀ hw s, tail' hw₀ = .ok (b, hw) →
      (∃ outcomes, s.hw = { hw with outcomes := outcomes }) →
      s.callbackList = callbackList → (type ≠ .port ∧ s.hostIntfs = t ∨ type = .port ∧
        t.Turned (handle % 2 ^ 32) tr.netdev s.hostIntfs) → Q b hw s) :
    Vendor.Mimics t callbackList Q (routerIntfTransaction type handle tr >>= fun _ => tail)
      tail' := by
  have hturn : ∀ s s₁ : Vendor, s.hostIntfs = t → s.callbackList = callbackList →
      routerIntfTransaction type handle tr s = .ok ((), s₁) →
      s.Idle s₁ ∧ (type ≠ .port ∧ s₁.hostIntfs = t ∨ type = .port ∧
        t.Turned (handle % 2 ^ 32) tr.netdev s₁.hostIntfs) := by
    rintro s s₁ rfl rfl h
    rw [routerIntfTransaction] at h
    split at h
    next htype =>
      obtain ⟨hidle, hturned⟩ := opsSaiPortTransaction_ok hreg ht (hp htype) h
      exact ⟨hidle, .inr ⟨htype, hturned⟩⟩
    next htype =>
      cases h
      exact ⟨refl_of _ _, .inl ⟨htype, rfl⟩⟩
  have hafter : ∀ s s₁ : Vendor, s.Idle s₁ → ∃ outcomes, tail' s₁.hw =
      (tail' s.hw).map fun r => (r.1, { r.2 with outcomes := outcomes }) := by
    intro s s₁ hidle
    obtain ⟨outcomes, hhw⟩ := hidle.hw
    exact ⟨outcomes, hhw ▸ houtcomes s.hw outcomes⟩
  constructor
  · intro s r s' hs hcbs hrun
    obtain ⟨_, s₁, h₁, hrun⟩ := bind_ok.mp hrun
    obtain ⟨hidle, hhost⟩ := hturn s s₁ hs hcbs h₁
    rw [htail] at hrun
    obtain ⟨hw, hhw, rfl⟩ := onHw_ok_iff.1 hrun
    obtain ⟨outcomes, heq⟩ := hafter s s₁ hidle
    rw [heq] at hhw
    cases hrun' : tail' s.hw with
    | error e => rw [hrun'] at hhw; cases hhw
    | ok r' =>
      rw [hrun'] at hhw
      cases hhw
      exact ⟨r'.2, rfl, hQ _ _ _ _ hrun' ⟨outcomes, rfl⟩ (hidle.callbackList.trans hcbs) hhost⟩
  · intro s e hs hcbs hrun
    cases h₁ : routerIntfTransaction type handle tr s with
    | error e' =>
      rw [bind_of_error h₁] at hrun
      cases hrun
      refine .inr fun he => ?_
      subst hs hcbs
      refine Avoids.ite (fun htype => ?_) (fun _ => Avoids.pure _) e h₁ he
      exact opsSaiPortTransaction_avoids hreg ht (hp htype)
    | ok r =>
      obtain ⟨_, s₁⟩ := r
      obtain ⟨hidle, -⟩ := hturn s s₁ hs hcbs h₁
      rw [bind_of_ok h₁, htail] at hrun
      obtain ⟨outcomes, heq⟩ := hafter s s₁ hidle
      cases hrun' : tail' s.hw with
      | error e' =>
        rw [hrun'] at heq
        have hzoom : onHw tail' s₁ = .error e' := by
          rw [onHw, zoom, heq]
          rfl
        cases hzoom.symm.trans hrun
        exact .inl rfl
      | ok r' =>
        rw [hrun'] at heq
        rw [onHw, zoom, heq] at hrun
        cases hrun

variable {handle rifHandle : Nat} {type : RouterIntfType}

/-- How a call that may have been a transaction of the type `tr` has left the state: it was one if
`turned` holds. -/
structure Vendor.Left (t : HostIntfs) (callbackList : List OpsSaiPortTransactionCallback)
    (handle : Nat) (tr : OpsSaiPortTransaction) (turned : Prop) (hw : Hw) (s : Vendor) : Prop where
  hw : ∃ outcomes, s.hw = { hw with outcomes := outcomes }
  callbackList : s.callbackList = callbackList
  hostIntfs : ¬turned ∧ s.hostIntfs = t ∨
    turned ∧ t.Turned (handle % 2 ^ 32) tr.netdev s.hostIntfs

theorem left_of_failure {s : Vendor} {tr : OpsSaiPortTransaction} {turned : Prop}
    (hs : s.hostIntfs = t) (hcbs : s.callbackList = callbackList) (h : ¬turned) :
    Left t callbackList handle tr turned s.hw s := ⟨⟨s.hw.outcomes, rfl⟩, hcbs, .inl ⟨h, hs⟩⟩

/-- **A creation** does to the hardware what `opsSaiRouterIntfCreate` does. One that succeeds on a
port turns the host interface of the port into an L3 device. -/
theorem routerIntfCreate_mimics (vrid rifHandle : Nat) (hreg : Registered callbackList)
    (ht : t.Tidy) (hp : type = .port → t.HasPort (handle % 2 ^ 32)) :
    Mimics t callbackList
      (fun r => Left t callbackList handle .toL3 (r.1 = 0 ∧ type = .port))
      (Vendor.routerIntfCreate vrid type handle rifHandle)
      (opsSaiRouterIntfCreate vrid type handle rifHandle) := by
  have hfail : ∀ {status : SaiStatus}, status ≠ .success → Mimics t callbackList
      (fun (r : Int × Nat) => Left t callbackList handle .toL3 (r.1 = 0 ∧ type = .port))
      (pure (sxError2Errno status, rifHandle)) (pure (sxError2Errno status, rifHandle)) :=
    fun hs => .pure fun s hs' hcbs => left_of_failure hs' hcbs fun h => sxError2Errno_ne_zero hs h.1
  refine .onHw_bind fun ifc => .onHw_bind fun status => .ite hfail fun _ => ?_
  refine .onHw_bind fun ⟨status, rif⟩ => .ite hfail fun _ => ?_
  refine .onHw_bind fun ⟨status, counter⟩ => .ite hfail fun _ => ?_
  refine .onHw_bind fun status => .ite hfail fun _ => ?_
  refine mimics_transaction hreg ht hp (fun s => ?_) (fun hw outcomes => ?_) ?_
  · unfold onHw
    simp only [zoom, gets_bind]
    cases (s.hw.routerIntfEntryFind rif).isNone <;> rfl
  · have hfind : Hw.routerIntfEntryFind { hw with outcomes := outcomes } rif =
        hw.routerIntfEntryFind rif := rfl
    simp only [gets_bind, hfind]
    cases (hw.routerIntfEntryFind rif).isNone <;> rfl
  · intro r hw₀ hw s hrun hhw hcbs hhost
    obtain ⟨-, hrun⟩ := require_bind.mp hrun
    cases hrun
    refine ⟨hhw, hcbs, hhost.imp (And.imp_left fun hne h => hne h.2) (And.imp_left ?_)⟩
    exact fun h => ⟨rfl, h⟩

/-- **A removal** does to the hardware what `opsSaiRouterIntfRemove` does. One that succeeds for an
interface on a port turns the host interface of the port into an L2 device. -/
theorem routerIntfRemove_mimics {s : Vendor} {e : RifEntry} (hreg : Registered s.callbackList)
    (ht : s.hostIntfs.Tidy) (he : s.hw.routerIntfEntryFind rifHandle = some e)
    (hp : e.type = .port → s.hostIntfs.HasPort (e.handle % 2 ^ 32)) :
    (∀ st s', Vendor.routerIntfRemove rifHandle s = .ok (st, s') →
      ∃ hw, opsSaiRouterIntfRemove rifHandle s.hw = .ok (st, hw) ∧
        Left s.hostIntfs s.callbackList e.handle .toL2 (st = 0 ∧ e.type = .port) hw s') ∧
    ∀ e', Vendor.routerIntfRemove rifHandle s = .error e' →
      opsSaiRouterIntfRemove rifHandle s.hw = .error e' ∨ ¬Fault e' := by
  have hfail : ∀ {status : SaiStatus}, status ≠ .success → Mimics s.hostIntfs s.callbackList
      (fun (st : Int) => Left s.hostIntfs s.callbackList e.handle .toL2 (st = 0 ∧ e.type = .port))
      (pure (sxError2Errno status)) (pure (sxError2Errno status)) :=
    fun hs => .pure fun s hs' hcbs => left_of_failure hs' hcbs fun h => sxError2Errno_ne_zero hs h.1
  -- the entry has been found
  have hfound : ∀ {k : RifEntry → Exec Vendor Int} {k' : RifEntry → Exec Hw Int}
      {Q : Int → Hw → Vendor → Prop}, Mimics s.hostIntfs s.callbackList Q (k e) (k' e) →
      (∀ st s', (gets (fun s : Vendor => s.hw.routerIntfEntryFind rifHandle) >>= fun found =>
        need (.assertion "router_intf") found >>= k) s = .ok (st, s') →
        ∃ hw, (gets (fun hw : Hw => hw.routerIntfEntryFind rifHandle) >>= fun found =>
          need (.assertion "router_intf") found >>= k') s.hw = .ok (st, hw) ∧ Q st hw s') ∧
      ∀ e', (gets (fun s : Vendor => s.hw.routerIntfEntryFind rifHandle) >>= fun found =>
        need (.assertion "router_intf") found >>= k) s = .error e' →
        (gets (fun hw : Hw => hw.routerIntfEntryFind rifHandle) >>= fun found =>
          need (.assertion "router_intf") found >>= k') s.hw = .error e' ∨ ¬Fault e' := by
    intro k k' Q h
    rw [gets_bind, gets_bind, he]
    exact ⟨fun st s' => h.ok s st s' rfl rfl, fun e' => h.error s e' rfl rfl⟩
  refine hfound ?_
  refine .onHw_bind fun _ => .ite hfail fun _ => .onHw_bind fun _ => .ite hfail fun _ => ?_
  refine .onHw_bind fun _ => .ite hfail fun _ => .onHw_bind fun _ => .ite hfail fun _ => ?_
  refine mimics_transaction hreg ht hp (fun s => rfl) (fun hw outcomes => rfl) ?_
  intro st hw₀ hw s' hrun hhw hcbs hhost
  cases hrun
  exact ⟨hhw, hcbs, hhost.imp (And.imp_left fun hne h => hne h.2) (And.imp_left fun h => ⟨rfl, h⟩)⟩

end

/-! ## Runs -/

/-- What the router interface and host interface classes are called for. -/
inductive VendorCall where
  | hostIntfInit
  | routerIntfInit
  | hostIntfCreate (name : String) (type : HostIntfType) (handle : Nat) (mac : EthAddr)
  | hostIntfRemove (name : String)
  | routerIntfCreate (vrid : Nat) (type : RouterIntfType) (handle rifHandle : Nat)
  | routerIntfRemove (rifHandle : Nat)
  | routerIntfSetState (rifHandle : Nat) (state : Bool)

def VendorCall.run : VendorCall → Exec Vendor Int
  | .hostIntfInit => do
    Vendor.hostIntfInit
    return 0
  | .routerIntfInit => do
    Vendor.routerIntfInit
    return 0
  | .hostIntfCreate name type handle mac => onHostIntfs (hostIntfNetdevCreate name type handle mac)
  | .hostIntfRemove name => onHostIntfs (hostIntfNetdevRemove name)
  | .routerIntfCreate vrid type handle rifHandle => do
    let r ← Vendor.routerIntfCreate vrid type handle rifHandle
    return r.1
  | .routerIntfRemove rifHandle => Vendor.routerIntfRemove rifHandle
  | .routerIntfSetState rifHandle state => Vendor.onHw (opsSaiRouterIntfSetState rifHandle state)

/-- What the callers keep to: ports have L2 devices at first, and a router interface is on a port
that has a device and no other router interface. -/
def VendorCall.Legal (s : Vendor) : VendorCall → Prop
  | .hostIntfInit | .routerIntfInit => True
  | .hostIntfCreate _ type handle _ => type ≠ .l3PortNetdev ∧ (type = .l2PortNetdev →
      handle < 2 ^ 32 ∧ ¬s.hostIntfs.HasPort handle ∧ ¬s.hw.HasRif handle)
  | .hostIntfRemove name => ∃ hif, s.hostIntfs.allHostIntf.lookup name = some hif ∧
      (hif.type ≠ .l3VlanNetdev → ¬s.hw.HasRif hif.handle)
  | .routerIntfCreate _ type handle _ =>
      type = .port → s.hostIntfs.HasPort handle ∧ ¬s.hw.HasRif handle
  | .routerIntfRemove rifHandle | .routerIntfSetState rifHandle _ =>
      (s.hw.routerIntfEntryFind rifHandle).isSome

/-- The host interfaces of the ports are as the recorded router interfaces ask for. -/
def Vendor.Follows (s : Vendor) : Prop :=
  ∀ name hif, s.hostIntfs.allHostIntf.lookup name = some hif → hif.type ≠ .l3VlanNetdev →
    (hif.type = .l3PortNetdev ↔ s.hw.HasRif hif.handle)

structure VendorInv (s : Vendor) : Prop where
  registered : Registered s.callbackList
  tidy : s.hostIntfs.Tidy
  labels : ∀ handle, s.hostIntfs.HasPort handle → handle < 2 ^ 32
  recorded : s.hw.Recorded
  -- a port has at most one router interface, and then a device
  handles : ∀ e ∈ s.hw.allRouterIntf, ∀ e' ∈ s.hw.allRouterIntf, e.type = .port → e'.type = .port →
    e.handle = e'.handle → e.rifId = e'.rifId
  backed : ∀ handle, s.hw.HasRif handle → s.hostIntfs.HasPort handle
  follows : s.Follows

section
variable {s s' : Vendor} {st : Int} {c : VendorCall}

theorem HifEntry.isPort_handle {hif : HifEntry} (h : hif.type ≠ .l3VlanNetdev) :
    hif.isPort hif.handle = true := by
  refine HifEntry.isPort_iff.mpr ⟨?_, rfl⟩
  cases ht : hif.type with
  | l2PortNetdev => exact .inl rfl
  | l3PortNetdev => exact .inr rfl
  | l3VlanNetdev => exact absurd ht h

theorem VendorInv.mod (h : VendorInv s) {handle : Nat} (hp : s.hostIntfs.HasPort handle) :
    handle % 2 ^ 32 = handle := Nat.mod_eq_of_lt (h.labels handle hp)

/-- A call that changes no host interface and no router interface on a port. -/
theorem VendorInv.sameRifs (h : VendorInv s) (htidy : s'.hostIntfs.Tidy)
    (htable : s'.hostIntfs.allHostIntf = s.hostIntfs.allHostIntf)
    (hreg : Registered s'.callbackList) (hrec : s'.hw.Recorded)
    (hports : ∀ e, e.type = .port → (e ∈ s'.hw.allRouterIntf ↔ e ∈ s.hw.allRouterIntf)) :
    VendorInv s' := by
  have hrif : ∀ handle, s'.hw.HasRif handle ↔ s.hw.HasRif handle := fun handle =>
    exists_congr fun e => and_congr_left fun he => hports e he.1
  have hport : ∀ handle, s'.hostIntfs.HasPort handle ↔ s.hostIntfs.HasPort handle := by
    intro handle
    rw [HostIntfs.HasPort, htable, HostIntfs.HasPort]
  refine ⟨hreg, htidy, fun handle hp => h.labels handle ((hport handle).mp hp), hrec,
    fun e he e' he' ht ht' => ?_, fun handle hr => (hport handle).mpr ?_,
    fun name hif hfind hne => ?_⟩
  · exact h.handles e ((hports e ht).mp he) e' ((hports e' ht').mp he') ht ht'
  · exact h.backed handle ((hrif handle).mp hr)
  · rw [hrif]
    exact h.follows name hif (htable ▸ hfind) hne

theorem VendorInv.same (h : VendorInv s) (htidy : s'.hostIntfs.Tidy)
    (htable : s'.hostIntfs.allHostIntf = s.hostIntfs.allHostIntf)
    (hreg : Registered s'.callbackList) (hrec : s'.hw.Recorded)
    (hentries : s'.hw.allRouterIntf = s.hw.allRouterIntf) : VendorInv s' :=
  h.sameRifs htidy htable hreg hrec fun e _ => by rw [hentries]

/-- A port has been turned, and its router interface has come or gone. -/
theorem VendorInv.turned (h : VendorInv s) {handle : Nat} {tr : OpsSaiPortTransaction}
    (hp : s.hostIntfs.HasPort handle) (hturned : s.hostIntfs.Turned handle tr.netdev s'.hostIntfs)
    (hreg : Registered s'.callbackList) (hrec : s'.hw.Recorded)
    (hhandles : ∀ e ∈ s'.hw.allRouterIntf, ∀ e' ∈ s'.hw.allRouterIntf, e.type = .port →
      e'.type = .port → e.handle = e'.handle → e.rifId = e'.rifId)
    (hrif : ∀ handle', s'.hw.HasRif handle' ↔
      if handle' = handle then tr = .toL3 else s.hw.HasRif handle') : VendorInv s' := by
  have hport : ∀ handle', s'.hostIntfs.HasPort handle' ↔ s.hostIntfs.HasPort handle' := fun _ =>
    hturned.hasPort_iff netdev_isPort
  refine ⟨hreg, hturned.tidy, fun handle' hp' => h.labels handle' ((hport _).mp hp'), hrec,
    hhandles, fun handle' hr => (hport _).mpr ?_, fun name hif hfind hne => ?_⟩
  · rw [hrif] at hr
    split at hr
    next heq => exact heq ▸ hp
    next => exact h.backed handle' hr
  · rw [hturned.lookup] at hfind
    obtain ⟨old, hold, rfl⟩ := Option.map_eq_some_iff.mp hfind
    unfold HifEntry.turn at hne ⊢
    split at hne
    next hpold =>
      have hhandle := (HifEntry.isPort_iff.mp hpold).2
      rw [if_pos hpold, hrif, if_pos hhandle]
      cases tr <;> simp [OpsSaiPortTransaction.netdev]
    next hpold =>
      have hhandle : old.handle ≠ handle := fun heq => hpold (heq ▸ HifEntry.isPort_handle hne)
      rw [if_neg hpold, hrif, if_neg hhandle]
      exact h.follows name old hold hne

/-! ### Initialization -/

theorem Registered.append {l l' : List OpsSaiPortTransactionCallback} (h : Registered l)
    (hknown : ∀ iter ∈ l', iter.Known) : Registered (l ++ l') where
  known := List.forall_mem_append.mpr ⟨h.known, hknown⟩
  mem transaction := List.mem_append_left _ (h.mem transaction)

theorem onHostIntfs_ends {α : Type} {m : Exec HostIntfs α} {Q : α → HostIntfs → Prop}
    (h : Ends m s.hostIntfs Q) :
    Ends (onHostIntfs m) s fun a s' => ∃ t, Q a t ∧ s' = { s with hostIntfs := t } := by
  obtain ⟨a, t, hm, hQ⟩ := h
  exact ⟨a, _, onHostIntfs_ok.2 ⟨t, hm, rfl⟩, t, hQ, rfl⟩

theorem swid0EthCommand_ends {label : String} (h : s.hostIntfs.Calm) :
    Ends (swid0EthCommand label) s fun _ s' => s' = s := by
  apply (onHostIntfs_ends (h.system rfl)).bind
  rintro _ _ ⟨_, ⟨rfl, rfl⟩, rfl⟩
  exact Ends.require rfl rfl

/-- The callbacks of the host interfaces are registered behind those that are. -/
theorem hostIntfInit_ends (h : s.hostIntfs.Calm) :
    Ends Vendor.hostIntfInit s fun _ s' => s' = { s with
      callbackList := s.callbackList ++ [⟨.portTransactionToL2, .toL2⟩] ++
        [⟨.portTransactionToL3, .toL3⟩] } := by
  apply (swid0EthCommand_ends h).bind
  rintro _ _ rfl
  apply (swid0EthCommand_ends h).bind
  rintro _ _ rfl
  apply (swid0EthCommand_ends h).bind
  rintro _ s₁ rfl
  have hnet : ∀ callbackList, Ends (onHostIntfs (sxNet (fun _ => true) id) >>= fun status =>
      assert "Failed to initialize SX net lib" (status = .success))
      { s₁ with callbackList := callbackList } fun _ s' =>
        s' = { s₁ with callbackList := callbackList } := by
    intro callbackList
    apply (onHostIntfs_ends (s := { s₁ with callbackList := callbackList }) (h.sxNet rfl)).bind
    rintro _ _ ⟨_, ⟨rfl, rfl⟩, rfl⟩
    exact Ends.require rfl rfl
  exact hnet _

/-! ### Host interfaces -/

theorem hostIntfCreate_inv {name : String} {type : HostIntfType} {handle : Nat} {mac : EthAddr}
    (h : VendorInv s) (hlegal : (VendorCall.hostIntfCreate name type handle mac).Legal s) :
    Ends (VendorCall.hostIntfCreate name type handle mac).run s fun _ => VendorInv := by
  obtain ⟨hl3, hl2⟩ := hlegal
  have hport : type ≠ .l3VlanNetdev → type = .l2PortNetdev := by
    cases type <;> simp_all
  have hends := hostIntfNetdevCreate_ends name mac h.tidy fun hne => (hl2 (hport hne)).2.1
  refine (onHostIntfs_ends hends).mono ?_
  rintro _ _ ⟨t, ⟨htidy, htable⟩, rfl⟩
  rcases htable with htable | ⟨hnone, htable⟩
  · exact h.same htidy htable h.registered h.recorded rfl
  have hlookup : ∀ n, t.allHostIntf.lookup n =
      if n = name then some ⟨type, handle, mac⟩ else s.hostIntfs.allHostIntf.lookup n := by
    intro n
    rw [htable]
    split
    next hn => rw [hn, AList.lookup_insert]
    next hn => rw [AList.lookup_insert_ne hn]
  refine ⟨h.registered, htidy, fun handle' => ?_, h.recorded, h.handles, fun handle' hr => ?_,
    fun n hif hfind hne => ?_⟩
  · rintro ⟨n, hif, hfind, hp⟩
    rw [hlookup] at hfind
    split at hfind
    next =>
      cases hfind
      obtain ⟨ht, rfl⟩ := HifEntry.isPort_iff.mp hp
      exact (hl2 (ht.resolve_right hl3)).1
    next => exact h.labels handle' ⟨n, hif, hfind, hp⟩
  · obtain ⟨n, hif, hfind, hp⟩ := h.backed handle' hr
    have hn : n ≠ name := by
      rintro rfl
      cases hnone.symm.trans hfind
    exact ⟨n, hif, (hlookup n).trans ((if_neg hn).trans hfind), hp⟩
  · rw [hlookup] at hfind
    split at hfind
    next =>
      cases hfind
      exact iff_of_false hl3 (hl2 (hport hne)).2.2
    next => exact h.follows n hif hfind hne

theorem hostIntfRemove_inv {name : String} (h : VendorInv s)
    (hlegal : (VendorCall.hostIntfRemove name).Legal s) :
    Ends (VendorCall.hostIntfRemove name).run s fun _ => VendorInv := by
  obtain ⟨hif, hfind, hunused⟩ := hlegal
  refine (onHostIntfs_ends (hostIntfNetdevRemove_ends h.tidy hfind)).mono ?_
  rintro _ _ ⟨t, ⟨htidy, htable⟩, rfl⟩
  have hlookup : ∀ n, t.allHostIntf.lookup n =
      if n = name then none else s.hostIntfs.allHostIntf.lookup n := by
    intro n
    rw [htable]
    split
    next hn => rw [hn, AList.lookup_erase]
    next hn => rw [AList.lookup_erase_ne hn]
  have hold : ∀ {n hif}, t.allHostIntf.lookup n = some hif →
      s.hostIntfs.allHostIntf.lookup n = some hif := by
    intro n hif hn
    rw [hlookup] at hn
    split at hn
    next => cases hn
    next => exact hn
  refine ⟨h.registered, htidy, fun handle => ?_, h.recorded, h.handles, fun handle hr => ?_,
    fun n hif hn hne => h.follows n hif (hold hn) hne⟩
  · rintro ⟨n, hif, hn, hp⟩
    exact h.labels handle ⟨n, hif, hold hn, hp⟩
  · obtain ⟨n, hif', hn, hp⟩ := h.backed handle hr
    have hne : n ≠ name := by
      rintro rfl
      cases hfind.symm.trans hn
      obtain ⟨ht, rfl⟩ := HifEntry.isPort_iff.mp hp
      refine hunused ?_ hr
      intro hvlan
      rw [hvlan] at ht
      rcases ht with ht | ht <;> cases ht
    exact ⟨n, hif', (hlookup n).trans ((if_neg hne).trans hn), hp⟩

/-! ### Router interfaces -/

theorem routerIntfCreate_inv {vrid handle rifHandle : Nat} {type : RouterIntfType}
    (h : VendorInv s) (hlegal : (VendorCall.routerIntfCreate vrid type handle rifHandle).Legal s) :
    (∀ st s', (VendorCall.routerIntfCreate vrid type handle rifHandle).run s = .ok (st, s') →
      VendorInv s') ∧
    Avoids Fault (VendorCall.routerIntfCreate vrid type handle rifHandle).run s := by
  have hp : type = .port → s.hostIntfs.HasPort (handle % 2 ^ 32) := fun ht => by
    have hp := (hlegal ht).1
    rwa [h.mod hp]
  have hmimics := routerIntfCreate_mimics vrid rifHandle h.registered h.tidy hp
  refine ⟨fun st s' hrun => ?_, ?_⟩
  · obtain ⟨⟨st, rif⟩, s₁, hrun, hend⟩ := bind_ok.mp hrun
    cases hend
    obtain ⟨hw, hhw, ⟨outcomes, heq⟩, hcbs, hhost⟩ := hmimics.ok s _ _ rfl rfl hrun
    have hrec := opsSaiRouterIntfCreate_recorded h.recorded hhw
    have hrec : s'.hw.Recorded := heq ▸ ⟨hrec.exist, hrec.rifIds⟩
    have hreg : Registered s'.callbackList := hcbs ▸ h.registered
    have hall : s'.hw.allRouterIntf = hw.allRouterIntf := by rw [heq]
    rcases opsSaiRouterIntfCreate_entries hhw with ⟨h0, hentries⟩ | ⟨rfl, -, counter, hentries⟩
    · rcases hhost with ⟨-, hhost⟩ | ⟨⟨h0', -⟩, -⟩
      · exact h.same (hhost ▸ h.tidy) (by rw [hhost]) hreg hrec (hall.trans hentries)
      · exact absurd h0' h0
    have hmem : ∀ e, e ∈ s'.hw.allRouterIntf ↔
        e = ⟨rif, counter, type, handle⟩ ∨ e ∈ s.hw.allRouterIntf := fun e => by
      rw [hall, hentries, List.mem_cons]
    rcases hhost with ⟨hne, hhost⟩ | ⟨⟨-, rfl⟩, hturned⟩
    · refine h.sameRifs (hhost ▸ h.tidy) (by rw [hhost]) hreg hrec fun e he => ?_
      rw [hmem, or_iff_right]
      rintro rfl
      exact hne ⟨rfl, he⟩
    obtain ⟨hport, hnone⟩ := hlegal rfl
    rw [h.mod hport] at hturned
    refine h.turned hport hturned hreg hrec (fun e he e' he' ht ht' heq => ?_) fun handle' => ?_
    · rcases (hmem e).mp he with rfl | he <;> rcases (hmem e').mp he' with rfl | he'
      · rfl
      · exact absurd ⟨e', he', ht', heq.symm⟩ hnone
      · exact absurd ⟨e, he, ht, heq⟩ hnone
      · exact h.handles e he e' he' ht ht' heq
    · unfold Hw.HasRif
      simp only [hmem]
      split
      next heq => exact iff_of_true ⟨_, .inl rfl, rfl, heq.symm⟩ trivial
      next hne =>
        constructor
        · rintro ⟨e, rfl | he, ht, heq⟩
          · exact absurd heq.symm hne
          · exact ⟨e, he, ht, heq⟩
        · rintro ⟨e, he, hrest⟩
          exact ⟨e, .inr he, hrest⟩
  · refine Avoids.bind (fun e he => ?_) fun _ _ _ => Avoids.pure _
    rcases hmimics.error s e rfl rfl he with he | he
    · exact opsSaiRouterIntfCreate_avoids h.recorded e he
    · exact he

theorem routerIntfRemove_inv {rifHandle : Nat} (h : VendorInv s)
    (hlegal : (VendorCall.routerIntfRemove rifHandle).Legal s) :
    (∀ st s', (VendorCall.routerIntfRemove rifHandle).run s = .ok (st, s') → VendorInv s') ∧
    Avoids Fault (VendorCall.routerIntfRemove rifHandle).run s := by
  obtain ⟨e, he⟩ := Option.isSome_iff_exists.mp hlegal
  have hin : e ∈ s.hw.allRouterIntf := List.mem_of_find?_eq_some he
  have hid : e.rifId = rifHandle := of_decide_eq_true (List.find?_some he :)
  have hport : e.type = .port → s.hostIntfs.HasPort e.handle := fun ht =>
    h.backed e.handle ⟨e, hin, ht, rfl⟩
  have hp : e.type = .port → s.hostIntfs.HasPort (e.handle % 2 ^ 32) := fun ht => by
    rw [h.mod (hport ht)]
    exact hport ht
  obtain ⟨hok, herror⟩ := routerIntfRemove_mimics h.registered h.tidy he hp
  refine ⟨fun st s' hrun => ?_, fun e' hrun => ?_⟩
  · obtain ⟨hw, hhw, ⟨outcomes, heq⟩, hcbs, hhost⟩ := hok st s' hrun
    have hrec := opsSaiRouterIntfRemove_recorded h.recorded hhw
    have hrec : s'.hw.Recorded := heq ▸ ⟨hrec.exist, hrec.rifIds⟩
    have hreg : Registered s'.callbackList := hcbs ▸ h.registered
    have hall : s'.hw.allRouterIntf = hw.allRouterIntf := by rw [heq]
    rcases opsSaiRouterIntfRemove_entries hhw with ⟨h0, hentries⟩ | ⟨rfl, hentries⟩
    · rcases hhost with ⟨-, hhost⟩ | ⟨⟨h0', -⟩, -⟩
      · exact h.same (hhost ▸ h.tidy) (by rw [hhost]) hreg hrec (hall.trans hentries)
      · exact absurd h0' h0
    have hmem : ∀ e', e' ∈ s'.hw.allRouterIntf ↔
        e' ∈ s.hw.allRouterIntf ∧ e'.rifId ≠ rifHandle := fun e' => by
      rw [hall, hentries, List.mem_eraseP_key h.recorded.rifIds]
    have hsame : ∀ e' ∈ s.hw.allRouterIntf, e'.rifId = rifHandle → e' = e := fun e' he' hid' =>
      List.inj_on_of_nodup_map h.recorded.rifIds he' hin (hid'.trans hid.symm)
    rcases hhost with ⟨hne, hhost⟩ | ⟨⟨-, ht⟩, hturned⟩
    · refine h.sameRifs (hhost ▸ h.tidy) (by rw [hhost]) hreg hrec fun e' ht' => ?_
      rw [hmem, and_iff_left_iff_imp]
      rintro he' hid'
      exact hne ⟨rfl, hsame e' he' hid' ▸ ht'⟩
    rw [h.mod (hport ht)] at hturned
    refine h.turned (hport ht) hturned hreg hrec (fun e₁ he₁ e₂ he₂ => ?_) fun handle => ?_
    · exact h.handles e₁ ((hmem e₁).mp he₁).1 e₂ ((hmem e₂).mp he₂).1
    · unfold Hw.HasRif
      simp only [hmem]
      split
      next heq =>
        refine iff_of_false ?_ (fun h => by cases h)
        rintro ⟨e', ⟨he', hne⟩, ht', hhandle⟩
        exact hne ((h.handles e' he' e hin ht' ht (hhandle.trans heq)).trans hid)
      next hne =>
        constructor
        · rintro ⟨e', ⟨he', -⟩, hrest⟩
          exact ⟨e', he', hrest⟩
        · rintro ⟨e', he', ht', hhandle⟩
          refine ⟨e', ⟨he', fun hid' => hne ?_⟩, ht', hhandle⟩
          rw [← hhandle, hsame e' he' hid']
  · rcases herror e' hrun with hrun | he'
    · exact (opsSaiRouterIntfRemove_ends he).avoids e' hrun
    · exact he'

theorem routerIntfSetState_inv {rifHandle : Nat} {state : Bool} (h : VendorInv s)
    (hlegal : (VendorCall.routerIntfSetState rifHandle state).Legal s) :
    Ends (VendorCall.routerIntfSetState rifHandle state).run s fun _ => VendorInv := by
  obtain ⟨e, he⟩ := Option.isSome_iff_exists.mp hlegal
  have hentries : Frame Hw.allRouterIntf (opsSaiRouterIntfSetState rifHandle state) := by
    refine (Rel.gets _).bind fun _ => (Rel.need _ _).bind fun r => Rel.bind ?_ fun _ => Rel.pure _
    refine callIf_entries fun hw => ?_
    split <;> rfl
  have hcall : Never (fun _ => True)
      (sxRouterInterfaceStateSet e.rifId state >>= fun status => pure (sxError2Errno status)) :=
    callIf_never.bind fun _ => Never.pure _
  obtain ⟨st, hw, hend⟩ := hcall.completes s.hw
  have hrun : opsSaiRouterIntfSetState rifHandle state s.hw = .ok (st, hw) := by
    rw [opsSaiRouterIntfSetState, gets_bind, he]
    exact hend
  have hkept := (opsSaiRouterIntfSetState_kept (S := fun _ => False) _ _ _ hrun).2
  have hsame := hentries _ _ _ hrun
  refine ⟨st, _, onHw_ok_iff.mpr ⟨hw, hrun, rfl⟩, h.same h.tidy rfl h.registered ⟨?_, ?_⟩ hsame⟩
  · intro e he
    exact hkept _ not_false (h.recorded.exist e (hsame ▸ he))
  · exact hsame ▸ h.recorded.rifIds

/-! ### All calls -/

theorem inv_of_ends {m : Exec Vendor Int} (h : Ends m s fun _ => VendorInv) :
    (∀ st s', m s = .ok (st, s') → VendorInv s') ∧ Avoids Fault m s :=
  ⟨fun _ _ hm => h.of_ok hm, h.avoids⟩

/-- A legal call keeps the invariant, and stops at most at the object of a port. -/
theorem VendorCall.run_inv (h : VendorInv s) (hlegal : c.Legal s) :
    (∀ st s', c.run s = .ok (st, s') → VendorInv s') ∧ Avoids Fault c.run s := by
  cases c with
  | hostIntfInit =>
    apply inv_of_ends
    apply (hostIntfInit_ends h.tidy.calm).bind
    rintro _ _ rfl
    refine Ends.pure (h.same h.tidy rfl ((h.registered.append ?_).append ?_) h.recorded rfl)
    · exact List.forall_mem_singleton.mpr (.inl rfl)
    · exact List.forall_mem_singleton.mpr (.inl rfl)
  | routerIntfInit =>
    apply inv_of_ends
    refine ⟨0, _, rfl, h.same h.tidy rfl (h.registered.append ?_) h.recorded rfl⟩
    exact List.forall_mem_singleton.mpr (.inr ⟨rfl, rfl⟩)
  | hostIntfCreate name type handle mac => exact inv_of_ends (hostIntfCreate_inv h hlegal)
  | hostIntfRemove name => exact inv_of_ends (hostIntfRemove_inv h hlegal)
  | routerIntfCreate vrid type handle rifHandle => exact routerIntfCreate_inv h hlegal
  | routerIntfRemove rifHandle => exact routerIntfRemove_inv h hlegal
  | routerIntfSetState rifHandle state => exact inv_of_ends (routerIntfSetState_inv h hlegal)

/-- The initialization of the vendor's classes. -/
def vendorInit : Exec Vendor Unit := do
  Vendor.hostIntfInit
  Vendor.routerIntfInit

/-- Nothing has been created, and no command on host interfaces will fail. -/
structure Vendor.Booted (s : Vendor) : Prop where
  allHostIntf : s.hostIntfs.allHostIntf = ∅
  kernel : s.hostIntfs.kernel = []
  calm : s.hostIntfs.Calm
  allRouterIntf : s.hw.allRouterIntf = []
  callbackList : s.callbackList = []

theorem vendorInit_inv (hboot : s.Booted) (h : vendorInit s = .ok ((), s')) : VendorInv s' := by
  obtain ⟨_, s₁, hhost, hrouter⟩ := bind_ok.mp h
  obtain rfl := (hostIntfInit_ends hboot.calm).of_ok hhost
  cases hrouter
  have htable := hboot.allHostIntf
  have hentries := hboot.allRouterIntf
  have hport : ∀ handle, ¬s.hostIntfs.HasPort handle := by
    rintro handle ⟨name, hif, hfind, -⟩
    rw [htable] at hfind
    cases hfind
  have hrif : ∀ handle, ¬s.hw.HasRif handle := by
    rintro handle ⟨e, he, -⟩
    rw [hentries] at he
    cases he
  have htidy : s.hostIntfs.Tidy := by
    refine ⟨hboot.calm, ?_, fun name name' hif hif' hwId hfind => ?_⟩
    · unfold HostIntfs.Ok HostIntfs.rows
      rw [htable, hboot.kernel]
      exact DevicesOk.empty
    · rw [htable] at hfind
      cases hfind
  refine ⟨⟨fun iter hiter => ?_, fun transaction => ?_⟩, htidy,
    fun handle hp => absurd hp (hport _), ⟨fun e he => ?_, ?_⟩, fun e he => ?_,
    fun handle hr => absurd hr (hrif _), fun name hif hfind => ?_⟩
  · rw [hboot.callbackList] at hiter
    simp only [List.nil_append, List.mem_append, List.mem_singleton] at hiter
    rcases hiter with (rfl | rfl) | rfl
    · exact .inl rfl
    · exact .inl rfl
    · exact .inr ⟨rfl, rfl⟩
  · cases transaction <;> simp [OpsSaiPortTransaction.clb]
  · rw [show ({ s with callbackList := _ } : Vendor).hw.allRouterIntf = _ from hentries] at he
    cases he
  · rw [show ({ s with callbackList := _ } : Vendor).hw.allRouterIntf = _ from hentries]
    exact .nil
  · rw [show ({ s with callbackList := _ } : Vendor).hw.allRouterIntf = _ from hentries] at he
    cases he
  · rw [show ({ s with callbackList := _ } : Vendor).hostIntfs.allHostIntf = _ from htable] at hfind
    cases hfind

/-- **Host interfaces follow router interfaces** while the commands on host interfaces succeed: in
every state of a run of legal calls, with any failing SDK calls on router interfaces and any number
of further initializations, the host interface of a port is an L3 device exactly when a router
interface on the port is recorded, the table still mirrors the kernel, and a legal call stops at
most because the object of a port cannot be read. -/
theorem hostIntfs_follow {s₀ s₁ : Vendor} (hboot : s₀.Booted) (hinit : vendorInit s₀ = .ok ((), s₁))
    (H : Reaches (fun s c => VendorCall.Legal s c) VendorCall.run s₁ s) :
    (∀ name hif, s.hostIntfs.allHostIntf.lookup name = some hif → hif.type ≠ .l3VlanNetdev →
      (hif.type = .l3PortNetdev ↔
        ∃ e ∈ s.hw.allRouterIntf, e.type = .port ∧ e.handle = hif.handle)) ∧
    s.hostIntfs.Mirrored ∧
    ∀ c e, VendorCall.Legal s c → c.run s = .error e →
      e = .assertion "Failed to get port id" := by
  have hinv : VendorInv s := H.invariant
    (fun _ _ hlegal st _ hrun h => (VendorCall.run_inv h hlegal).1 st _ hrun)
    (vendorInit_inv hboot hinit)
  refine ⟨hinv.follows, hinv.tidy.ok.mirrored, fun c e hlegal hrun => ?_⟩
  exact not_not.mp ((VendorCall.run_inv hinv hlegal).2 e hrun)

/-- A switch on which nothing has been created. -/
def Vendor.boot : Vendor := ⟨.reset, ⟨∅, [], [], [], []⟩, fun _ => .forwarding, []⟩

/-- The host interface of a port after a router interface has been created on it, with the callbacks
of the host interfaces registered twice. -/
theorem hostIntfs_follow_routed : ∃ s hif, (∃ s₁, vendorInit .boot = .ok ((), s₁) ∧
    Reaches (fun s c => VendorCall.Legal s c) VendorCall.run s₁ s) ∧
    s.hostIntfs.allHostIntf.lookup "1" = some hif ∧ hif.type = .l3PortNetdev ∧
    ∃ e ∈ s.hw.allRouterIntf, e.type = .port ∧ e.handle = hif.handle := by
  obtain ⟨s, hrun⟩ := result_eq_some.mp (show result (do
    vendorInit
    let _ ← VendorCall.hostIntfInit.run
    let empty ← gets fun s => (s.hostIntfs.allHostIntf.keys, s.hw.allRouterIntf)
    let _ ← (VendorCall.hostIntfCreate "1" .l2PortNetdev 1 0).run
    let created ← gets fun s => (s.hostIntfs.allHostIntf.lookup "1", s.hw.allRouterIntf)
    let _ ← (VendorCall.routerIntfCreate 0 .port 1 0).run
    let routed ← gets fun s => s.hostIntfs.allHostIntf.lookup "1"
    pure (empty, created, routed)) .boot = some (([], []), (some ⟨.l2PortNetdev, 1, 0⟩, []),
      some ⟨.l3PortNetdev, 1, 0⟩) by decide +kernel)
  obtain ⟨_, s₁, h₁, hrun⟩ := bind_ok.mp hrun
  obtain ⟨st₂, s₂, h₂, hrun⟩ := bind_ok.mp hrun
  rw [gets_bind] at hrun
  obtain ⟨st₃, s₃, h₃, hrun⟩ := bind_ok.mp hrun
  rw [gets_bind] at hrun
  obtain ⟨st₄, s₄, h₄, hend⟩ := bind_ok.mp hrun
  rw [gets_bind, pure_apply] at hend
  simp only [Except.ok.injEq, Prod.mk.injEq] at hend
  obtain ⟨⟨⟨hkeys, hentries₂⟩, ⟨hcreated, hentries₃⟩, hrouted⟩, rfl⟩ := hend
  have hrif : ∀ {s : Vendor} {handle}, s.hw.allRouterIntf = [] → ¬s.hw.HasRif handle := by
    rintro s handle hempty ⟨e, he, -⟩
    rw [hempty] at he
    cases he
  have hport : ¬s₂.hostIntfs.HasPort 1 := by
    rintro ⟨name, hif, hfind, -⟩
    have hmem : name ∈ s₂.hostIntfs.allHostIntf.keys :=
      AList.mem_keys.mpr (AList.lookup_isSome.mp (Option.isSome_of_eq_some hfind))
    rw [hkeys] at hmem
    cases hmem
  have hlegal₃ : (VendorCall.hostIntfCreate "1" .l2PortNetdev 1 0).Legal s₂ :=
    ⟨nofun, fun _ => ⟨by decide, hport, hrif hentries₂⟩⟩
  have hlegal₄ : (VendorCall.routerIntfCreate 0 .port 1 0).Legal s₃ := fun _ =>
    ⟨⟨"1", _, hcreated, rfl⟩, hrif hentries₃⟩
  have H : Reaches (fun s c => VendorCall.Legal s c) VendorCall.run s₁ s₄ :=
    .tail (.tail (.tail .refl ⟨.hostIntfInit, st₂, trivial, h₂⟩) ⟨_, st₃, hlegal₃, h₃⟩)
      ⟨_, st₄, hlegal₄, h₄⟩
  have hfollow := (hostIntfs_follow ⟨rfl, rfl, ⟨rfl, rfl⟩, rfl, rfl⟩ h₁ H).1
  exact ⟨s₄, _, ⟨s₁, h₁, H⟩, hrouted, rfl, (hfollow "1" _ hrouted (fun h => by cases h)).mp rfl⟩

end

end SwitchdSai
