import SwitchdSai.Model.Traps
import SwitchdSai.Verify.Ofproto

/-!
# Registration and unregistration of traps by turns

While every call into SAI and the SDK succeeds, registration completes as long as the trap group
numbers suffice, and links one live entry for each configured group (`Ready`). Unregistration takes
the success of a policer removal for its failure, and it frees the entries of the vendor's list
without taking them off the list.
-/

namespace SwitchdSai

open Exec Traps TrapTables

namespace Traps

/-- Every call to come succeeds, the lists are `lists`, and the entries `nodes`, which include the
linked ones, are allocated. -/
structure Ready (lists : TrapGroupList → List Nat) (valid : List (Nat → Bool)) (nodes : List Nat)
    (s : Traps) : Prop where
  outcomes : s.outcomes = []
  list : s.list = lists
  trapGroupValid : s.trapGroupValid = valid
  linked : ∀ l, ∀ node ∈ lists l, node ∈ nodes
  live : ∀ node ∈ nodes, (s.heap.lookup node).isSome

variable {lists : TrapGroupList → List Nat} {valid : List (Nat → Bool)} {nodes : List Nat}
  {node : Nat} {s : Traps}

/-! ## One step -/

/-- After the end of the pattern of outcomes a call succeeds. -/
theorem hwCall_of_outcomes (call : TrapsHwCall) (h : s.outcomes = []) :
    hwCall call s = .ok (.success, { s.tick with calls := s.calls ++ [call] }) := by
  unfold hwCall nextOutcome
  rw [h]
  rfl

theorem hwCall_ready (call : TrapsHwCall) (h : Ready lists valid nodes s) :
    Ends (hwCall call) s fun status s' => status = .success ∧ Ready lists valid nodes s' := by
  have hout : s.tick.outcomes = [] := congrArg List.tail h.outcomes
  exact ⟨_, _, hwCall_of_outcomes call h.outcomes, rfl, hout, h.list, h.trapGroupValid, h.linked,
    h.live⟩

theorem logAbort_ready {label : String} {status : SaiStatus} (hst : status = .success)
    (h : Ready lists valid nodes s) :
    Ends (logAbort label status) s fun _ s' => Ready lists valid nodes s' := by
  subst hst
  exact Ends.require rfl h

theorem hwCall_logAbort_ready (label : String) (call : TrapsHwCall)
    (h : Ready lists valid nodes s) :
    Ends (do logAbort label (← hwCall call)) s fun _ s' => Ready lists valid nodes s' :=
  (hwCall_ready call h).bind fun _ _ ⟨hst, h⟩ => logAbort_ready hst h

theorem chooseFresh_ready (used : Traps → List Nat) (h : Ready lists valid nodes s) :
    Ends (chooseFresh used) s fun _ s' => Ready lists valid nodes s' :=
  ⟨_, _, rfl, h.outcomes, h.list, h.trapGroupValid, h.linked, h.live⟩

theorem insert_ready (entry : OpsSaiTrapGroupEntry) (h : Ready lists valid nodes s) :
    Ready lists valid (node :: nodes) { s with heap := s.heap.insert node entry } := by
  refine ⟨h.outcomes, h.list, h.trapGroupValid,
    fun l next hnext => List.mem_cons_of_mem _ (h.linked l next hnext), ?_⟩
  intro next hnext
  show ((s.heap.insert node entry).lookup next).isSome
  by_cases he : next = node
  · subst he
    rw [AList.lookup_insert]
    rfl
  · rw [AList.lookup_insert_ne he]
    exact h.live next ((List.mem_cons.mp hnext).resolve_left he)

theorem xzalloc_ready (h : Ready lists valid nodes s) :
    Ends xzalloc s fun node s' => Ready lists valid (node :: nodes) s' :=
  (chooseFresh_ready _ h).bind fun _ _ h => (Ends.modify (insert_ready _ h)).bind fun _ _ h =>
    Ends.pure h

theorem live_ready (hnode : node ∈ nodes) (h : Ready lists valid nodes s) :
    Ends (Traps.live node) s fun _ s' => Ready lists valid nodes s' := by
  obtain ⟨entry, hentry⟩ := Option.isSome_iff_exists.mp (h.live node hnode)
  exact Ends.gets_bind (Ends.need hentry h)

theorem modifyEntry_ready (f : OpsSaiTrapGroupEntry → OpsSaiTrapGroupEntry) (hnode : node ∈ nodes)
    (h : Ready lists valid nodes s) :
    Ends (modifyEntry node f) s fun _ s' => Ready lists valid nodes s' := by
  refine (live_ready hnode h).bind fun entry s h => Ends.modify ?_
  have h : Ready lists valid (node :: nodes) _ := insert_ready (f entry) h
  exact ⟨h.outcomes, h.list, h.trapGroupValid, ‹Ready lists valid nodes s›.linked,
    fun next hnext => h.live next (List.mem_cons_of_mem _ hnext)⟩

theorem listPushBack_ready (l : TrapGroupList) (hnode : node ∈ nodes)
    (h : Ready lists valid nodes s) :
    Ends (listPushBack l node) s fun _ s' =>
      Ready (Function.update lists l (lists l ++ [node])) valid nodes s' := by
  refine Ends.gets_bind ?_
  have hlast : ∀ last ∈ (s.list l).getLast?.toList, last ∈ nodes := by
    intro last hlast
    rw [h.list, Option.mem_toList] at hlast
    exact h.linked l last (List.mem_of_getLast? hlast)
  refine Ends.bind (Q := fun _ s' => Ready lists valid nodes s') ?_ fun _ s' h' => Ends.modify ?_
  · refine (Ends.forAll (I := fun l s' => (∀ next ∈ l, next ∈ nodes) ∧ Ready lists valid nodes s')
      ?_ ⟨hlast, h⟩).mono fun _ _ h => h.2
    rintro next rest s' ⟨hmem, h'⟩
    refine (live_ready (hmem next (List.mem_cons_self ..)) h').bind fun _ _ h' => Ends.pure ?_
    exact ⟨fun a ha => hmem a (List.mem_cons_of_mem _ ha), h'⟩
  · refine ⟨h'.outcomes, ?_, h'.trapGroupValid, ?_, h'.live⟩
    · show Function.update s'.list l (s.list l ++ [node]) = _
      rw [h'.list, h.list]
    · intro l' next hnext
      by_cases he : l' = l
      · subst he
        rw [Function.update_self] at hnext
        rcases List.mem_append.mp hnext with hnext | hnext
        · exact h.linked _ next hnext
        · exact List.mem_singleton.mp hnext ▸ hnode
      · rw [Function.update_of_ne he] at hnext
        exact h.linked l' next hnext

/-- A loop over a configured list that makes calls only. -/
theorem forAll_ready {α : Type} {l : List α} {f : α → Exec Traps Unit}
    (turn : ∀ a s, Ready lists valid nodes s → Ends (f a) s fun _ s' => Ready lists valid nodes s')
    (h : Ready lists valid nodes s) :
    Ends (forAll l f) s fun _ s' => Ready lists valid nodes s' :=
  Ends.forAll (I := fun _ s => Ready lists valid nodes s) (fun a _ s h => turn a s h) h

end Traps

section

variable [Build] [TrapTables] {lists : TrapGroupList → List Nat} {valid : List (Nat → Bool)}
  {nodes : List Nat} {s : Traps}

/-! ## Registration -/

/-- The list `l` holds `n` more entries than in `lists`. -/
def Linked (l : TrapGroupList) (n : Nat) (lists : TrapGroupList → List Nat)
    (valid : List (Nat → Bool)) (s : Traps) : Prop :=
  ∃ new nodes, new.length = n ∧ Ready (Function.update lists l (lists l ++ new)) valid nodes s

omit [Build] [TrapTables] in
theorem Traps.Ready.linked_zero (l : TrapGroupList) (h : Ready lists valid nodes s) :
    Linked l 0 lists valid s := by
  refine ⟨[], nodes, rfl, ?_⟩
  rw [List.append_nil, Function.update_eq_self]
  exact h

omit [Build] [TrapTables] in
/-- A turn of a registration links one entry. -/
theorem Linked.turn {l : TrapGroupList} {n : Nat} {m : Exec Traps Unit}
    (turn : ∀ lists nodes s, Ready lists valid nodes s → Ends m s fun _ s' =>
      ∃ node nodes', Ready (Function.update lists l (lists l ++ [node])) valid nodes' s')
    (h : Linked l n lists valid s) : Ends m s fun _ s' => Linked l (n + 1) lists valid s' := by
  obtain ⟨new, nodes, hlen, h⟩ := h
  refine (turn _ _ s h).mono ?_
  rintro _ s' ⟨node, nodes', h⟩
  rw [Function.update_self, Function.update_idem, List.append_assoc] at h
  exact ⟨new ++ [node], nodes', by rw [List.length_append, hlen]; rfl, h⟩

omit [TrapTables] in
theorem trapsBind_ready (trapIds : List Int) (group : Nat) (isL3 isLog : Bool)
    (h : Ready lists valid nodes s) :
    Ends (trapsBind trapIds group isL3 isLog) s fun _ s' => Ready lists valid nodes s' := by
  refine forAll_ready (fun trapId s h => ?_) h
  refine (hwCall_ready _ h).bind fun _ _ ⟨hst, h⟩ => (logAbort_ready hst h).bind fun _ _ h => ?_
  refine (hwCall_ready _ h).bind fun _ _ ⟨hst, h⟩ => (logAbort_ready hst h).bind fun _ _ h => ?_
  exact hwCall_logAbort_ready _ _ h

theorem hostIntfTrapsRegisterGeneric_ready (h : Ready lists valid nodes s) :
    Ends hostIntfTrapsRegisterGeneric s fun _ s' =>
      Linked .sai trapGroupConfigTable.length lists valid s' := by
  refine (Ends.forAll (I := fun configs s => ∃ n, n + configs.length = trapGroupConfigTable.length ∧
    Linked .sai n lists valid s) ?_ ⟨0, Nat.zero_add _, h.linked_zero .sai⟩).mono ?_
  · rintro config configs s ⟨n, hn, h⟩
    rw [List.length_cons] at hn
    refine (h.turn fun lists nodes s h => ?_).mono fun _ s' h' => ⟨n + 1, by omega, h'⟩
    refine (xzalloc_ready h).bind fun node s h => ?_
    refine Ends.bind (Q := fun p s' => p.1 = 0 ∧ Ready lists valid (node :: nodes) s') ?_ ?_
    · refine (chooseFresh_ready _ h).bind fun policer s h => ?_
      exact (hwCall_ready _ h).bind fun _ _ ⟨hst, h⟩ => Ends.pure ⟨by rw [hst]; rfl, h⟩
    · rintro ⟨status, policer⟩ s ⟨hst, h⟩
      have hnode := List.mem_cons_self (a := node) (l := nodes)
      refine (logAbort_ready (by simp [show status = 0 from hst]) h).bind fun _ s h => ?_
      refine (chooseFresh_ready _ h).bind fun group s h => ?_
      refine (hwCall_ready _ h).bind fun _ _ ⟨hst, h⟩ => ?_
      refine (logAbort_ready hst h).bind fun _ s h => ?_
      refine (modifyEntry_ready _ hnode h).bind fun _ s h => ?_
      refine (trapsBind_ready _ _ _ _ h).bind fun _ s h => ?_
      exact (listPushBack_ready .sai hnode h).mono fun _ s' h => ⟨node, node :: nodes, h⟩
  · rintro _ s' ⟨n, hn, h⟩
    rw [List.length_nil, Nat.add_zero] at hn
    exact hn ▸ h

omit [Build] [TrapTables] in
theorem mlnxTrapsBind_ready (config : OpsSaiTrapGroupConfig) (groupId : Nat)
    (h : Ready lists valid nodes s) :
    Ends (mlnxTrapsBind config groupId) s fun _ s' => Ready lists valid nodes s' := by
  refine forAll_ready (fun trapId s h => ?_) h
  refine (hwCall_ready _ h).bind fun _ _ ⟨hst, h⟩ => (logAbort_ready hst h).bind fun _ _ h => ?_
  exact hwCall_logAbort_ready _ _ h

omit [Build] in
theorem mlnxTrapGroupRegister_ready (config : OpsSaiTrapGroupConfig) {groupId : Nat}
    (hfree : groupId < maxTrapGroups) (h : Ready lists valid nodes s) :
    Ends (mlnxTrapGroupRegister config groupId) s fun _ s' => ∃ node nodes',
      Ready (Function.update lists .mlnx (lists .mlnx ++ [node])) valid nodes' s' := by
  refine Ends.require_bind (decide_eq_true hfree) ?_
  refine (xzalloc_ready h).bind fun node s h => ?_
  have hnode := List.mem_cons_self (a := node) (l := nodes)
  refine (hwCall_ready _ h).bind fun _ _ ⟨hst, h⟩ => (logAbort_ready hst h).bind fun _ _ h => ?_
  refine (chooseFresh_ready _ h).bind fun policer s h => ?_
  refine (hwCall_ready _ h).bind fun _ _ ⟨hst, h⟩ => (logAbort_ready hst h).bind fun _ _ h => ?_
  refine (modifyEntry_ready _ hnode h).bind fun _ s h => ?_
  refine (hwCall_ready _ h).bind fun _ _ ⟨hst, h⟩ => (logAbort_ready hst h).bind fun _ _ h => ?_
  refine (mlnxTrapsBind_ready _ _ h).bind fun _ s h => ?_
  refine (listPushBack_ready .mlnx hnode h).bind fun _ s h => ?_
  exact (modifyEntry_ready _ hnode h).mono fun _ s' h => ⟨node, node :: nodes, h⟩

omit [Build] in
/-- Enough trap group numbers. -/
theorem mlnxTrapGroupsRegister_ready {configs : List OpsSaiTrapGroupConfig} {groupId n : Nat}
    (hfree : configs = [] ∨ groupId + configs.length ≤ maxTrapGroups)
    (h : Linked .mlnx n lists valid s) :
    Ends (mlnxTrapGroupsRegister configs groupId) s fun _ s' =>
      Linked .mlnx (n + configs.length) lists valid s' := by
  induction configs generalizing groupId n s with
  | nil => exact Ends.pure h
  | cons config configs ih =>
    have hfree := hfree.resolve_left (List.cons_ne_nil _ _)
    rw [List.length_cons] at hfree
    refine (h.turn fun lists nodes s h =>
      mlnxTrapGroupRegister_ready config (by omega) h).bind fun _ s h => ?_
    refine (ih (.inr (by omega)) h).mono fun _ s' h => ?_
    rw [List.length_cons, Nat.add_comm configs.length, ← Nat.add_assoc]
    exact h

omit [Build] in
/-- Registration stops at the first group number that is out of range. -/
theorem mlnxTrapGroupsRegister_ok {configs : List OpsSaiTrapGroupConfig} {groupId : Nat}
    {s' : Traps} (h : mlnxTrapGroupsRegister configs groupId s = .ok ((), s')) :
    configs = [] ∨ groupId + configs.length ≤ maxTrapGroups := by
  induction configs generalizing groupId s with
  | nil => exact .inl rfl
  | cons config configs ih =>
    obtain ⟨_, s₁, h₁, h⟩ := bind_ok.mp h
    have hfree := of_decide_eq_true (require_bind.mp h₁).1
    refine .inr ?_
    rcases ih h with rfl | hle
    · exact hfree
    · rw [List.length_cons]
      omega

/-- From the first trap group that SAI does not use there are enough for the configured ones. -/
def TrapGroupsSuffice (valid : List (Nat → Bool)) : Prop :=
  mlnxTrapGroupConfig = [] ∨
    firstFreeGroup (valid.headD fun _ => false) + mlnxTrapGroupConfig.length ≤ maxTrapGroups

/-- While every call succeeds and the trap groups suffice, registration completes and links an
entry for each configured group. -/
theorem hostIntfTrapsRegister_ready (hfree : TrapGroupsSuffice valid)
    (h : Ready lists valid nodes s) :
    Ends hostIntfTrapsRegister s fun _ s' => ∃ lists' nodes', Ready lists' valid.tail nodes' s' ∧
      (lists' .sai).length = (lists .sai).length + trapGroupConfigTable.length ∧
      (lists' .mlnx).length = (lists .mlnx).length + mlnxTrapGroupConfig.length := by
  refine (hostIntfTrapsRegisterGeneric_ready h).bind fun _ s h => Ends.gets_bind ?_
  obtain ⟨sai, nodes, hsai, h⟩ := h
  rw [h.trapGroupValid]
  refine (Ends.modify (Q := fun _ s' => Ready _ valid.tail nodes s')
    ⟨h.outcomes, h.list, congrArg List.tail h.trapGroupValid, h.linked, h.live⟩).bind ?_
  intro _ s h
  refine (mlnxTrapGroupsRegister_ready hfree (h.linked_zero .mlnx)).mono fun _ s' h => ?_
  obtain ⟨mlnx, nodes, hmlnx, h⟩ := h
  refine ⟨_, nodes, h, ?_, ?_⟩
  · rw [Function.update_of_ne (by decide), Function.update_self, List.length_append, hsai]
  · rw [Function.update_self, Function.update_of_ne (by decide), List.length_append, hmlnx,
      Nat.zero_add]

/-- Registration completes only while the trap groups suffice. -/
theorem hostIntfTrapsRegister_ok {s' : Traps} (h : Ready lists valid nodes s)
    (hr : hostIntfTrapsRegister s = .ok ((), s')) : TrapGroupsSuffice valid := by
  obtain ⟨_, s₁, h₁, hr⟩ := bind_ok.mp hr
  obtain ⟨_, _, -, h⟩ := (hostIntfTrapsRegisterGeneric_ready h).of_ok h₁
  rw [gets_bind, h.trapGroupValid] at hr
  exact mlnxTrapGroupsRegister_ok hr

/-! ## Unregistration -/

omit [Build] [TrapTables] in
theorem Traps.live_frame {α : Type} (f : Traps → α) (node : Nat) : Frame f (Traps.live node) :=
  (Rel.gets _).bind fun _ => Rel.need _ _

omit [Build] [TrapTables] in
theorem Traps.listRemove_outcomes (l : TrapGroupList) (node : Nat) :
    Frame (·.outcomes) (listRemove l node) :=
  (Rel.gets _).bind fun _ =>
    (Rel.forAll fun _ => (live_frame _ _).bind fun _ => Rel.pure _).bind fun _ =>
      Rel.modify fun _ => rfl

omit [Build] [TrapTables] in
/-- While every call succeeds, an entry on the generic list stops its unregistration: the success of
the policer removal is taken for its failure. -/
theorem hostintTrapsUnregisterGeneric_halts {s' : Traps} (hout : s.outcomes = [])
    (hne : s.list .sai ≠ []) : hostintTrapsUnregisterGeneric s ≠ .ok ((), s') := by
  intro hr
  unfold hostintTrapsUnregisterGeneric at hr
  rw [gets_bind] at hr
  cases hl : s.list .sai with
  | nil => exact hne hl
  | cons node rest =>
    rw [hl] at hr
    obtain ⟨_, _, hturn, -⟩ := bind_ok.mp hr
    obtain ⟨entry, s₁, h₁, hturn⟩ := bind_ok.mp hturn
    obtain ⟨_, s₂, h₂, hturn⟩ := bind_ok.mp hturn
    obtain ⟨status, s₃, h₃, hturn⟩ := bind_ok.mp hturn
    obtain ⟨_, s₄, h₄, -⟩ := bind_ok.mp hturn
    have hout : s₂.outcomes = [] :=
      (listRemove_outcomes _ _ _ _ _ h₂).trans ((live_frame _ _ _ _ _ h₁).trans hout)
    have hst : status = 0 := by
      unfold policerRemove at h₃
      rw [bind_of_ok (hwCall_of_outcomes _ hout)] at h₃
      cases h₃
      rfl
    rw [hst] at h₄
    exact absurd (require_ok.mp h₄).1 (by decide)

omit [Build] [TrapTables] in
theorem Traps.hwCall_list (call : TrapsHwCall) : Frame (·.list) (hwCall call) := by
  intro s status s' h
  unfold hwCall at h
  split at h <;> cases h <;> rfl

omit [Build] in
/-- The vendor's unregistration walks its list, and takes nothing off it. -/
theorem hostintTrapsUnregister_mlnx :
    Frame (fun s : Traps => s.list .mlnx) hostintTrapsUnregister := by
  have hcall := fun call => (hwCall_list call).comp (fun list => list .mlnx)
  have hgeneric : Frame (fun s : Traps => s.list .mlnx) hostintTrapsUnregisterGeneric := by
    refine (Rel.gets _).bind fun _ => Rel.forAll fun node => (live_frame _ _).bind fun _ => ?_
    refine Rel.bind (m := listRemove .sai node) ?_ fun _ => ?_
    · refine (Rel.gets _).bind fun _ => (Rel.forAll fun _ => ?_).bind fun _ =>
        Rel.modify fun s => ?_
      · exact (live_frame _ _).bind fun _ => Rel.pure _
      · exact setList_of_ne _ s (by decide)
    · refine Rel.bind ((hcall _).bind fun _ => Rel.pure _) fun _ => ?_
      refine (Rel.require _ _).bind fun _ => (hcall _).bind fun _ => ?_
      refine (Rel.require _ _).bind fun _ => ?_
      exact (live_frame _ _).bind fun _ => Rel.modify fun _ => rfl
  refine hgeneric.bind fun _ => (Rel.forAll fun _ => Rel.forAll fun _ => ?_).bind fun _ => ?_
  · exact (hcall _).bind fun _ => Rel.require _ _
  refine (Rel.gets _).bind fun _ => Rel.forAll fun node => (live_frame _ _).bind fun _ => ?_
  refine (hcall _).bind fun _ => (Rel.require _ _).bind fun _ => ?_
  refine (hcall _).bind fun _ => (Rel.require _ _).bind fun _ => ?_
  exact (live_frame _ _).bind fun _ => Rel.modify fun _ => rfl

/-! ## Turns -/

/-- Registration in the even turns, unregistration in the odd ones. -/
def trapsTurn (i : Nat) : Exec Traps Unit :=
  if i % 2 = 0 then hostIntfTrapsRegister else hostintTrapsUnregister

/-- The first `k` turns. -/
def trapsTurns : Nat → Exec Traps Unit
  | 0 => pure ()
  | k + 1 => do trapsTurns k; trapsTurn k

/-- The calls made between two states. -/
def Traps.callsSince (s₀ s : Traps) : List TrapsHwCall := s.calls.drop s₀.calls.length

/-- An unregistration, from `s₁` to `s₂`, undoes the registration from `s₀` to `s₁`. -/
structure TrapsUndone (s₀ s₁ s₂ : Traps) : Prop where
  lists : ∀ l, s₂.list l = []
  /-- What was created is removed exactly once. -/
  objects : ∀ object ∈ (s₀.callsSince s₁).filterMap (·.creates),
    ((s₁.callsSince s₂).filterMap (·.removes)).count object = 1
  freed : s₂.freedLinked = []

/-- The first `k` turns complete, and every unregistration among them undoes the registration
before it. -/
def TrapsBalance (k : Nat) (s : Traps) : Prop :=
  (∃ s', trapsTurns k s = .ok ((), s')) ∧
    ∀ i s₀ s₁ s₂, 2 * i + 2 ≤ k → trapsTurns (2 * i) s = .ok ((), s₀) →
      hostIntfTrapsRegister s₀ = .ok ((), s₁) → hostintTrapsUnregister s₁ = .ok ((), s₂) →
      TrapsUndone s₀ s₁ s₂

omit [Build] [TrapTables] in
theorem reset_ready (choices : List Nat) (valid : List (Nat → Bool)) :
    Ready (fun _ => []) valid [] (reset choices valid) :=
  ⟨rfl, rfl, rfl, fun _ _ h => h, fun _ h => absurd h List.not_mem_nil⟩

/-- The first registration completes when the trap groups suffice. -/
theorem trapsTurns_one (choices : List Nat) (valid : List (Nat → Bool)) :
    (∃ s', trapsTurns 1 (reset choices valid) = .ok ((), s')) ↔ TrapGroupsSuffice valid := by
  constructor
  · rintro ⟨s', h⟩
    exact hostIntfTrapsRegister_ok (reset_ready choices valid) h
  · intro h
    obtain ⟨_, s', hr, -⟩ := hostIntfTrapsRegister_ready h (reset_ready choices valid)
    exact ⟨s', hr⟩

/-- The first unregistration does not leave everything as it was before. -/
theorem not_trapsUndone {choices : List Nat} {valid : List (Nat → Bool)} {s₁ s₂ : Traps}
    (hne : trapGroupConfigTable ≠ [] ∨ mlnxTrapGroupConfig ≠ [])
    (h₁ : hostIntfTrapsRegister (reset choices valid) = .ok ((), s₁))
    (h₂ : hostintTrapsUnregister s₁ = .ok ((), s₂)) :
    ¬TrapsUndone (reset choices valid) s₁ s₂ := by
  intro h
  have hready := reset_ready choices valid
  obtain ⟨lists, nodes, hready, hsai, hmlnx⟩ :=
    (hostIntfTrapsRegister_ready (hostIntfTrapsRegister_ok hready h₁) hready).of_ok h₁
  rw [List.length_nil, Nat.zero_add] at hsai hmlnx
  rcases hne with hne | hne
  · obtain ⟨_, s, hr, -⟩ := bind_ok.mp h₂
    refine hostintTrapsUnregisterGeneric_halts hready.outcomes ?_ hr
    rw [hready.list]
    exact fun h => hne (List.length_eq_zero_iff.mp (hsai ▸ congrArg List.length h))
  · have hlist : s₁.list .mlnx = [] :=
      (hostintTrapsUnregister_mlnx s₁ () s₂ h₂).symm.trans (h.lists .mlnx)
    rw [hready.list] at hlist
    exact hne (List.length_eq_zero_iff.mp (hmlnx ▸ congrArg List.length hlist))

/-! ## Nothing configured -/

/-- Nothing is registered, and nothing ever was. -/
structure Traps.Idle (s : Traps) : Prop where
  list : ∀ l, s.list l = []
  calls : s.calls = []
  freedLinked : s.freedLinked = []

section

variable (hsai : trapGroupConfigTable = []) (hmlnx : mlnxTrapGroupConfig = [])
include hsai hmlnx

theorem hostIntfTrapsRegister_nil (s : Traps) :
    hostIntfTrapsRegister s = .ok ((), { s with trapGroupValid := s.trapGroupValid.tail }) := by
  unfold hostIntfTrapsRegister hostIntfTrapsRegisterGeneric
  rw [hsai, hmlnx]
  rfl

omit [Build] hsai in
theorem hostintTrapsUnregister_nil (h : s.Idle) : hostintTrapsUnregister s = .ok ((), s) := by
  unfold hostintTrapsUnregister hostintTrapsUnregisterGeneric
  have hwalk : ∀ l (f : Nat → Exec Traps Unit),
      (gets (fun s : Traps => s.list l) >>= fun nodes => forAll nodes f) s = .ok ((), s) := by
    intro l f
    rw [gets_bind, h.list]
    rfl
  rw [bind_of_ok (hwalk .sai _), hmlnx]
  exact hwalk .mlnx _

theorem trapsTurn_idle (i : Nat) (h : s.Idle) : Ends (trapsTurn i) s fun _ s' => s'.Idle := by
  unfold trapsTurn
  split
  · exact ⟨(), _, hostIntfTrapsRegister_nil hsai hmlnx s, h.list, h.calls, h.freedLinked⟩
  · exact ⟨(), s, hostintTrapsUnregister_nil hmlnx h, h⟩

theorem trapsTurns_idle (k : Nat) (h : s.Idle) : Ends (trapsTurns k) s fun _ s' => s'.Idle := by
  induction k with
  | zero => exact Ends.pure h
  | succ k ih => exact ih.bind fun _ _ h => trapsTurn_idle hsai hmlnx k h

theorem trapsBalance_nil (k : Nat) (h : s.Idle) : TrapsBalance k s := by
  obtain ⟨_, s', hr, -⟩ := trapsTurns_idle hsai hmlnx k h
  refine ⟨⟨s', hr⟩, ?_⟩
  intro i s₀ s₁ s₂ _ h₀ h₁ h₂
  have h₀ := (trapsTurns_idle hsai hmlnx _ h).of_ok h₀
  rw [hostIntfTrapsRegister_nil hsai hmlnx] at h₁
  cases h₁
  have h₁ : Traps.Idle { s₀ with trapGroupValid := s₀.trapGroupValid.tail } :=
    ⟨h₀.list, h₀.calls, h₀.freedLinked⟩
  rw [hostintTrapsUnregister_nil hmlnx h₁] at h₂
  cases h₂
  refine ⟨h₁.list, ?_, h₁.freedLinked⟩
  intro object hobject
  unfold callsSince at hobject
  rw [h₁.calls] at hobject
  simp at hobject

end

/-! ## The condition -/

theorem trapsTurns_le {k k' : Nat} {s' : Traps} (hle : k ≤ k')
    (h : trapsTurns k' s = .ok ((), s')) : ∃ s'', trapsTurns k s = .ok ((), s'') := by
  induction hle generalizing s' with
  | refl => exact ⟨s', h⟩
  | step _ ih =>
    obtain ⟨_, s₁, h₁, -⟩ := bind_ok.mp h
    exact ih h₁

/-- While every call succeeds, turns of registration and unregistration balance exactly in these
runs: the one without a turn, the one of a registration for which the trap groups suffice, and
every run while nothing is configured. -/
theorem trapsBalance_iff (choices : List Nat) (valid : List (Nat → Bool)) (k : Nat) :
    TrapsBalance k (reset choices valid) ↔
      k = 0 ∨ (k = 1 ∧ TrapGroupsSuffice valid) ∨
        (trapGroupConfigTable = [] ∧ mlnxTrapGroupConfig = []) := by
  constructor
  · rintro ⟨⟨s', hr⟩, hrounds⟩
    match k with
    | 0 => exact .inl rfl
    | 1 => exact .inr (.inl ⟨rfl, (trapsTurns_one choices valid).mp ⟨s', hr⟩⟩)
    | k + 2 =>
      refine .inr (.inr ?_)
      obtain ⟨s₂, hr⟩ := trapsTurns_le (k := 2) (by omega) hr
      obtain ⟨_, s₁, h₁, h₂⟩ := bind_ok.mp hr
      have hundone := hrounds 0 _ s₁ s₂ (by omega) rfl h₁ h₂
      by_contra hne
      exact not_trapsUndone (not_and_or.mp hne) h₁ h₂ hundone
  · rintro (rfl | ⟨rfl, h⟩ | ⟨hsai, hmlnx⟩)
    · exact ⟨⟨_, rfl⟩, fun i _ _ _ h => by omega⟩
    · exact ⟨(trapsTurns_one choices valid).mpr h, fun i _ _ _ h => by omega⟩
    · exact trapsBalance_nil hsai hmlnx k ⟨fun _ => rfl, rfl, rfl⟩

end

section

/-- The group of ARP and the vendor's group of IP2ME. -/
@[reducible] def sampleTrapTables : TrapTables where
  trapGroupConfigTable := [⟨[1, 2, 3], ⟨1000, 1000⟩, 2, true, true⟩]
  mlnxTrapGroupConfig := [⟨[4], ⟨5, 5⟩, 4, false, true⟩]
  maxTrapGroups := 64

attribute [local instance] sampleBuild sampleTrapTables

/-- The first unregistration aborts. -/
theorem trapsTurns_two_halts : ¬TrapsBalance 2 (reset [] []) := by
  rintro ⟨⟨s', hr⟩, -⟩
  have hnone : result (trapsTurns 2) (reset [] []) = none := by decide +kernel
  exact Option.some_ne_none () ((result_eq_some.mpr ⟨s', hr⟩).symm.trans hnone)

end

end SwitchdSai
