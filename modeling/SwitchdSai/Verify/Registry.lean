import SwitchdSai.Lib.Run
import SwitchdSai.Model.Registry

/-!
# The registry holds the live datapaths

The core allocates an ofproto, constructs it, destructs it only if it was constructed, and frees it.
`__construct` registers an ofproto before its virtual router is created, and does not take it back
when that fails. Until then the registry holds exactly the ofprotos that are live, and from then on
it does not.
-/

namespace SwitchdSai

open Exec Datapaths

/-- How far the core is with an ofproto. -/
inductive OfprotoPhase where
  | allocated
  | live
  | failed
  | destructed
  deriving DecidableEq, Repr

structure CoreState where
  datapaths : Datapaths
  phase : OfprotoPtr → Option OfprotoPhase

/-- The calls of the core. `answer` is what the SDK answers. -/
inductive CoreCall where
  | alloc (p : OfprotoPtr) (name : String) (type : OfprotoType)
  | construct (p : OfprotoPtr) (answer : SaiStatus × Nat)
  | destruct (p : OfprotoPtr) (answer : SaiStatus)
  | dealloc (p : OfprotoPtr)

def onDatapaths {α : Type} (m : Exec Datapaths α) : Exec CoreState α :=
  zoom CoreState.datapaths (fun d s => { s with datapaths := d }) m

def setPhase (p : OfprotoPtr) (phase : Option OfprotoPhase) : Exec CoreState Unit :=
  modify fun s => { s with phase := Function.update s.phase p phase }

namespace CoreCall

/-- The order in which the core makes its calls. An address is given out again only after the
ofproto at it has been freed. -/
def Allowed (s : CoreState) : CoreCall → Prop
  | alloc p _ _ => s.phase p = none
  | construct p _ => s.phase p = some .allocated
  | destruct p _ => s.phase p = some .live
  | dealloc p => s.phase p = some .failed ∨ s.phase p = some .destructed

def run : CoreCall → Exec CoreState Unit
  | alloc p name type => do
    onDatapaths (Datapaths.alloc p name type)
    setPhase p (some .allocated)
  | construct p answer => do
    let error ← onDatapaths (Datapaths.construct p answer)
    setPhase p (some (if error = 0 then .live else .failed))
  | destruct p answer => do
    onDatapaths (Datapaths.destruct p answer)
    setPhase p (some .destructed)
  | dealloc p => do
    onDatapaths (saiDealloc p)
    setPhase p none

/-- The call constructs a VRF whose virtual router cannot be created. -/
def FailsRouter (s : CoreState) (c : CoreCall) : Prop :=
  ∃ p answer entry, c = construct p answer ∧ s.datapaths.heap p = some entry ∧
    entry.type = .vrf ∧ answer.1 ≠ .success

end CoreCall

/-- The registry holds the live ofprotos, and their names can be listed by type. -/
structure RegistryExact (s : CoreState) : Prop where
  live : ∀ p, p ∈ s.datapaths.allOfprotoSai ↔ s.phase p = some .live
  names : ∀ type, ∃ names d, enumerateNames type s.datapaths = .ok (names, d) ∧
    ∀ name, name ∈ names ↔ ∃ p entry, s.phase p = some .live ∧
      s.datapaths.heap p = some entry ∧ entry.type.text = type ∧ entry.name = name

/-- While no virtual router has failed. -/
structure RegistryInv (s : CoreState) : Prop where
  live : ∀ p, p ∈ s.datapaths.allOfprotoSai ↔ s.phase p = some .live
  nodup : s.datapaths.allOfprotoSai.Nodup
  heap : ∀ p, (s.datapaths.heap p).isSome ↔ (s.phase p).isSome

def CoreState.empty : CoreState := ⟨⟨fun _ => none, []⟩, fun _ => none⟩

variable {s s' : CoreState} {d d' : Datapaths} {p : OfprotoPtr}

theorem RegistryInv.empty : RegistryInv .empty :=
  ⟨fun _ => by simp [CoreState.empty], List.nodup_nil, fun _ => by simp [CoreState.empty]⟩

/-! ## The names -/

theorem ofproto_of_heap {entry : OfprotoEntry} (h : d.heap p = some entry) :
    ofproto p d = .ok (entry, d) := by
  rw [ofproto, gets_bind, h]
  rfl

/-- The loop lists the names of the ofprotos that it reads, if they are all allocated. -/
theorem addNames_ok (type : String) {ps : List OfprotoPtr} (names : Finset String)
    (h : ∀ p ∈ ps, (d.heap p).isSome) :
    ∃ names', addNames type ps names d = .ok (names', d) ∧ ∀ name, name ∈ names' ↔
      name ∈ names ∨ ∃ p ∈ ps, ∃ entry, d.heap p = some entry ∧ entry.type.text = type ∧
        entry.name = name := by
  induction ps generalizing names with
  | nil => exact ⟨names, rfl, by simp⟩
  | cons p ps ih =>
    obtain ⟨entry, hentry⟩ := Option.isSome_iff_exists.mp (h p (List.mem_cons_self ..))
    obtain ⟨names', hrun, hnames'⟩ := ih
      (if type ≠ entry.type.text then names else insert entry.name names)
      fun p hp => h p (List.mem_cons_of_mem _ hp)
    refine ⟨names', (bind_of_ok (ofproto_of_heap hentry)).trans hrun, fun name => ?_⟩
    rw [hnames']
    simp only [List.exists_mem_cons_iff, hentry, Option.some.injEq, exists_eq_left']
    by_cases htype : type = entry.type.text
    · simp [htype, or_assoc, eq_comm, or_left_comm]
    · have hne : entry.type.text ≠ type := fun h => htype h.symm
      simp [htype, hne]

theorem RegistryInv.registryExact (hI : RegistryInv s) : RegistryExact s := by
  refine ⟨hI.live, fun type => ?_⟩
  have hread : ∀ p ∈ s.datapaths.allOfprotoSai, (s.datapaths.heap p).isSome := fun p hp => by
    rw [hI.heap, (hI.live p).mp hp]
    rfl
  obtain ⟨names, hrun, hnames⟩ := addNames_ok type ∅ hread
  refine ⟨names, _, hrun, fun name => (hnames name).trans ?_⟩
  simp only [Finset.notMem_empty, false_or, hI.live]
  constructor
  · rintro ⟨p, hp, entry, h⟩
    exact ⟨p, entry, hp, h⟩
  · rintro ⟨p, entry, hp, h⟩
    exact ⟨p, hp, entry, h⟩

/-! ## One call -/

/-- The ofproto at an address that the core uses. -/
theorem RegistryInv.entry {phase : OfprotoPhase} (hI : RegistryInv s)
    (hp : s.phase p = some phase) : ∃ entry, s.datapaths.heap p = some entry := by
  rw [← Option.isSome_iff_exists, hI.heap, hp]
  rfl

theorem hmapInsert_ok (hnew : p ∉ d.allOfprotoSai) :
    hmapInsert p d = .ok ((), { d with allOfprotoSai := p :: d.allOfprotoSai }) := by
  rw [hmapInsert, gets_bind]
  exact require_bind.mpr ⟨by simpa using hnew, rfl⟩

theorem hmapRemove_ok (hin : p ∈ d.allOfprotoSai) :
    hmapRemove p d = .ok ((), { d with allOfprotoSai := d.allOfprotoSai.erase p }) := by
  rw [hmapRemove, gets_bind]
  exact require_bind.mpr ⟨by simpa using hin, rfl⟩

/-- Creating the virtual router, which changes what is recorded of the ofproto only. -/
theorem routerCreate_ok {entry : OfprotoEntry} (answer : SaiStatus × Nat)
    (hentry : d.heap p = some entry) :
    ∃ d', routerCreate p answer d = .ok (sxError2Errno answer.1, d') ∧
      d'.allOfprotoSai = d.allOfprotoSai ∧ ∀ q, (d'.heap q).isSome ↔ (d.heap q).isSome := by
  unfold routerCreate
  by_cases h0 : answer.1 = .success
  · rw [if_pos h0]
    refine ⟨_, (bind_of_ok (ofproto_of_heap hentry)).trans rfl, rfl, fun q => ?_⟩
    by_cases hq : q = p
    · simp [hq, hentry]
    · simp [hq]
  · rw [if_neg h0]
    exact ⟨d, rfl, rfl, fun _ => Iff.rfl⟩

/-- Constructing an ofproto that is not in the registry. -/
theorem construct_ok {entry : OfprotoEntry} {answer : SaiStatus × Nat}
    (hentry : d.heap p = some entry) (hnew : p ∉ d.allOfprotoSai) :
    ∃ error d', construct p answer d = .ok (error, d') ∧ d'.allOfprotoSai = p :: d.allOfprotoSai ∧
      (∀ q, (d'.heap q).isSome ↔ (d.heap q).isSome) ∧
      (error = 0 ↔ ¬(entry.type = .vrf ∧ answer.1 ≠ .success)) := by
  have hstart : construct p answer d = _ :=
    (bind_of_ok (ofproto_of_heap hentry)).trans (bind_of_ok (hmapInsert_ok hnew))
  rw [hstart]
  cases htype : entry.type with
  | system =>
    rw [if_neg (by decide)]
    exact ⟨0, _, rfl, rfl, fun _ => Iff.rfl, by simp⟩
  | vrf =>
    rw [if_pos (show OfprotoType.vrf.text = SAI_INTERFACE_TYPE_VRF from rfl)]
    obtain ⟨d', hrun, hall, hheap⟩ :=
      routerCreate_ok (d := { d with allOfprotoSai := p :: d.allOfprotoSai }) answer hentry
    exact ⟨_, d', hrun, hall, hheap, by simp⟩

/-- Destructing an ofproto that is in the registry. -/
theorem destruct_ok {entry : OfprotoEntry} (answer : SaiStatus) (hentry : d.heap p = some entry)
    (hin : p ∈ d.allOfprotoSai) :
    destruct p answer d = .ok ((), { d with allOfprotoSai := d.allOfprotoSai.erase p }) := by
  have hstart : destruct p answer d = _ := bind_of_ok (ofproto_of_heap hentry)
  have hremove : routerRemove p answer d = .ok (sxError2Errno answer, d) :=
    bind_of_ok (ofproto_of_heap hentry)
  rw [hstart]
  split
  · exact (bind_of_ok hremove).trans (hmapRemove_ok hin)
  · exact hmapRemove_ok hin

theorem onDatapaths_of_ok {α : Type} {m : Exec Datapaths α} {a : α}
    (h : m s.datapaths = .ok (a, d')) :
    onDatapaths m s = .ok (a, { s with datapaths := d' }) := zoom_ok.mpr ⟨d', h, rfl⟩

/-- Only constructing an ofproto depends on a virtual router. -/
theorem CoreCall.failsRouter_construct {answer : SaiStatus × Nat} {entry : OfprotoEntry}
    (hentry : s.datapaths.heap p = some entry) :
    (CoreCall.construct p answer).FailsRouter s ↔ entry.type = .vrf ∧ answer.1 ≠ .success := by
  constructor
  · rintro ⟨p', answer', entry', heq, hentry', h⟩
    cases heq
    cases hentry.symm.trans hentry'
    exact h
  · exact fun h => ⟨p, answer, entry, rfl, hentry, h⟩

/-- What one allowed call does: it completes, and keeps the invariant unless a virtual router cannot
be created. -/
theorem CoreCall.run_step {c : CoreCall} (hI : RegistryInv s) (hok : c.Allowed s) :
    ∃ s', c.run s = .ok ((), s') ∧ (¬c.FailsRouter s → RegistryInv s') ∧
      (c.FailsRouter s → ¬RegistryExact s') := by
  cases c with
  | alloc p name type =>
    have hp : s.phase p = none := hok
    refine ⟨_, rfl, fun _ => ⟨fun q => ?_, hI.nodup, fun q => ?_⟩, ?_⟩
    · by_cases hq : q = p
      · simp [hq, hI.live, hp]
      · simp [hq, hI.live]
    · by_cases hq : q = p
      · simp [hq]
      · simp [hq, hI.heap]
    · rintro ⟨_, _, _, heq, -⟩
      cases heq
  | construct p answer =>
    have hp : s.phase p = some .allocated := hok
    obtain ⟨entry, hentry⟩ := hI.entry hp
    have hnew : p ∉ s.datapaths.allOfprotoSai := fun hin => by simp [(hI.live p).mp hin] at hp
    obtain ⟨error, d', hrun, hall, hheap, herror⟩ := construct_ok hentry hnew
    rw [CoreCall.failsRouter_construct hentry]
    refine ⟨_, (bind_of_ok (onDatapaths_of_ok hrun)).trans rfl, fun hnot => ?_, fun hfail h => ?_⟩
    · have h0 : error = 0 := herror.mpr hnot
      refine ⟨fun q => ?_, ?_, fun q => ?_⟩
      · by_cases hq : q = p
        · simp [hq, hall, h0]
        · simp [hq, hall, hI.live]
      · simpa [hall, hnew] using hI.nodup
      · by_cases hq : q = p
        · simp [hq, hheap, hentry]
        · simp [hq, hheap, hI.heap]
    · have h0 : error ≠ 0 := mt herror.mp (not_not.mpr hfail)
      have hlive := h.live p
      simp [hall, h0] at hlive
  | destruct p answer =>
    have hp : s.phase p = some .live := hok
    obtain ⟨entry, hentry⟩ := hI.entry hp
    have hrun := destruct_ok answer hentry ((hI.live p).mpr hp)
    refine ⟨_, (bind_of_ok (onDatapaths_of_ok hrun)).trans rfl, fun _ => ⟨fun q => ?_,
      hI.nodup.erase p, fun q => ?_⟩, ?_⟩
    · by_cases hq : q = p
      · simp [hq, hI.nodup.mem_erase_iff]
      · simp [hq, hI.nodup.mem_erase_iff, hI.live]
    · by_cases hq : q = p
      · simp [hq, hentry]
      · simp [hq, hI.heap]
    · rintro ⟨_, _, _, heq, -⟩
      cases heq
  | dealloc p =>
    have hp : s.phase p ≠ some .live := by
      rcases hok with hp | hp <;> simp [hp]
    refine ⟨_, rfl, fun _ => ⟨fun q => ?_, hI.nodup, fun q => ?_⟩, ?_⟩
    · by_cases hq : q = p
      · simp [hq, hI.live, hp]
      · simp [hq, hI.live]
    · by_cases hq : q = p
      · simp [hq]
      · simp [hq, hI.heap]
    · rintro ⟨_, _, _, heq, -⟩
      cases heq

/-! ## Runs -/

/-- **The registry holds exactly the live ofprotos as long as no virtual router fails.** -/
theorem registryExact_iff {es : List (Exec.Event CoreState CoreCall Unit)}
    (H : Trace CoreCall.run .empty es s) (legal : ∀ e ∈ es, e.call.Allowed e.before) :
    (∀ e ∈ es, RegistryExact e.after) ↔ ∀ e ∈ es, ¬e.call.FailsRouter e.before := by
  refine H.forall_iff (I := fun _ s => RegistryInv s)
    (L := fun es => ∀ e ∈ es, e.call.Allowed e.before)
    (fun e es h e' he' => h e' (List.mem_cons_of_mem _ he')) ?_ RegistryInv.empty legal
  rintro es ⟨before, c, _, after⟩ hI hlegal hrun
  obtain ⟨s', hrun', hkeeps, hfails⟩ :=
    CoreCall.run_step hI (hlegal _ (List.mem_cons_self ..))
  obtain rfl : s' = after := by
    have := hrun'.symm.trans hrun
    simpa using this
  refine ⟨fun hnot => ⟨(hkeeps hnot).registryExact, hkeeps hnot⟩, fun hexact hfail => ?_⟩
  exact hfails hfail hexact

/-- A VRF of which the virtual router is created is listed. -/
theorem registryExact_iff_created : ∃ es s, Trace CoreCall.run .empty es s ∧
    (∃ e ∈ es, e.call = .construct 1 (.success, 7)) ∧ ∀ e ∈ es, RegistryExact e.after := by
  have H := Trace.snoc (c := .construct 1 (.success, 7)) (.snoc (c := .alloc 1 "red" .vrf)
    (.nil : Trace CoreCall.run .empty [] .empty) rfl) rfl
  refine ⟨_, _, H, ⟨_, List.mem_cons_self .., rfl⟩, (registryExact_iff H ?_).mpr ?_⟩
  · rw [List.forall_mem_cons, List.forall_mem_singleton]
    exact ⟨rfl, rfl⟩
  · rw [List.forall_mem_cons, List.forall_mem_singleton]
    refine ⟨?_, ?_⟩
    · rintro ⟨_, _, _, heq, -, -, hne⟩
      cases heq
      exact hne rfl
    · rintro ⟨_, _, _, heq, -⟩
      cases heq

/-- A VRF of which the virtual router is not created stays in the registry when it is freed, and
listing the names reads it. -/
theorem registryExact_iff_failed : ∃ es s, Trace CoreCall.run .empty es s ∧
    (∀ e ∈ es, e.call.Allowed e.before) ∧ (¬∀ e ∈ es, RegistryExact e.after) ∧
    enumerateNames SAI_INTERFACE_TYPE_VRF s.datapaths = .error (.undefined "ofproto") := by
  have H := Trace.snoc (c := .dealloc 1) (.snoc (c := .construct 1 (.failure, 0))
    (.snoc (c := .alloc 1 "red" .vrf) (.nil : Trace CoreCall.run .empty [] .empty) rfl) rfl)
    rfl
  refine ⟨_, _, H, ?_, fun hexact => ?_, rfl⟩
  · rw [List.forall_mem_cons, List.forall_mem_cons, List.forall_mem_singleton]
    exact ⟨.inl rfl, rfl, rfl⟩
  · -- freed, and still in the table
    have hlive := (hexact _ (List.mem_cons_self ..)).live 1
    revert hlive
    decide

end SwitchdSai
