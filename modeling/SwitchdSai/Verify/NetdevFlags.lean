import SwitchdSai.Verify.PortConfig
import SwitchdSai.Verify.Success

/-!
# Reported flags

`update_flags` reports the flags before the call through `*old_flagsp`. The class `system` ors
`NETDEV_UP` into what is there, and the class `internal` writes it only when the interface is up, so
that both leave a part of what the caller had there. Two runs that differ only in that report the
flags of the interface exactly if what they leave is right by chance (`updateFlags_runs`).
-/

namespace SwitchdSai

open Exec NetdevSys

/-- The flags of an interface. -/
def adminFlags (up : Bool) : BitVec 32 := if up then NETDEV_UP else 0

/-- What `update_flags` of a class leaves of `oldFlags`, the contents of `*old_flagsp`. -/
def leftFlags (type : NetdevType) (up : Bool) (oldFlags : BitVec 32) : BitVec 32 :=
  if type = .system then oldFlags ||| adminFlags up else if up then NETDEV_UP else oldFlags

/-- The admin state of a netdev: that of its port, or the one it keeps itself. -/
def NetdevSys.adminUp (s : NetdevSys) (name : String) : Bool :=
  (s.netdevs name).any fun dev =>
    if dev.type = .system then (s.hw.labelPort dev.hwId).adminState
    else dev.netdevInternalAdminState

/-- The netdev is initialized and of this class, and every call to come succeeds. -/
structure NetdevSys.Ready (s : NetdevSys) (name : String) (type : NetdevType) : Prop where
  netdev : ∃ dev, s.netdevs name = some dev ∧ dev.isPortInitialized = true ∧ dev.type = type
  willing : s.hw.Willing

/-! ## The hardware -/

section
variable {hw : Hw} {hwId : Nat} {attr : SaiPortAttr} {changed : Bool}

theorem Hw.Willing.call_run {effect : Hw → Hw} (hwill : hw.Willing) :
    Hw.call effect hw = .ok (.success, effect hw.tick) := by
  have hout : hw.nextOutcome = .success := Hw.accepts_zero.mp (hwill.accepts 0)
  unfold Hw.call Hw.callIf
  rw [if_pos hout, if_pos rfl]

theorem Hw.Willing.tick (hwill : hw.Willing) : hw.tick = hw := by
  unfold Hw.tick
  rw [show hw.outcomes = [] from hwill]
  cases hw
  cases hwill
  rfl

theorem setHwIdAttr_ends (hwId : Nat) (attr : SaiPortAttr) (hwill : hw.Willing) :
    Ends (setHwIdAttr hwId attr) hw fun st hw' => st = 0 ∧ hw'.Willing := by
  refine ⟨0, Hw.setPort (hw.opsSaiApiHwId2PortId hwId) attr.set hw.tick, ?_, rfl, ?_⟩
  · rw [setHwIdAttr, gets_bind]
    exact bind_of_ok hwill.call_run
  · rw [hwill.tick]
    exact hwill

theorem getPortAttribute_run {α : Type} {portId : Nat} {get : HwPort → α} (hwill : hw.Willing) :
    getPortAttribute portId get hw = .ok ((.success, get (hw.ports portId)), hw) := by
  unfold getPortAttribute
  rw [bind_of_ok hwill.call_run, hwill.tick]
  rfl

theorem setIfChanged_ends (hwill : hw.Willing) :
    Ends (setIfChanged changed hwId attr) hw fun st hw' => st = 0 ∧ hw'.Willing := by
  cases changed with
  | true => exact setHwIdAttr_ends _ _ hwill
  | false => exact Ends.pure ⟨rfl, hwill⟩

theorem setMtuIfChanged_ends {mtu : BitVec 32} (hwill : hw.Willing) :
    Ends (setMtuIfChanged changed hwId mtu) hw fun st hw' => st = 0 ∧ hw'.Willing := by
  cases changed with
  | true =>
    refine Ends.bind (setHwIdAttr_ends _ _ hwill) ?_
    rintro _ hw' ⟨rfl, hwill'⟩
    exact Ends.pure ⟨rfl, hwill'⟩
  | false => exact Ends.pure ⟨rfl, hwill⟩

variable [Build]

theorem opsSaiPortConfigSet_ends (hwId : Nat) (new old : OpsSaiPortConfig) (hwill : hw.Willing) :
    Ends (opsSaiPortConfigSet hwId new old) hw fun r hw' => r = (0, new) ∧ hw'.Willing := by
  refine Ends.bind (Ends.thenOk (Ends.thenOk (setIfChanged_ends hwill) fun _ h =>
    Ends.thenOk (setIfChanged_ends h) fun _ h => Ends.thenOk (setMtuIfChanged_ends h) fun _ h =>
      setIfChanged_ends h) fun _ h => setIfChanged_ends h) ?_
  rintro _ hw' ⟨rfl, hwill'⟩
  exact Ends.pure ⟨rfl, hwill'⟩

omit [Build] in
/-- The port is left the same whatever was in `*old_flagsp`. -/
theorem opsSaiPortFlagsUpdate_run (hwId : Nat) (off on : BitVec 32) (hwill : hw.Willing) :
    ∃ hw', hw'.Willing ∧ ∀ oldFlags, opsSaiPortFlagsUpdate hwId off on oldFlags hw =
      .ok ((0, oldFlags ||| adminFlags (hw.labelPort hwId).adminState), hw') := by
  have hflags : ∀ (up : Bool) (oldFlags : BitVec 32),
      (if up then oldFlags ||| NETDEV_UP else oldFlags) = oldFlags ||| adminFlags up := by
    intro up oldFlags
    cases up with
    | true => rfl
    | false => exact (BitVec.or_zero ..).symm
  have hread : ∀ oldFlags, opsSaiPortFlagsUpdate hwId off on oldFlags hw =
      (if on &&& NETDEV_UP ≠ 0 then do
        return (← setHwIdAttr hwId (.adminState true),
          oldFlags ||| adminFlags (hw.labelPort hwId).adminState)
      else if off &&& NETDEV_UP ≠ 0 then do
        return (← setHwIdAttr hwId (.adminState false),
          oldFlags ||| adminFlags (hw.labelPort hwId).adminState)
      else return (0, oldFlags ||| adminFlags (hw.labelPort hwId).adminState)) hw := by
    intro oldFlags
    unfold opsSaiPortFlagsUpdate
    rw [gets_bind, bind_of_ok (getPortAttribute_run hwill)]
    dsimp only
    rw [if_neg (not_not_intro rfl), hflags]
    rfl
  have hset : ∀ up, ∃ hw', hw'.Willing ∧
      setHwIdAttr hwId (.adminState up) hw = .ok (0, hw') := by
    intro up
    obtain ⟨_, hw', hset, rfl, hwill'⟩ := setHwIdAttr_ends hwId (.adminState up) hwill
    exact ⟨hw', hwill', hset⟩
  by_cases hon : on &&& NETDEV_UP ≠ 0
  · obtain ⟨hw', hwill', hset⟩ := hset true
    refine ⟨hw', hwill', fun oldFlags => ?_⟩
    rw [hread, if_pos hon, bind_of_ok hset]
    rfl
  by_cases hoff : off &&& NETDEV_UP ≠ 0
  · obtain ⟨hw', hwill', hset⟩ := hset false
    refine ⟨hw', hwill', fun oldFlags => ?_⟩
    rw [hread, if_neg hon, if_pos hoff, bind_of_ok hset]
    rfl
  · refine ⟨hw, hwill, fun oldFlags => ?_⟩
    rw [hread, if_neg hon, if_neg hoff]
    rfl

end

/-! ## One call -/

section
variable {s : NetdevSys} {name : String} {type : NetdevType} {off on : BitVec 32} {dev : NetdevSai}

/-- A change of the netdev that leaves its class and that it is initialized. -/
theorem NetdevSys.Ready.mapNetdev {f : NetdevSai → NetdevSai} (h : s.Ready name type)
    (hf : ∀ dev, (f dev).isPortInitialized = dev.isPortInitialized ∧ (f dev).type = dev.type) :
    (s.mapNetdev name f).Ready name type := by
  obtain ⟨⟨dev, hdev, hinit, htype⟩, hwill⟩ := h
  obtain ⟨hinit', htype'⟩ := hf dev
  exact ⟨⟨f dev, mapNetdev_some hdev, hinit'.trans hinit, htype'.trans htype⟩, hwill⟩

theorem NetdevSys.Ready.setHw {hw : Hw} (h : s.Ready name type) (hwill : hw.Willing) :
    NetdevSys.Ready { s with hw := hw } name type := ⟨h.netdev, hwill⟩

theorem NetdevSys.adminUp_eq (hdev : s.netdevs name = some dev) : s.adminUp name =
    if dev.type = .system then (s.hw.labelPort dev.hwId).adminState
    else dev.netdevInternalAdminState := by
  unfold NetdevSys.adminUp
  rw [hdev, Option.any_some]

theorem updateFlags_run (off on : BitVec 32) (h : s.Ready name .system) :
    ∃ s', s'.Ready name .system ∧ ∀ oldFlags, updateFlags name off on oldFlags s =
      .ok ((0, oldFlags ||| adminFlags (s.adminUp name)), s') := by
  obtain ⟨⟨dev, hdev, hinit, htype⟩, hwill⟩ := id h
  obtain ⟨hw', hwill', hrun⟩ := opsSaiPortFlagsUpdate_run dev.hwId off on hwill
  refine ⟨{ s with hw := hw' }, h.setHw hwill', fun oldFlags => ?_⟩
  refine netdev_bind.mpr ⟨dev, hdev, ?_⟩
  rw [if_pos hinit, adminUp_eq hdev, if_pos htype]
  exact onHw_ok.mpr ⟨hw', hrun oldFlags, rfl⟩

theorem updateFlagsInternal_run (off on : BitVec 32) (h : s.Ready name .internal) :
    ∃ s', s'.Ready name .internal ∧ ∀ oldFlags, updateFlagsInternal name off on oldFlags s =
      .ok ((0, if s.adminUp name then NETDEV_UP else oldFlags), s') := by
  obtain ⟨⟨dev, hdev, hinit, htype⟩, hwill⟩ := id h
  have hup : s.adminUp name = dev.netdevInternalAdminState := by
    rw [adminUp_eq hdev, htype]
    rfl
  have hread : ∀ oldFlags, updateFlagsInternal name off on oldFlags s =
      (if on &&& NETDEV_UP ≠ 0 then do
        modifyNetdev name fun netdev => { netdev with netdevInternalAdminState := true }
        return (0, if s.adminUp name then NETDEV_UP else oldFlags)
      else if off &&& NETDEV_UP ≠ 0 then do
        modifyNetdev name fun netdev => { netdev with netdevInternalAdminState := false }
        return (0, if s.adminUp name then NETDEV_UP else oldFlags)
      else return (0, if s.adminUp name then NETDEV_UP else oldFlags)) s := by
    intro oldFlags
    refine (bind_of_ok (netdev_ok.mpr ⟨hdev, rfl⟩)).trans ?_
    rw [hinit, hup]
    rfl
  by_cases hon : on &&& NETDEV_UP ≠ 0
  · refine ⟨s.mapNetdev name fun netdev => { netdev with netdevInternalAdminState := true },
      h.mapNetdev fun _ => ⟨rfl, rfl⟩, fun oldFlags => ?_⟩
    rw [hread, if_pos hon]
    rfl
  by_cases hoff : off &&& NETDEV_UP ≠ 0
  · refine ⟨s.mapNetdev name fun netdev => { netdev with netdevInternalAdminState := false },
      h.mapNetdev fun _ => ⟨rfl, rfl⟩, fun oldFlags => ?_⟩
    rw [hread, if_neg hon, if_pos hoff]
    rfl
  · refine ⟨s, h, fun oldFlags => ?_⟩
    rw [hread, if_neg hon, if_neg hoff]
    rfl

/-- A call of `update_flags` does the same whatever is in `*old_flagsp`, but for what it leaves
there. -/
theorem netdevUpdateFlags_run (off on : BitVec 32) (h : s.Ready name type)
    (htype : type = .system ∨ type = .internal) :
    ∃ s', s'.Ready name type ∧ ∀ oldFlags, netdevUpdateFlags name off on oldFlags s =
      .ok ((0, leftFlags type (s.adminUp name) oldFlags), s') := by
  obtain ⟨dev, hdev, -, hclass⟩ := h.netdev
  rcases htype with rfl | rfl
  · obtain ⟨s', hready, hrun⟩ := updateFlags_run off on h
    refine ⟨s', hready, fun oldFlags => netdev_bind.mpr ⟨dev, hdev, ?_⟩⟩
    rw [hclass]
    exact hrun oldFlags
  · obtain ⟨s', hready, hrun⟩ := updateFlagsInternal_run off on h
    refine ⟨s', hready, fun oldFlags => netdev_bind.mpr ⟨dev, hdev, ?_⟩⟩
    rw [hclass]
    exact hrun oldFlags

variable [OvsLib] [OpenswitchIdl] [Build] {args : Smap}

theorem setHwIntfConfig_ends (h : s.Ready name type) :
    Ends (setHwIntfConfig name args) s fun _ s' => s'.Ready name type := by
  obtain ⟨dev, hdev, -, -⟩ := h.netdev
  obtain ⟨⟨st, conf⟩, hw', hrun, -, hwill⟩ := opsSaiPortConfigSet_ends dev.hwId
    (hwIntfConfig args dev.defaultConfig) dev.config h.willing
  refine ⟨st, NetdevSys.mapNetdev name (fun dev => { dev with config := conf })
    { s with hw := hw' }, netdev_bind.mpr ⟨dev, hdev, ?_⟩, ?_⟩
  · exact (bind_of_ok (onHw_ok.mpr ⟨hw', hrun, rfl⟩)).trans rfl
  · exact (h.setHw hwill).mapNetdev fun _ => ⟨rfl, rfl⟩

omit [OvsLib] [Build] in
theorem setHwIntfConfigInternal_ends (h : s.Ready name type) :
    Ends (setHwIntfConfigInternal name args) s fun _ s' => s'.Ready name type := by
  obtain ⟨dev, hdev, -, -⟩ := h.netdev
  unfold setHwIntfConfigInternal
  cases args .enable with
  | none => exact Ends.pure h
  | some enable =>
    refine ⟨0, _, netdev_bind.mpr ⟨dev, hdev, rfl⟩, ?_⟩
    exact h.mapNetdev fun _ => ⟨rfl, rfl⟩

theorem netdevSetHwIntfConfig_ends (args : Smap) (h : s.Ready name type)
    (htype : type = .system ∨ type = .internal) :
    Ends (netdevSetHwIntfConfig name args) s fun _ s' => s'.Ready name type := by
  obtain ⟨dev, hdev, -, hclass⟩ := h.netdev
  have hread : Ends (netdev name) s fun dev' s' => dev' = dev ∧ s' = s :=
    ⟨dev, s, netdev_ok.mpr ⟨hdev, rfl⟩, rfl, rfl⟩
  refine hread.bind ?_
  rintro _ _ ⟨rfl, rfl⟩
  rw [hclass]
  rcases htype with rfl | rfl
  · exact setHwIntfConfig_ends h
  · exact setHwIntfConfigInternal_ends h

end

/-! ## Two runs -/

/-- The calls that read or set the admin state, with what `*old_flagsp` holds before the call. -/
inductive FlagsCall where
  | updateFlags (off on oldFlags : BitVec 32)
  | setHwIntfConfig (args : Smap)

namespace FlagsCall

/-- The call without the contents of `*old_flagsp`. -/
def forget : FlagsCall → FlagsCall
  | .updateFlags off on _ => .updateFlags off on 0
  | .setHwIntfConfig args => .setHwIntfConfig args

/-- The flags the call should report. -/
def expected (up : Bool) : FlagsCall → Option (BitVec 32)
  | .updateFlags _ _ _ => some (adminFlags up)
  | .setHwIntfConfig _ => none

/-- The flags the call does report. -/
def reported (type : NetdevType) (up : Bool) : FlagsCall → Option (BitVec 32)
  | .updateFlags _ _ oldFlags => some (leftFlags type up oldFlags)
  | .setHwIntfConfig _ => none

/-- What the call leaves of `*old_flagsp` is right: there is nothing, or the interface is up and
what is there is overwritten or the very flag. -/
def Harmless (type : NetdevType) (up : Bool) : FlagsCall → Prop
  | .updateFlags _ _ oldFlags =>
    oldFlags = 0 ∨ up = true ∧ (type = .internal ∨ oldFlags = NETDEV_UP)
  | .setHwIntfConfig _ => True

theorem expected_forget (up : Bool) (c : FlagsCall) : c.forget.expected up = c.expected up := by
  cases c <;> rfl

theorem or_netdevUp_eq_iff {oldFlags : BitVec 32} :
    oldFlags ||| NETDEV_UP = NETDEV_UP ↔ oldFlags = 0 ∨ oldFlags = NETDEV_UP := by
  constructor
  · intro h
    have hor : oldFlags.toNat ||| 1 = 1 := by
      rw [← show NETDEV_UP.toNat = 1 from rfl, ← BitVec.toNat_or, h]
    have hle : oldFlags.toNat ≤ 1 := hor ▸ Nat.left_le_or
    rcases Nat.le_one_iff_eq_zero_or_eq_one.mp hle with h0 | h1
    · exact .inl (BitVec.eq_of_toNat_eq h0)
    · exact .inr (BitVec.eq_of_toNat_eq h1)
  · rintro (rfl | rfl) <;> decide

theorem leftFlags_eq_iff {type : NetdevType} {up : Bool} {oldFlags : BitVec 32}
    (htype : type = .system ∨ type = .internal) : leftFlags type up oldFlags = adminFlags up ↔
      oldFlags = 0 ∨ up = true ∧ (type = .internal ∨ oldFlags = NETDEV_UP) := by
  rcases htype with rfl | rfl
  · cases up with
    | false => simp [leftFlags, adminFlags]
    | true => simpa [leftFlags, adminFlags] using or_netdevUp_eq_iff
  · cases up <;> simp [leftFlags, adminFlags]

theorem reported_eq_iff {type : NetdevType} {up : Bool} {c : FlagsCall}
    (htype : type = .system ∨ type = .internal) :
    c.reported type up = c.expected up ↔ c.Harmless type up := by
  cases c with
  | updateFlags off on oldFlags => exact Option.some_inj.trans (leftFlags_eq_iff htype)
  | setHwIntfConfig args => exact iff_of_true rfl trivial

variable [OvsLib] [OpenswitchIdl] [Build]

/-- A call through the class of the netdev, with its status and the flags it reports. -/
def run (name : String) : FlagsCall → Exec NetdevSys (Int × Option (BitVec 32))
  | .updateFlags off on oldFlags => do
    let (status, flags) ← netdevUpdateFlags name off on oldFlags
    return (status, some flags)
  | .setHwIntfConfig args => do
    let status ← netdevSetHwIntfConfig name args
    return (status, none)

variable {s : NetdevSys} {name : String} {type : NetdevType}

/-- What a call does, apart from what it reports, does not depend on `*old_flagsp`. -/
theorem run_spec (h : s.Ready name type) (htype : type = .system ∨ type = .internal)
    (c : FlagsCall) : ∃ st s', s'.Ready name type ∧ ∀ c' : FlagsCall, c'.forget = c.forget →
      c'.run name s = .ok ((st, c'.reported type (s.adminUp name)), s') := by
  cases c with
  | updateFlags off on oldFlags =>
    obtain ⟨s', hready, hrun⟩ := netdevUpdateFlags_run off on h htype
    refine ⟨0, s', hready, fun c' hc' => ?_⟩
    cases c' with
    | updateFlags off' on' oldFlags' =>
      cases hc'
      exact (bind_of_ok (hrun oldFlags')).trans rfl
    | setHwIntfConfig args => cases hc'
  | setHwIntfConfig args =>
    obtain ⟨st, s', hrun, hready⟩ := netdevSetHwIntfConfig_ends args h htype
    refine ⟨st, s', hready, fun c' hc' => ?_⟩
    cases c' with
    | updateFlags off on oldFlags => cases hc'
    | setHwIntfConfig args' =>
      cases hc'
      exact (bind_of_ok hrun).trans rfl

theorem of_run {st : Int} {flags : Option (BitVec 32)} {s' : NetdevSys} {c : FlagsCall}
    (h : s.Ready name type) (htype : type = .system ∨ type = .internal)
    (hrun : c.run name s = .ok ((st, flags), s')) :
    s'.Ready name type ∧ flags = c.reported type (s.adminUp name) := by
  obtain ⟨st', s₁, hready, hspec⟩ := run_spec h htype c
  cases (hspec c rfl).symm.trans hrun
  exact ⟨hready, rfl⟩

end FlagsCall

section
variable [OvsLib] [OpenswitchIdl] [Build] {s₀ s s' : NetdevSys} {name : String}
  {type : NetdevType} {es es' : List (Event NetdevSys FlagsCall (Int × Option (BitVec 32)))}

/-- A call reports the flags of the interface just before it. -/
def ReportsFlags (name : String) (e : Event NetdevSys FlagsCall (Int × Option (BitVec 32))) :
    Prop := e.result.2 = e.call.expected (e.before.adminUp name)

/-- A call finds something harmless in `*old_flagsp`. -/
def FindsHarmless (name : String) (type : NetdevType)
    (e : Event NetdevSys FlagsCall (Int × Option (BitVec 32))) : Prop :=
  e.call.Harmless type (e.before.adminUp name)

/-- Every call completes, in every order. -/
theorem flagsCalls_complete (h : s₀.Ready name type) (htype : type = .system ∨ type = .internal)
    (calls : List FlagsCall) : ∃ es s, Trace (FlagsCall.run name) s₀ es s ∧
      s.Ready name type ∧ es.map (·.call) = calls := by
  induction calls with
  | nil => exact ⟨[], s₀, .nil, h, rfl⟩
  | cons c calls ih =>
    obtain ⟨es, s, H, hready, hcalls⟩ := ih
    obtain ⟨st, s', hready', hrun⟩ := FlagsCall.run_spec hready htype c
    exact ⟨_, s', H.snoc (hrun c rfl), hready', congrArg (c :: ·) hcalls⟩

/-- In a run every call reports the flags exactly if it finds something harmless. -/
theorem reportsFlags_iff (h : s₀.Ready name type) (htype : type = .system ∨ type = .internal)
    (H : Trace (FlagsCall.run name) s₀ es s) :
    s.Ready name type ∧ ∀ e ∈ es, ReportsFlags name e ↔ FindsHarmless name type e := by
  induction H with
  | nil => exact ⟨h, fun _ he => absurd he List.not_mem_nil⟩
  | snoc _ hc ih =>
    obtain ⟨hready, hes⟩ := ih
    obtain ⟨hready', hflags⟩ := FlagsCall.of_run hready htype hc
    refine ⟨hready', List.forall_mem_cons.mpr ⟨?_, hes⟩⟩
    unfold ReportsFlags FindsHarmless
    rw [hflags]
    exact FlagsCall.reported_eq_iff htype

/-- Runs that differ only in the contents of `*old_flagsp` pass the same states. -/
theorem flagsCalls_lockstep (h : s₀.Ready name type) (htype : type = .system ∨ type = .internal)
    (H : Trace (FlagsCall.run name) s₀ es s) (H' : Trace (FlagsCall.run name) s₀ es' s')
    (hsame : es.map (·.call.forget) = es'.map (·.call.forget)) :
    s = s' ∧ es.map (fun e => (e.before, e.call.forget)) =
      es'.map (fun e => (e.before, e.call.forget)) := by
  induction H generalizing es' s' with
  | nil =>
    cases H' with
    | nil => exact ⟨rfl, rfl⟩
    | snoc _ _ => cases hsame
  | @snoc _ _ c _ _ H hc ih =>
    cases H' with
    | nil => cases hsame
    | @snoc _ _ c' _ _ H' hc' =>
      obtain ⟨hcall, hcalls⟩ := List.cons.inj hsame
      obtain ⟨rfl, hbefore⟩ := ih H' hcalls
      obtain ⟨st, s₁, -, hspec⟩ := FlagsCall.run_spec (reportsFlags_iff h htype H).1 htype c
      cases (hspec c rfl).symm.trans hc
      cases (hspec c' hcall.symm).symm.trans hc'
      rw [List.map_cons, List.map_cons, hbefore]
      exact ⟨rfl, congrArg (· :: _) (congrArg _ hcall)⟩

omit [OvsLib] [OpenswitchIdl] [Build] in
/-- What is reported is given by the states that are passed and the calls without `*old_flagsp`. -/
theorem map_reports (h : ∀ e ∈ es, ReportsFlags name e) : es.map (·.result.2) =
    (es.map fun e => (e.before, e.call.forget)).map fun p => p.2.expected (p.1.adminUp name) := by
  rw [List.map_map]
  refine List.map_congr_left fun e he => ?_
  exact (h e he).trans (FlagsCall.expected_forget _ _).symm

/-- Every sequence of calls completes, and two runs that differ only in the contents of
`*old_flagsp` before each call both report the flags of the interface exactly if every call finds
something harmless there. -/
theorem updateFlags_runs (h : s₀.Ready name type) (htype : type = .system ∨ type = .internal) :
    (∀ calls : List FlagsCall, ∃ es s, Trace (FlagsCall.run name) s₀ es s ∧
      es.map (·.call) = calls) ∧
    ∀ es es' s s', Trace (FlagsCall.run name) s₀ es s → Trace (FlagsCall.run name) s₀ es' s' →
      es.map (·.call.forget) = es'.map (·.call.forget) →
      ((∀ e ∈ es ++ es', ReportsFlags name e) ∧ es.map (·.result.2) = es'.map (·.result.2) ↔
        ∀ e ∈ es ++ es', FindsHarmless name type e) := by
  constructor
  · intro calls
    obtain ⟨es, s, H, -, hcalls⟩ := flagsCalls_complete h htype calls
    exact ⟨es, s, H, hcalls⟩
  · intro es es' s s' H H' hsame
    have hiff : ∀ e ∈ es ++ es', ReportsFlags name e ↔ FindsHarmless name type e :=
      List.forall_mem_append.mpr ⟨(reportsFlags_iff h htype H).2, (reportsFlags_iff h htype H').2⟩
    constructor
    · rintro ⟨hreports, -⟩ e he
      exact (hiff e he).mp (hreports e he)
    · intro hharmless
      have hreports : ∀ e ∈ es ++ es', ReportsFlags name e := fun e he =>
        (hiff e he).mpr (hharmless e he)
      obtain ⟨hes, hes'⟩ := List.forall_mem_append.mp hreports
      refine ⟨hreports, ?_⟩
      rw [map_reports hes, map_reports hes', (flagsCalls_lockstep h htype H H' hsame).2]

end

/-! ## A port that is down -/

section
attribute [local instance] sampleOvs sampleIdl sampleBuild

/-- The initialized system netdev 1. -/
def readyNetdev : NetdevSys :=
  newNetdev.mapNetdev "1" fun dev => { dev with isPortInitialized := true }

theorem readyNetdev_ready : readyNetdev.Ready "1" .system :=
  ⟨⟨_, rfl, rfl, rfl⟩, rfl⟩

/-- The port is put up and then read with 0 and with `NETDEV_UP` in `*old_flagsp`. -/
theorem updateFlags_runs_up : ∃ es es' s s',
    Trace (FlagsCall.run "1") readyNetdev es s ∧ Trace (FlagsCall.run "1") readyNetdev es' s' ∧
      es.map (·.call) = [.updateFlags 0 0 0, .updateFlags 0 NETDEV_UP 0] ∧
      es'.map (·.call) = [.updateFlags 0 0 NETDEV_UP, .updateFlags 0 NETDEV_UP 0] ∧
      es.map (·.result.2) = es'.map (·.result.2) := by
  obtain ⟨s₂, hrun⟩ := result_eq_some.mp (show result (do
    let _ ← FlagsCall.run "1" (.updateFlags 0 NETDEV_UP 0)
    gets fun s => s.adminUp "1") readyNetdev = some true by decide)
  obtain ⟨r, s₁, h₁, hup⟩ := bind_ok.mp hrun
  obtain ⟨hup, -⟩ := Prod.mk.inj (Except.ok.inj hup)
  have hready := (FlagsCall.of_run readyNetdev_ready (.inl rfl) h₁).1
  obtain ⟨st, s, -, hspec⟩ := FlagsCall.run_spec hready (.inl rfl) (.updateFlags 0 0 0)
  have H := (Trace.nil.snoc h₁).snoc (hspec (.updateFlags 0 0 0) rfl)
  have H' := (Trace.nil.snoc h₁).snoc (hspec (.updateFlags 0 0 NETDEV_UP) rfl)
  refine ⟨_, _, s, s, H, H', rfl, rfl,
    ((((updateFlags_runs readyNetdev_ready (.inl rfl)).2 _ _ _ _ H H' rfl).mpr ?_).2)⟩
  simp only [List.cons_append, List.nil_append, List.forall_mem_cons]
  refine ⟨.inl rfl, .inl rfl, .inr ⟨hup, .inr rfl⟩, .inl rfl, ?_⟩
  exact fun _ h => absurd h List.not_mem_nil

/-- A port that is down: the flags reported are those that were in `*old_flagsp`. -/
theorem updateFlags_stale : ∃ e e' s s',
    Trace (FlagsCall.run "1") readyNetdev [e] s ∧ Trace (FlagsCall.run "1") readyNetdev [e'] s' ∧
      readyNetdev.Ready "1" .system ∧ e.call = .updateFlags 0 0 0 ∧
      e'.call = .updateFlags 0 0 NETDEV_UP ∧ readyNetdev.adminUp "1" = false ∧
      e.result.2 = some 0 ∧ e'.result.2 = some NETDEV_UP := by
  obtain ⟨s, hrun⟩ := result_eq_some.mp (show result
    (FlagsCall.run "1" (.updateFlags 0 0 0)) readyNetdev = some (0, some 0) by decide)
  obtain ⟨s', hrun'⟩ := result_eq_some.mp (show result
    (FlagsCall.run "1" (.updateFlags 0 0 NETDEV_UP)) readyNetdev = some (0, some NETDEV_UP) by
      decide)
  exact ⟨_, _, s, s', Trace.nil.snoc hrun, Trace.nil.snoc hrun', readyNetdev_ready, rfl, rfl,
    by decide, rfl, rfl⟩

end

end SwitchdSai
