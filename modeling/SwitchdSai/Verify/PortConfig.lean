import SwitchdSai.Verify.Netdev

/-!
# The configuration of a port

`__set_hw_intf_config` writes the attributes that differ from a cached configuration. The cache is
written by no other call, but the attributes are: a call that succeeds leaves the port as it was
asked to exactly when the port already had what the cache says of the attributes that are skipped.
-/

namespace SwitchdSai

open Exec NetdevSys

/-- The port has the auto-negotiation, speed, MTU and admin state of a configuration. -/
def HwPort.Has (p : HwPort) (config : OpsSaiPortConfig) : Prop :=
  p.autoNegMode = config.autoneg ∧ p.speed = config.speed ∧ p.mtu = config.mtu ∧
    p.adminState = config.hwEnable

/-- The port has the attributes of `new` that are not written because `cached` has them. -/
def HwPort.HasCached (p : HwPort) (cached new : OpsSaiPortConfig) : Prop :=
  (cached.autoneg = new.autoneg → p.autoNegMode = new.autoneg) ∧
  (cached.speed = new.speed → p.speed = new.speed) ∧
  (cached.mtu = new.mtu → p.mtu = new.mtu) ∧
  (cached.hwEnable = new.hwEnable → p.adminState = new.hwEnable)

instance (p : HwPort) (config : OpsSaiPortConfig) : Decidable (p.Has config) :=
  inferInstanceAs (Decidable (_ ∧ _))

instance (p : HwPort) (cached new : OpsSaiPortConfig) : Decidable (p.HasCached cached new) :=
  inferInstanceAs (Decidable (_ ∧ _))

/-- The port with a label. -/
def Hw.labelPort (hwId : Nat) (hw : Hw) : HwPort := hw.ports (hw.opsSaiApiHwId2PortId hwId)

/-- Write an attribute when it has changed. -/
def HwPort.setIf (p : HwPort) (changed : Bool) (attr : SaiPortAttr) : HwPort :=
  if changed then attr.set p else p

variable {hwId : Nat} {changed : Bool} {attr : SaiPortAttr}

/-! ## Writing attributes -/

theorem setHwIdAttr_does : Does (Hw.labelPort hwId) (setHwIdAttr hwId attr) attr.set := by
  intro hw hw' h
  rw [setHwIdAttr, gets_bind] at h
  obtain ⟨status, hw₁, hcall, hend⟩ := bind_ok.mp h
  simp only [pure_apply, Except.ok.injEq, Prod.mk.injEq, saiError2Errno_eq_zero] at hend
  obtain ⟨rfl, rfl⟩ := hend
  rcases Hw.call_cases hcall with ⟨-, rfl⟩ | ⟨hne, -⟩
  · exact Function.update_self ..
  · exact absurd rfl hne

theorem setIfChanged_does :
    Does (Hw.labelPort hwId) (setIfChanged changed hwId attr) (·.setIf changed attr) := by
  cases changed with
  | true => exact setHwIdAttr_does
  | false => exact Does.pure

theorem setMtuIfChanged_does {mtu : BitVec 32} :
    Does (Hw.labelPort hwId) (setMtuIfChanged changed hwId mtu) (·.setIf changed (.mtu mtu)) := by
  cases changed with
  | false => exact Does.pure
  | true =>
  intro hw hw' h
  obtain ⟨err, hw₁, hset, hend⟩ := bind_ok.mp h
  simp only [pure_apply, Except.ok.injEq, Prod.mk.injEq, saiError2Errno_eq_zero] at hend
  obtain ⟨herr, rfl⟩ := hend
  -- no errno value but zero is taken for success
  have herr : err = 0 := by
    unfold errnoAsSaiStatus at herr
    split at herr
    · assumption
    · cases herr
  subst herr
  exact setHwIdAttr_does _ _ hset

/-- A value that is written when it differs from a cached one is there at the end exactly when it
was already, if it does not differ. -/
theorem ite_bne_eq {α : Type} [DecidableEq α] {cached value current : α} :
    (if cached != value then value else current) = value ↔ (cached = value → current = value) := by
  by_cases h : cached = value
  · simp [h]
  · simp [h]

section
variable [Build] {new old conf : OpsSaiPortConfig}

/-- What `__port_config_set` writes when every write it makes succeeds. -/
def HwPort.configure (old new : OpsSaiPortConfig) (p : HwPort) : HwPort :=
  let p := p.setIf (old.autoneg != new.autoneg) (.autoNegMode new.autoneg)
  let p := p.setIf (old.speed != new.speed) (.speed new.speed)
  let p := p.setIf (old.mtu != new.mtu) (.mtu new.mtu)
  let p := p.setIf (!Build.mlnxSai && (old.pauseTx != new.pauseTx || old.pauseRx != new.pauseRx))
    (.globalFlowControl (saiPortPause new.pauseTx new.pauseRx))
  p.setIf (old.hwEnable != new.hwEnable) (.adminState new.hwEnable)

theorem setHwIntfConfig_does :
    Does (Hw.labelPort hwId) ((setHwIntfConfigFull hwId new old).thenOk <|
      setIfChanged (old.hwEnable != new.hwEnable) hwId (.adminState new.hwEnable))
      (HwPort.configure old new) :=
  Does.thenOk (Does.thenOk setIfChanged_does <| Does.thenOk setIfChanged_does <|
    Does.thenOk setMtuIfChanged_does setIfChanged_does) setIfChanged_does

theorem HwPort.configure_has {p : HwPort} :
    (p.configure old new).Has new ↔ p.HasCached old new := by
  simp only [HwPort.configure, HwPort.setIf, HwPort.Has, HwPort.HasCached, SaiPortAttr.set,
    apply_ite HwPort.autoNegMode, apply_ite HwPort.speed, apply_ite HwPort.mtu,
    apply_ite HwPort.adminState, ite_self, ite_bne_eq]

theorem opsSaiPortConfigSet_ok {hw hw' : Hw}
    (h : opsSaiPortConfigSet hwId new old hw = .ok ((0, conf), hw')) :
    (hw'.labelPort hwId).Has new ↔ (hw.labelPort hwId).HasCached old new := by
  obtain ⟨status, hw₁, hset, hend⟩ := bind_ok.mp h
  split at hend
  next h0 =>
    cases hend
    subst h0
    rw [setHwIntfConfig_does _ _ hset, HwPort.configure_has]
  next h0 =>
    cases hend
    exact absurd rfl h0

end

/-! ## Runs of a port -/

section
variable [OvsLib] [OpenswitchIdl] [Build]

/-- The calls that read or write the attributes of a port. -/
inductive PortCall where
  | setHwIntfInfo (args : Smap)
  | setHwIntfConfig (args : Smap)
  | setMtu (mtu : BitVec 32)
  | updateFlags (off on oldFlags : BitVec 32)

def PortCall.run (name : String) : PortCall → Exec NetdevSys Int
  | .setHwIntfInfo args => SwitchdSai.setHwIntfInfo name args
  | .setHwIntfConfig args => SwitchdSai.setHwIntfConfig name args
  | .setMtu mtu => SwitchdSai.setMtu name mtu
  | .updateFlags off on oldFlags => do
    let (status, _) ← SwitchdSai.updateFlags name off on oldFlags
    return status

theorem setHwIntfConfig_ok {name : String} {args : Smap} {s s' : NetdevSys} {dev : NetdevSai}
    (hdev : s.netdevs name = some dev) (h : setHwIntfConfig name args s = .ok (0, s')) :
    (s'.hw.labelPort dev.hwId).Has (hwIntfConfig args dev.defaultConfig) ↔
      (s.hw.labelPort dev.hwId).HasCached dev.config (hwIntfConfig args dev.defaultConfig) := by
  obtain ⟨dev', hdev', h⟩ := netdev_bind.mp h
  obtain rfl : dev = dev' := Option.some.inj (hdev.symm.trans hdev')
  obtain ⟨⟨status, conf⟩, s₁, hset, h⟩ := bind_ok.mp h
  obtain ⟨hw, hset', rfl⟩ := onHw_ok.mp hset
  dsimp only at h
  rw [modifyNetdev_bind, pure_apply] at h
  obtain ⟨rfl, rfl⟩ := Prod.mk.inj (Except.ok.inj h)
  exact opsSaiPortConfigSet_ok hset'

/-- **A configuration that succeeds leaves the port as it was asked to exactly when** the port
already had the attributes that the cache spares, whatever calls and failures came before. -/
theorem setHwIntfConfig_exact_iff {name : String} {s₀ s : NetdevSys}
    {es : List (Event NetdevSys PortCall Int)} {e : Event NetdevSys PortCall Int} {args : Smap}
    {dev : NetdevSai} (H : Trace (PortCall.run name) s₀ es s) (he : e ∈ es)
    (hcall : e.call = .setHwIntfConfig args) (hresult : e.result = 0)
    (hdev : e.before.netdevs name = some dev) :
    (e.after.hw.labelPort dev.hwId).Has (hwIntfConfig args dev.defaultConfig) ↔
      (e.before.hw.labelPort dev.hwId).HasCached dev.config
        (hwIntfConfig args dev.defaultConfig) := by
  have hrun := H.of_mem he
  rw [hcall, hresult] at hrun
  exact setHwIntfConfig_ok hdev hrun

end

section
attribute [local instance] sampleOvs sampleIdl sampleBuild

/-- The netdev 1 after its construction. -/
def newNetdev : NetdevSys where
  netdevs name := if name = "1" then some (.alloc "1" .system) else none
  hif := ⟨∅, [], [], [], []⟩
  hw := .reset
  saiApiMac := 0

/-- Arguments that set only the MTU. -/
def mtuArgs (mtu : String) (key : SmapKey) : Option String := if key = .mtu then some mtu else none

/-- After the first configuration of the netdev the port is as it was asked to be. -/
theorem setHwIntfConfig_exact_iff_first :
    ∃ (s s' : NetdevSys) (dev : NetdevSai), s.netdevs "1" = some dev ∧
      dev.isPortInitialized = true ∧ setHwIntfConfig "1" (mtuArgs "1500") s = .ok (0, s') ∧
      (s'.hw.labelPort dev.hwId).Has (hwIntfConfig (mtuArgs "1500") dev.defaultConfig) := by
  obtain ⟨s, hrun⟩ := result_eq_some.mp (show result (do
    let _ ← PortCall.run "1" (.setHwIntfInfo fun _ => none)
    let before ← gets fun s => (s.netdevs "1").map fun dev => (dev.isPortInitialized,
      decide ((s.hw.labelPort dev.hwId).HasCached dev.config
        (hwIntfConfig (mtuArgs "1500") dev.defaultConfig)))
    let st ← PortCall.run "1" (.setHwIntfConfig (mtuArgs "1500"))
    pure (before, st)) newNetdev = some (some (true, true), 0) by decide +kernel)
  obtain ⟨st₁, s₁, h₁, hrun⟩ := bind_ok.mp hrun
  rw [gets_bind] at hrun
  obtain ⟨st₂, s₂, h₂, hend⟩ := bind_ok.mp hrun
  simp only [pure_apply, Except.ok.injEq, Prod.mk.injEq, Option.map_eq_some_iff,
    decide_eq_true_eq] at hend
  obtain ⟨⟨⟨dev, hdev, hinit, hcached⟩, rfl⟩, -⟩ := hend
  exact ⟨s₁, s₂, dev, hdev, hinit, h₂, (setHwIntfConfig_exact_iff
    ((Trace.nil.snoc h₁).snoc h₂) (List.mem_cons_self ..) rfl rfl hdev).mpr hcached⟩

/-- The netdev has been initialized and configured with an MTU of 1500, and `__set_mtu` has made it
9000 since. A configuration with 1500 then returns 0, and the MTU is still 9000. -/
theorem setHwIntfConfig_stale :
    ∃ (es : List (Event NetdevSys PortCall Int)) (e : Event NetdevSys PortCall Int)
      (s : NetdevSys) (dev : NetdevSai), Trace (PortCall.run "1") newNetdev es s ∧ e ∈ es ∧
      e.call = .setHwIntfConfig (mtuArgs "1500") ∧ e.result = 0 ∧
      e.before.netdevs "1" = some dev ∧ dev.isPortInitialized = true ∧
      (hwIntfConfig (mtuArgs "1500") dev.defaultConfig).mtu = 1500 ∧
      (e.after.hw.labelPort dev.hwId).mtu = 9000 := by
  obtain ⟨s, hrun⟩ := result_eq_some.mp (show result (do
    let _ ← PortCall.run "1" (.setHwIntfInfo fun _ => none)
    let _ ← PortCall.run "1" (.setHwIntfConfig (mtuArgs "1500"))
    let _ ← PortCall.run "1" (.setMtu 9000)
    let dev ← gets fun s => s.netdevs "1"
    let st ← PortCall.run "1" (.setHwIntfConfig (mtuArgs "1500"))
    let mtu ← gets fun s => dev.map fun dev => ((s.hw.labelPort dev.hwId).mtu,
      dev.isPortInitialized, (hwIntfConfig (mtuArgs "1500") dev.defaultConfig).mtu)
    pure (st, mtu)) newNetdev = some (0, some (9000, true, 1500)) by decide +kernel)
  obtain ⟨st₁, s₁, h₁, hrun⟩ := bind_ok.mp hrun
  obtain ⟨st₂, s₂, h₂, hrun⟩ := bind_ok.mp hrun
  obtain ⟨st₃, s₃, h₃, hrun⟩ := bind_ok.mp hrun
  rw [gets_bind] at hrun
  obtain ⟨st₄, s₄, h₄, hend⟩ := bind_ok.mp hrun
  rw [gets_bind, pure_apply] at hend
  simp only [Except.ok.injEq, Prod.mk.injEq, Option.map_eq_some_iff] at hend
  obtain ⟨⟨rfl, dev, hdev, hmtu, hinit, hconf⟩, -⟩ := hend
  exact ⟨_, _, s₄, dev, (((Trace.nil.snoc h₁).snoc h₂).snoc h₃).snoc h₄, List.mem_cons_self ..,
    rfl, rfl, hdev, hinit, hconf, hmtu⟩

end

end SwitchdSai
