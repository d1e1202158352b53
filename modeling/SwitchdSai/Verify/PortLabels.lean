import SwitchdSai.Lib.Fill
import SwitchdSai.Model.PortLabels
import SwitchdSai.Verify.PortConfig

/-!
# The table of port labels

Labels are counted from one and checked against the number of ports, and the table has as many
places as the largest switch has ports, counted from zero: the label of the last place of such a
switch is behind the end of the table. The reading side takes its index from outside.

When the table has been filled without a failure, it holds the last port written at each label
(`initPorts_table`), so that every port is found under its label exactly if no two have the same.
-/

namespace SwitchdSai

open Exec Exec.Logged

variable {ports : SwitchPorts} {oid : Nat} {oids : List Nat} {labelId : BitVec 32} {hw hw' : Hw}

/-- Every port has lanes, and no more than the plugin asks for. -/
def SwitchPorts.LanesListed (ports : SwitchPorts) (oids : List Nat) : Prop :=
  ∀ oid ∈ oids, 1 ≤ (ports.hwLanes oid).length ∧ (ports.hwLanes oid).length ≤ SAI_MAX_LANES

/-- The label of a port. -/
def SwitchPorts.lable (ports : SwitchPorts) (oid : Nat) : BitVec 32 := lableId (ports.hwLanes oid)

/-! ## Running the loop -/

theorem getPortLableId_ok (labelId : BitVec 32) (h1 : 1 ≤ (ports.hwLanes oid).length)
    (hmax : (ports.hwLanes oid).length ≤ SAI_MAX_LANES) (hs : hw.nextOutcome = .success) :
    getPortLableId ports oid labelId hw = .ok ((.success, ports.lable oid), hw.tick) := by
  have hcall : Hw.callIf (fun _ => decide ((ports.hwLanes oid).length ≤ SAI_MAX_LANES)) id hw =
      .ok (.success, hw.tick) := by
    unfold Hw.callIf
    rw [if_pos hs, if_pos (decide_eq_true hmax)]
    rfl
  unfold getPortLableId
  rw [bind_of_ok hcall, if_neg (by decide), if_neg (Nat.not_lt.mpr h1)]
  rfl

theorem getPortLableId_fails (labelId : BitVec 32) (hs : hw.nextOutcome ≠ .success) :
    getPortLableId ports oid labelId hw = .ok ((hw.nextOutcome, labelId), hw.tick) := by
  have hcall : Hw.callIf (fun _ => decide ((ports.hwLanes oid).length ≤ SAI_MAX_LANES)) id hw =
      .ok (hw.nextOutcome, hw.tick) := by
    unfold Hw.callIf
    rw [if_neg hs]
  unfold getPortLableId
  rw [bind_of_ok hcall, if_pos hs]
  rfl

theorem initPortsLoop_log_fails (hs : hw.nextOutcome ≠ .success) :
    (initPortsLoop ports (oid :: oids) labelId).log hw = [] := by
  unfold initPortsLoop
  rw [log_lift_bind (getPortLableId_fails labelId hs)]
  dsimp only
  rw [if_pos hs]
  rfl

/-- A turn whose call succeeds goes on by the label. -/
theorem initPortsLoop_turn (h1 : 1 ≤ (ports.hwLanes oid).length)
    (hmax : (ports.hwLanes oid).length ≤ SAI_MAX_LANES) (hs : hw.nextOutcome = .success) :
    let rest : Logged Nat Hw SaiStatus :=
      if ports.lable oid > ports.portNumber then pure .bufferOverflow
      else do
        setLable (ports.lable oid).toNat oid
        initPortsLoop ports oids (ports.lable oid)
    (initPortsLoop ports (oid :: oids) labelId).log hw = rest.log hw.tick ∧
      (initPortsLoop ports (oid :: oids) labelId).prog hw = rest.prog hw.tick := by
  have hlable := getPortLableId_ok labelId h1 hmax hs
  constructor
  · conv => lhs; unfold initPortsLoop
    exact log_lift_bind hlable
  · conv => lhs; unfold initPortsLoop
    exact bind_of_ok (m := (liftM (getPortLableId ports oid labelId) : Logged Nat Hw _).prog) hlable

/-- The state after a write. -/
def Hw.setLable (labelId oid : Nat) (hw : Hw) : Hw :=
  { hw with saiLableIdToOidMap := Function.update hw.saiLableIdToOidMap labelId oid }

theorem setLable_of_lt {n : Nat} (oid : Nat) (hw : Hw) (h : n < SAI_PORTS_MAX) :
    (setLable n oid).prog hw = .ok ((), hw.setLable n oid) :=
  (require_bind (k := fun _ => modify (Hw.setLable n oid))).mpr ⟨decide_eq_true h, rfl⟩

theorem setLable_ok {n : Nat} {hw' : Hw} (h : (setLable n oid).prog hw = .ok ((), hw')) :
    hw' = hw.setLable n oid := by
  obtain ⟨-, h⟩ := (require_bind (k := fun _ => modify (Hw.setLable n oid))).mp h
  exact (Prod.mk.inj (Except.ok.inj h)).2.symm

/-! ## The writes -/

/-- From `hw` the loop gets as far as writing the label of the port at position `i`: the calls up to
there succeed, and no label up to there is above the number of ports. -/
def SwitchPorts.Writes (ports : SwitchPorts) (oids : List Nat) (outcomes : List SaiStatus)
    (i : Nat) : Prop :=
  (∀ status ∈ outcomes.take (i + 1), status = .success) ∧
    ∀ oid ∈ oids.take (i + 1), ports.lable oid ≤ ports.portNumber

theorem take_success {outcomes : List SaiStatus} {i : Nat} :
    (∀ status ∈ outcomes.take (i + 1), status = .success) ↔
      outcomes.headD .success = .success ∧ ∀ status ∈ outcomes.tail.take i, status = .success := by
  cases outcomes with
  | nil => simp
  | cons status outcomes => simp

/-- The loop stays in the table exactly if every label it gets to is in the table. -/
theorem initPortsLoop_inRange (hlanes : ports.LanesListed oids) :
    (∀ index ∈ (initPortsLoop ports oids labelId).log hw, index < SAI_PORTS_MAX) ↔
      ∀ i oid, oids[i]? = some oid → ports.Writes oids hw.outcomes i →
        (ports.lable oid).toNat < SAI_PORTS_MAX := by
  induction oids generalizing hw labelId with
  | nil =>
    apply iff_of_true
    · exact fun _ h => absurd h List.not_mem_nil
    · exact fun i oid h => by cases h
  | cons oid oids ih =>
    obtain ⟨h1, hmax⟩ := hlanes oid (List.mem_cons_self ..)
    have hlanes : ports.LanesListed oids := fun a ha => hlanes a (List.mem_cons_of_mem _ ha)
    by_cases hs : hw.nextOutcome = .success
    swap
    · rw [initPortsLoop_log_fails hs]
      apply iff_of_true
      · exact fun _ h => absurd h List.not_mem_nil
      · exact fun i oid' _ hw => absurd (take_success.1 hw.1).1 hs
    rw [(initPortsLoop_turn h1 hmax hs).1]
    by_cases hgt : ports.lable oid > ports.portNumber
    · rw [if_pos hgt]
      apply iff_of_true
      · exact fun _ h => absurd h List.not_mem_nil
      · intro i oid' _ hw
        exact absurd (hw.2 oid (List.mem_cons_self ..)) (BitVec.not_le.mpr hgt)
    rw [if_neg hgt]
    have hle := BitVec.not_lt.mp hgt
    by_cases hin : (ports.lable oid).toNat < SAI_PORTS_MAX
    · have hrest : (∀ index ∈ (initPortsLoop ports oids (ports.lable oid)).log
          (hw.tick.setLable (ports.lable oid).toNat oid), index < SAI_PORTS_MAX) ↔ _ := ih hlanes
      rw [log_bind (setLable_of_lt oid hw.tick hin)]
      constructor
      · intro h i oid' hi hwrites
        have h := hrest.mp fun index hindex => h index (List.mem_append_right _ hindex)
        cases i with
        | zero =>
          cases hi
          exact hin
        | succ i =>
          refine h i oid' hi ⟨(take_success.1 hwrites.1).2, fun a ha => ?_⟩
          exact hwrites.2 a (List.mem_cons_of_mem _ ha)
      · intro h index hindex
        rcases List.mem_append.mp hindex with hindex | hindex
        · rw [List.mem_singleton.mp hindex]
          exact hin
        · refine hrest.mpr (fun i oid' hi hwrites => ?_) index hindex
          refine h (i + 1) oid' hi ⟨take_success.2 ⟨hs, hwrites.1⟩, fun a ha => ?_⟩
          rcases List.mem_cons.mp ha with rfl | ha
          · exact hle
          · exact hwrites.2 a ha
    · apply iff_of_false
      · intro h
        exact hin (h _ (List.mem_append_left _ (List.mem_singleton_self _)))
      · intro h
        refine hin (h 0 oid rfl ⟨take_success.2 ⟨hs, fun _ h => absurd h List.not_mem_nil⟩, ?_⟩)
        exact fun a ha => List.mem_singleton.mp ha ▸ hle

/-- A call without an effect has the outcome of the environment. -/
theorem Hw.call_id (hw : Hw) : Hw.call id hw = .ok (hw.nextOutcome, hw.tick) := by
  unfold Hw.call Hw.callIf
  split
  next hs => rw [hs]; rfl
  next => rfl

/-- One of the two calls before the loop fails. -/
theorem initPorts_log_fails (h : ¬∀ status ∈ hw.outcomes.take 2, status = .success) :
    (initPorts ports).log hw = [] := by
  rw [take_success, take_success] at h
  unfold initPorts
  rw [log_lift_bind hw.call_id]
  split
  · rfl
  next hs =>
    rw [log_lift_bind hw.tick.call_id, if_pos fun hs' => h ?_]
    · rfl
    · exact ⟨not_not.mp hs, hs', fun _ h => absurd h List.not_mem_nil⟩

/-- Both succeed. -/
theorem initPorts_log (hmax : ports.portList.length ≤ SAI_PORTS_MAX)
    (h : ∀ status ∈ hw.outcomes.take 2, status = .success) :
    (initPorts ports).log hw = (initPortsLoop ports ports.portList 0).log hw.tick.tick := by
  have hs : hw.nextOutcome = .success := (take_success.1 h).1
  have hs' : hw.tick.nextOutcome = .success := (take_success.1 (take_success.1 h).2).1
  have hdefined : (quiet (defined "sai_oids" (decide (ports.portList.length ≤ SAI_PORTS_MAX))) :
      Logged Nat Hw Unit).prog hw.tick.tick = .ok ((), hw.tick.tick) :=
    require_ok.mpr ⟨decide_eq_true hmax, rfl⟩
  unfold initPorts
  rw [log_lift_bind hw.call_id, if_neg (not_not.mpr hs), log_lift_bind hw.tick.call_id,
    if_neg (not_not.mpr hs')]
  exact log_bind hdefined

/-- No label that the filling of the table gets to is the one behind the end of the table. -/
def SwitchPorts.TableFits (ports : SwitchPorts) (outcomes : List SaiStatus) : Prop :=
  ∀ i oid, ports.portList[i]? = some oid →
    (∀ status ∈ outcomes.take (i + 3), status = .success) →
    (∀ oid ∈ ports.portList.take (i + 1), ports.lable oid ≤ ports.portNumber) →
    (ports.lable oid).toNat ≠ SAI_PORTS_MAX

/-- Filling the table stays in it exactly if it gets to no label behind its end. -/
theorem initPorts_inRange (hmax : ports.portList.length ≤ SAI_PORTS_MAX)
    (hlanes : ports.LanesListed ports.portList) :
    (∀ index ∈ (initPorts ports).log hw, index < SAI_PORTS_MAX) ↔
      ports.TableFits hw.outcomes := by
  have hnumber : ports.portNumber.toNat ≤ SAI_PORTS_MAX := by
    rw [SwitchPorts.portNumber, BitVec.toNat_ofNat, Nat.mod_eq_of_lt ports.fits]
    exact hmax
  by_cases h : ∀ status ∈ hw.outcomes.take 2, status = .success
  · obtain ⟨hs, h'⟩ := take_success.1 h
    have hs' := (take_success.1 h').1
    rw [initPorts_log hmax h, initPortsLoop_inRange hlanes]
    refine forall_congr' fun i => forall_congr' fun oid => forall_congr' fun hi => ?_
    have hlable : oid ∈ ports.portList.take (i + 1) := by
      rw [← List.getElem?_take_of_lt (Nat.lt_succ_self i)] at hi
      exact List.mem_of_getElem? hi
    constructor
    · intro hin hcalls hle
      refine Nat.ne_of_lt (hin ⟨?_, hle⟩)
      exact (take_success.1 (take_success.1 hcalls).2).2
    · intro hne hwrites
      have hcalls := take_success.2 ⟨hs, take_success.2 ⟨hs', hwrites.1⟩⟩
      have hlt := Nat.lt_of_le_of_ne (Nat.le_trans (hwrites.2 oid hlable) hnumber)
      exact hlt (hne hcalls hwrites.2)
  · rw [initPorts_log_fails h]
    apply iff_of_true
    · exact fun _ h => absurd h List.not_mem_nil
    · intro i oid _ hcalls
      obtain ⟨hs, hcalls⟩ := take_success.1 hcalls
      refine absurd (take_success.2 ⟨hs, take_success.2 ⟨(take_success.1 hcalls).1, ?_⟩⟩) h
      exact fun _ h => absurd h List.not_mem_nil

/-! ## The table -/

/-- The loop that succeeds has written every port. -/
theorem initPortsLoop_table (hlanes : ports.LanesListed oids)
    (h : (initPortsLoop ports oids labelId).prog hw = .ok (.success, hw')) :
    hw'.saiLableIdToOidMap =
      fill (fun oid => (ports.lable oid).toNat) oids hw.saiLableIdToOidMap := by
  induction oids generalizing hw labelId with
  | nil =>
    cases h
    rfl
  | cons oid oids ih =>
    obtain ⟨h1, hmax⟩ := hlanes oid (List.mem_cons_self ..)
    by_cases hs : hw.nextOutcome = .success
    swap
    · unfold initPortsLoop at h
      obtain ⟨p, hw₁, h₁, h⟩ := bind_ok.mp h
      cases (getPortLableId_fails labelId hs).symm.trans h₁
      dsimp only at h
      rw [if_pos hs] at h
      exact absurd (Prod.mk.inj (Except.ok.inj h)).1 hs
    rw [(initPortsLoop_turn h1 hmax hs).2] at h
    by_cases hgt : ports.lable oid > ports.portNumber
    · rw [if_pos hgt] at h
      cases h
    rw [if_neg hgt] at h
    obtain ⟨_, hw₁, h₁, h⟩ := bind_ok.mp h
    rw [fill_cons, ih (fun a ha => hlanes a (List.mem_cons_of_mem _ ha)) h, setLable_ok h₁]
    rfl

theorem initPorts_table (hlanes : ports.LanesListed ports.portList)
    (h : (initPorts ports).prog hw = .ok (.success, hw')) :
    hw'.saiLableIdToOidMap =
      fill (fun oid => (ports.lable oid).toNat) ports.portList hw.saiLableIdToOidMap := by
  unfold initPorts at h
  obtain ⟨status, hw₁, h₁, h⟩ := bind_ok.mp h
  cases hw.call_id.symm.trans h₁
  dsimp only at h
  split at h
  next hs => exact absurd (Prod.mk.inj (Except.ok.inj h)).1 hs
  obtain ⟨status, hw₂, h₂, h⟩ := bind_ok.mp h
  cases hw.tick.call_id.symm.trans h₂
  dsimp only at h
  split at h
  next hs => exact absurd (Prod.mk.inj (Except.ok.inj h)).1 hs
  obtain ⟨_, hw₃, h₃, h⟩ := bind_ok.mp h
  obtain ⟨-, h₃⟩ := require_ok.mp h₃
  cases h₃
  have htable := initPortsLoop_table hlanes h
  exact htable

/-- The place of a port among ports as wide as it is: its first lane counted in its lanes. -/
def SwitchPorts.place (ports : SwitchPorts) (oid : Nat) : Nat :=
  ((ports.hwLanes oid).headD 0).toNat / (ports.hwLanes oid).length

theorem lable_eq_iff {oid' : Nat} (h : (ports.hwLanes oid).length ≤ SAI_MAX_LANES)
    (h' : (ports.hwLanes oid').length ≤ SAI_MAX_LANES) :
    (ports.lable oid).toNat = (ports.lable oid').toNat ↔ ports.place oid = ports.place oid' := by
  have hlength : ∀ n ≤ SAI_MAX_LANES, (BitVec.ofNat 32 n).toNat = n := by
    unfold SAI_MAX_LANES
    intro n hn
    rw [BitVec.toNat_ofNat, Nat.mod_eq_of_lt (by omega)]
  unfold SwitchPorts.lable lableId SwitchPorts.place
  rw [BitVec.toNat_inj, BitVec.add_left_inj, ← BitVec.toNat_inj, BitVec.toNat_udiv,
    BitVec.toNat_udiv, hlength _ h, hlength _ h']

/-- When the table has been filled, every port is found under its label exactly if no two ports have
the same place. -/
theorem initPorts_found (ports : SwitchPorts) (hw hw' : Hw)
    (hlanes : ports.LanesListed ports.portList)
    (h : (initPorts ports).prog hw = .ok (.success, hw')) :
    (∀ oid ∈ ports.portList, hw'.opsSaiApiHwId2PortId (ports.lable oid).toNat = oid) ↔
      ∀ oid ∈ ports.portList, ∀ oid' ∈ ports.portList,
        ports.place oid = ports.place oid' → oid = oid' := by
  unfold Hw.opsSaiApiHwId2PortId
  rw [initPorts_table hlanes h, fill_eq_self_iff]
  refine forall_congr' fun oid => forall_congr' fun hoid => forall_congr' fun oid' =>
    forall_congr' fun hoid' => ?_
  rw [lable_eq_iff (hlanes oid hoid).2 (hlanes oid' hoid').2]

/-! ## The reads -/

/-- A label goes through the handle of a host interface unchanged. -/
theorem setWidth_signExtend (hwId : BitVec 32) : (hwId.signExtend 64).setWidth 32 = hwId := by
  ext i hi
  simp [BitVec.getLsbD_signExtend, hi]
  omega

section

variable [OvsLib] [OpenswitchIdl] [Build] {name : String} {args : Smap} {s : NetdevSys}

/-- The program with its reads is the program. -/
theorem setHwIntfInfoReads_prog (name : String) (args : Smap) :
    (setHwIntfInfoReads name args).prog = setHwIntfInfo name args := by
  unfold setHwIntfInfoReads setHwIntfInfo
  simp only [prog_bind, prog_lift, prog_quiet, prog_mark, prog_ite, prog_pure]

theorem setHwIntfInfoReads_only (name : String) (args : Smap) :
    Only (· = (smapGetInt args .switchIntfId (-1)).toNat) (setHwIntfInfoReads name args) := by
  refine (Only.quiet _).bind fun netdev => Only.ite (Only.pure _) ?_
  refine (Only.quiet _).bind fun mac => (Only.quiet _).bind fun _ => ?_
  refine (Only.mark ?_).bind fun status => Only.ite (Only.pure _) ?_
  · rw [setWidth_signExtend]
  refine Only.bind (Only.mark ?_) fun p => ?_
  · rfl
  obtain ⟨status, conf⟩ := p
  refine (Only.quiet _).bind fun _ => Only.ite (Only.pure _) ?_
  exact (Only.quiet _).bind fun _ => Only.pure _

/-- A netdev that is configured for the first time reads the table. -/
theorem setHwIntfInfo_reads (args : Smap) {netdev : NetdevSai}
    (hnetdev : s.netdevs name = some netdev)
    (hinit : netdev.isPortInitialized = false) (hname : name ≠ OpenswitchIdl.DEFAULT_BRIDGE_NAME) :
    (smapGetInt args .switchIntfId (-1)).toNat ∈ (setHwIntfInfoReads name args).log s := by
  unfold setHwIntfInfoReads
  rw [log_lift_bind (NetdevSys.netdev_ok.mpr ⟨hnetdev, rfl⟩), hinit, if_neg (by simpa using hname)]
  refine mem_log_bind.mpr (.inr ⟨_, _, rfl, mem_log_bind.mpr (.inr ⟨_, _, rfl, ?_⟩)⟩)
  refine mem_log_bind.mpr (.inl (List.mem_singleton.mpr ?_))
  rw [setWidth_signExtend]

/-- Nothing else reads it. -/
theorem netdev_of_read {index : Nat} (h : index ∈ (setHwIntfInfoReads name args).log s) :
    ∃ netdev, s.netdevs name = some netdev ∧ netdev.isPortInitialized = false ∧
      name ≠ OpenswitchIdl.DEFAULT_BRIDGE_NAME := by
  unfold setHwIntfInfoReads at h
  obtain ⟨netdev, s', hrun, hread⟩ := (mem_log_bind.mp h).resolve_left List.not_mem_nil
  obtain ⟨hnetdev, rfl⟩ := NetdevSys.netdev_ok.mp hrun
  refine ⟨netdev, hnetdev, ?_⟩
  dsimp only at hread
  split at hread
  · exact absurd hread List.not_mem_nil
  next hc => simpa using hc

/-- Nothing is done, or the map names a place of the table. -/
def SwitchIntfIdFits (name : String) (args : Smap) (s : NetdevSys) : Prop :=
  ∀ netdev, s.netdevs name = some netdev →
    netdev.isPortInitialized = true ∨ name = OpenswitchIdl.DEFAULT_BRIDGE_NAME ∨
      ∃ value, args .switchIntfId = some value ∧ (OvsLib.atoi value).toNat < SAI_PORTS_MAX

theorem setHwIntfInfo_inRange :
    (∀ index ∈ (setHwIntfInfoReads name args).log s, index < SAI_PORTS_MAX) ↔
      SwitchIntfIdFits name args s := by
  have hvalue : (smapGetInt args .switchIntfId (-1)).toNat < SAI_PORTS_MAX ↔
      ∃ value, args .switchIntfId = some value ∧ (OvsLib.atoi value).toNat < SAI_PORTS_MAX := by
    unfold smapGetInt
    cases args .switchIntfId with
    | none =>
      apply iff_of_false
      · show ¬(2 ^ 32 - 1 < 64)
        decide
      · rintro ⟨_, h, -⟩
        cases h
    | some value => simp
  constructor
  · intro h netdev hnetdev
    by_cases hinit : netdev.isPortInitialized = true
    · exact .inl hinit
    by_cases hname : name = OpenswitchIdl.DEFAULT_BRIDGE_NAME
    · exact .inr (.inl hname)
    have hread := setHwIntfInfo_reads args hnetdev (by simpa using hinit) hname
    exact .inr (.inr (hvalue.mp (h _ hread)))
  · intro h index hindex
    obtain ⟨netdev, hnetdev, hinit, hname⟩ := netdev_of_read hindex
    rw [setHwIntfInfoReads_only name args s index hindex]
    refine hvalue.mpr (((h netdev hnetdev).resolve_left ?_).resolve_left hname)
    rw [hinit]
    exact Bool.false_ne_true

/-- For a switch with up to `SAI_PORTS_MAX` ports: the table is filled in range exactly if no label
behind its end is written, and the configuration of a netdev reads it in range exactly if nothing is
done or the map names a place of the table. -/
theorem labelTable_inRange (ports : SwitchPorts) (hw : Hw) (name : String) (args : Smap)
    (s : NetdevSys) (hmax : ports.portList.length ≤ SAI_PORTS_MAX)
    (hlanes : ports.LanesListed ports.portList) :
    ((∀ index ∈ (initPorts ports).log hw, index < SAI_PORTS_MAX) ↔
        ports.TableFits hw.outcomes) ∧
      ((∀ index ∈ (setHwIntfInfoReads name args).log s, index < SAI_PORTS_MAX) ↔
        SwitchIntfIdFits name args s) :=
  ⟨initPorts_inRange hmax hlanes, setHwIntfInfo_inRange⟩

end

/-! ## Ports as wide as each other and others -/

/-- Each port has consecutive lanes, from a multiple of their number on, and no two ports share a
lane. -/
structure SwitchPorts.LaidOut (ports : SwitchPorts) : Prop where
  listed : ports.LanesListed ports.portList
  consecutive : ∀ oid ∈ ports.portList, ∃ k n, k * n + n ≤ 2 ^ 32 ∧
    ports.hwLanes oid = (List.range' (k * n) n).map (BitVec.ofNat 32)
  disjoint : ∀ oid ∈ ports.portList, ∀ oid' ∈ ports.portList, oid ≠ oid' →
    ∀ lane ∈ ports.hwLanes oid, lane ∉ ports.hwLanes oid'

theorem place_of_lanes {k n : Nat} (hn : 1 ≤ n) (hk : k * n + n ≤ 2 ^ 32)
    (hlanes : ports.hwLanes oid = (List.range' (k * n) n).map (BitVec.ofNat 32)) :
    ports.place oid = k := by
  obtain ⟨m, rfl⟩ := Nat.exists_eq_add_of_le' hn
  unfold SwitchPorts.place
  rw [hlanes, List.length_map, List.length_range', List.range'_succ, List.map_cons, List.headD_cons,
    BitVec.toNat_ofNat, Nat.mod_eq_of_lt (by omega), Nat.mul_div_cancel _ (Nat.succ_pos m)]

/-- Ports with the same number of lanes have different places. -/
theorem SwitchPorts.LaidOut.place_inj (h : ports.LaidOut)
    (hwidth : ∀ oid ∈ ports.portList, ∀ oid' ∈ ports.portList,
      (ports.hwLanes oid).length = (ports.hwLanes oid').length) :
    ∀ oid ∈ ports.portList, ∀ oid' ∈ ports.portList,
      ports.place oid = ports.place oid' → oid = oid' := by
  intro oid hoid oid' hoid' hplace
  by_contra hne
  obtain ⟨k, n, hk, hlanes⟩ := h.consecutive oid hoid
  obtain ⟨k', n', hk', hlanes'⟩ := h.consecutive oid' hoid'
  have hn := (h.listed oid hoid).1
  have hn' := (h.listed oid' hoid').1
  have hwidth := hwidth oid hoid oid' hoid'
  rw [hlanes, List.length_map, List.length_range'] at hn hwidth
  rw [hlanes', List.length_map, List.length_range'] at hn' hwidth
  subst hwidth
  rw [place_of_lanes hn hk hlanes, place_of_lanes hn' hk' hlanes'] at hplace
  subst hplace
  have hlane : BitVec.ofNat 32 (k * n) ∈ (List.range' (k * n) n).map (BitVec.ofNat 32) :=
    List.mem_map_of_mem (List.mem_range'_1.mpr ⟨Nat.le_refl _, by omega⟩)
  exact h.disjoint oid hoid oid' hoid' hne _ (hlanes ▸ hlane) (hlanes' ▸ hlane)

/-! ## Switches with single and with split ports -/

section

attribute [local instance] sampleOvs sampleBuild sampleIdl

/-- Four ports with four lanes each. -/
def quadPorts : SwitchPorts :=
  ⟨[1, 2, 3, 4], fun oid => (List.range' (4 * (oid - 1)) 4).map (BitVec.ofNat 32), by decide⟩

/-- As many ports as the table has places, with one lane each. -/
def singlePorts : SwitchPorts :=
  ⟨List.range' 1 SAI_PORTS_MAX, fun oid => [BitVec.ofNat 32 (oid - 1)], by decide⟩

/-- A port with one lane and a port with four. -/
def mixedPorts : SwitchPorts :=
  ⟨[1, 2], fun oid => if oid = 1 then [1] else [4, 5, 6, 7], by decide⟩

theorem labelTable_inRange_quad :
    (∀ index ∈ (initPorts quadPorts).log Hw.reset, index < SAI_PORTS_MAX) ∧
      ∀ index ∈ (setHwIntfInfoReads "1" (fun _ => some "0")).log newNetdev,
        index < SAI_PORTS_MAX := by
  have hfits := labelTable_inRange quadPorts Hw.reset "1" (fun _ => some "0") newNetdev (by decide)
    (by unfold SwitchPorts.LanesListed; decide)
  refine ⟨hfits.1.mpr ?_, hfits.2.mpr ?_⟩
  · intro i oid hi _ _
    have hall : ∀ oid ∈ quadPorts.portList, (quadPorts.lable oid).toNat ≠ SAI_PORTS_MAX := by decide
    exact hall oid (List.mem_of_getElem? hi)
  · exact fun netdev _ => .inr (.inr ⟨"0", rfl, by decide⟩)

/-- The last label of the largest switch, and a map without a switch interface id. -/
theorem labelTable_outOfRange :
    (¬∀ index ∈ (initPorts singlePorts).log Hw.reset, index < SAI_PORTS_MAX) ∧
      ¬∀ index ∈ (setHwIntfInfoReads "1" fun _ => none).log newNetdev, index < SAI_PORTS_MAX := by
  constructor
  · decide
  · intro h
    have hnetdev : newNetdev.netdevs "1" = some (.alloc "1" .system) := rfl
    have hname : "1" ≠ "bridge_normal" := by decide
    have hlt : (-1 : BitVec 32).toNat < SAI_PORTS_MAX :=
      h _ (setHwIntfInfo_reads _ hnetdev rfl hname)
    exact absurd hlt (by decide)

/-- Every port of the switch is found under its label. -/
theorem initPorts_found_quad : ∃ hw', (initPorts quadPorts).prog Hw.reset = .ok (.success, hw') ∧
    ∀ oid ∈ quadPorts.portList, hw'.opsSaiApiHwId2PortId (quadPorts.lable oid).toNat = oid := by
  obtain ⟨hw', hrun⟩ := result_eq_some.mp
    (show result (initPorts quadPorts).prog Hw.reset = some .success by decide)
  refine ⟨hw', hrun, (initPorts_found quadPorts Hw.reset hw' ?_ hrun).mpr (by decide)⟩
  unfold SwitchPorts.LanesListed
  decide

/-- The port with one lane has the label of the port with four, which takes its place. -/
theorem initPorts_collide :
    mixedPorts.LaidOut ∧ mixedPorts.portList.length < SAI_PORTS_MAX ∧
      ∃ hw', (initPorts mixedPorts).prog Hw.reset = .ok (.success, hw') ∧
        ¬∀ oid ∈ mixedPorts.portList,
          hw'.opsSaiApiHwId2PortId (mixedPorts.lable oid).toNat = oid := by
  refine ⟨⟨by unfold SwitchPorts.LanesListed; decide, ?_, ?_⟩, by decide, ?_⟩
  · intro oid hoid
    rcases List.mem_pair.mp hoid with rfl | rfl
    · exact ⟨1, 1, by decide, rfl⟩
    · exact ⟨1, 4, by decide, rfl⟩
  · have hlanes : ∀ lane ∈ ([1] : List (BitVec 32)), lane ∉ ([4, 5, 6, 7] : List (BitVec 32)) := by
      simp
    intro oid hoid oid' hoid' hne lane hlane hlane'
    rcases List.mem_pair.mp hoid with rfl | rfl <;> rcases List.mem_pair.mp hoid' with rfl | rfl
    · exact hne rfl
    · exact hlanes lane hlane hlane'
    · exact hlanes lane hlane' hlane
    · exact hne rfl
  · obtain ⟨hw', hrun⟩ := result_eq_some.mp (show result (do
        let status ← (initPorts mixedPorts).prog
        let oid ← gets fun hw => hw.opsSaiApiHwId2PortId 2
        pure (status, oid)) Hw.reset = some (.success, 2) by decide)
    obtain ⟨status, hw₁, h₁, h⟩ := bind_ok.mp hrun
    obtain ⟨h, -⟩ := Prod.mk.inj (Except.ok.inj h)
    obtain ⟨hstatus, hfound⟩ := Prod.mk.inj h
    subst hstatus
    refine ⟨hw₁, h₁, fun hall => ?_⟩
    have hone := hall 1 (by decide)
    exact absurd (hone.symm.trans hfound) (by decide)

end

end SwitchdSai
