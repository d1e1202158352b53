import SwitchdSai.Model.Hash

/-!
# What the ports hash

A call of `__ecmp_hash_set` turns bits of the wanted fields on or off, whether or not it succeeds.
When it succeeds, every network port and LAG hashes what is wanted after it, but for the destination
ports of TCP and UDP: for them it is given the fields of the source ports.
-/

namespace SwitchdSai

open Exec

section
variable [HashLib]

/-- The bits of the bitmap that ask for a field. -/
def SxRouterEcmpHashField.bits : SxRouterEcmpHashField → BitVec 64
  | .ipv4Byte _ .source _ | .ipv6Bytes0To7 _ .source | .ipv6Byte _ .source _ => HashLib.srcIp
  | .ipv4Byte _ .destination _ | .ipv6Bytes0To7 _ .destination | .ipv6Byte _ .destination _ =>
    HashLib.dstIp
  | .tcpUdpPort _ .source => HashLib.srcPort
  | .tcpUdpPort _ .destination => HashLib.dstPort

/-- The bitmap has one of the bits. -/
def Wants (opsHash bits : BitVec 64) : Prop := opsHash &&& bits ≠ 0

instance {opsHash bits : BitVec 64} : Decidable (Wants opsHash bits) :=
  inferInstanceAs (Decidable (_ ≠ _))

/-- The bitmap has a bit that asks for a field. -/
def WantsAny (opsHash : BitVec 64) : Prop :=
  Wants opsHash HashLib.srcIp ∨ Wants opsHash HashLib.dstIp ∨ Wants opsHash HashLib.srcPort ∨
    Wants opsHash HashLib.dstPort

/-- Without duplicates, the fields that the bitmap asks for. -/
def FieldsOf (opsHash : BitVec 64) (fields : List SxRouterEcmpHashField) : Prop :=
  fields.Nodup ∧ ∀ field, field ∈ fields ↔ Wants opsHash field.bits

/-- A call of `__ecmp_hash_set`, with what the SDK answers. -/
structure EcmpCall where
  fieldsToSet : BitVec 64
  enable : Bool
  sdk : HashSdk

/-- What is wanted after a call. -/
def EcmpCall.request (c : EcmpCall) (opsHash : BitVec 64) : BitVec 64 :=
  if c.enable then opsHash ||| c.fieldsToSet else opsHash &&& ~~~c.fieldsToSet

/-- A port that takes part in hashing. -/
def Hashes (port : SxPortId) : Prop :=
  HashLib.portType port = .lag ∨ HashLib.portType port = .network

instance {port : SxPortId} : Decidable (Hashes port) := inferInstanceAs (Decidable (_ ∨ _))

/-! ## The list of fields -/

section
omit [HashLib]
variable {layer : HashLayer} {hashEnd hashEnd' : HashEnd}

@[simp] theorem ipv4Byte_mem {byte : Fin 4} :
    .ipv4Byte layer hashEnd byte ∈ ipHashFields hashEnd' ↔ hashEnd = hashEnd' := by
  cases layer <;> simp [ipHashFields, eq_comm]

@[simp] theorem ipv6Bytes0To7_mem :
    .ipv6Bytes0To7 layer hashEnd ∈ ipHashFields hashEnd' ↔ hashEnd = hashEnd' := by
  cases layer <;> simp [ipHashFields]

@[simp] theorem ipv6Byte_mem {byte : Fin 8} :
    .ipv6Byte layer hashEnd byte ∈ ipHashFields hashEnd' ↔ hashEnd = hashEnd' := by
  cases layer <;> simp [ipHashFields, eq_comm]

@[simp] theorem tcpUdpPort_not_mem : .tcpUdpPort layer hashEnd ∉ ipHashFields hashEnd' := by
  simp [ipHashFields]

theorem ipHashFields_nodup : (ipHashFields hashEnd).Nodup := by
  cases hashEnd <;> decide

theorem ipHashFields_disjoint :
    (ipHashFields .source).Disjoint (ipHashFields .destination) := by
  rintro (⟨_, _, _⟩ | ⟨_, _⟩ | ⟨_, _, _⟩ | ⟨_, _⟩) h h' <;> simp_all

theorem nodup_ite {α : Type} {l : List α} {p : Prop} [Decidable p] (h : l.Nodup) :
    (if p then l else []).Nodup := by
  split
  · exact h
  · exact List.nodup_nil

theorem ite_subset {α : Type} {l : List α} {p : Prop} [Decidable p] :
    (if p then l else []) ⊆ l := by
  split
  · exact List.Subset.refl l
  · exact List.nil_subset l

end

/-- Which fields are in the list: that of the destination port never is. -/
theorem mem_opsHashToSxsdk {opsHash : BitVec 64} {field : SxRouterEcmpHashField} :
    field ∈ (opsHashToSxsdk opsHash).1 ↔ match field with
      | .tcpUdpPort _ .source => Wants opsHash HashLib.srcPort ∨ Wants opsHash HashLib.dstPort
      | .tcpUdpPort _ .destination => False
      | field => Wants opsHash field.bits := by
  unfold opsHashToSxsdk
  rcases field with ⟨layer, _ | _, byte⟩ | ⟨layer, _ | _⟩ | ⟨layer, _ | _, byte⟩ |
    ⟨_ | _, _ | _⟩ <;> simp [Wants, SxRouterEcmpHashField.bits]

theorem opsHashToSxsdk_nodup {opsHash : BitVec 64} (hdst : ¬Wants opsHash HashLib.dstPort) :
    (opsHashToSxsdk opsHash).1.Nodup := by
  have hports : (if opsHash &&& HashLib.dstPort ≠ 0 then
      [SxRouterEcmpHashField.tcpUdpPort .inner .source, .tcpUdpPort .outer .source] else []) = [] :=
    if_neg hdst
  simp only [opsHashToSxsdk, hports, List.append_nil]
  refine .append (.append (nodup_ite ipHashFields_nodup) (nodup_ite ipHashFields_nodup) ?_)
    (nodup_ite (by decide)) ?_
  · exact fun field h h' => ipHashFields_disjoint (ite_subset h) (ite_subset h')
  · intro field h h'
    have hport := ite_subset h'
    rcases List.mem_append.mp h with h | h <;> have hip := ite_subset h <;>
      simp only [List.mem_cons, List.not_mem_nil, or_false] at hport <;>
      rcases hport with rfl | rfl <;> simp at hip

/-- The list is right when the destination ports are not wanted, and only then. -/
theorem fieldsOf_opsHashToSxsdk {opsHash : BitVec 64} :
    FieldsOf opsHash (opsHashToSxsdk opsHash).1 ↔ ¬Wants opsHash HashLib.dstPort := by
  constructor
  · rintro ⟨-, hfields⟩ hdst
    exact mem_opsHashToSxsdk.1 ((hfields (.tcpUdpPort .outer .destination)).mpr hdst)
  · refine fun hdst => ⟨opsHashToSxsdk_nodup hdst, fun field => mem_opsHashToSxsdk.trans ?_⟩
    rcases field with ⟨_, _, _⟩ | ⟨_, _⟩ | ⟨_, _, _⟩ | ⟨_, _ | _⟩
    · exact Iff.rfl
    · exact Iff.rfl
    · exact Iff.rfl
    · exact or_iff_left hdst
    · exact iff_of_false id hdst

theorem opsHashToSxsdk_eq_nil {opsHash : BitVec 64} :
    (opsHashToSxsdk opsHash).1 = [] ↔ ¬WantsAny opsHash := by
  have hne : ∀ hashEnd, ipHashFields hashEnd ≠ [] := fun hashEnd => by
    cases hashEnd <;> decide
  simp [opsHashToSxsdk, WantsAny, Wants, hne, not_or]

/-- There is room for the fields and for the enables. -/
theorem opsHashToSxsdk_fits (opsHash : BitVec 64) :
    (opsHashToSxsdk opsHash).1.length ≤ HashLib.fieldsNum ∧
      (opsHashToSxsdk opsHash).2.length ≤ HashLib.fieldsEnablesNum := by
  have hip : ∀ hashEnd, (ipHashFields hashEnd).length = 26 := fun hashEnd => by
    cases hashEnd <;> rfl
  have hite : ∀ {α : Type} {p : Prop} [Decidable p] {l : List α},
      (if p then l else []).length ≤ l.length := by
    intro α p _ l
    split
    · exact Nat.le_refl _
    · exact Nat.zero_le _
  refine ⟨le_trans ?_ HashLib.fieldsNum_le, le_trans ?_ HashLib.fieldsEnablesNum_le⟩
  · simp only [opsHashToSxsdk, List.length_append]
    exact Nat.add_le_add (Nat.add_le_add (Nat.add_le_add (hite.trans (hip _).le)
      (hite.trans (hip _).le)) hite) hite
  · simp only [opsHashToSxsdk, List.length_append]
    exact Nat.add_le_add hite hite

/-! ## One call -/

/-- The ports that take part in hashing, of those in the list of the SDK. -/
def HashSdk.hashing (sdk : HashSdk) : List SxPortId := sdk.ports.filter (Hashes ·)

/-- The SDK accepts the calls that are made when there is something to hash. -/
def HashSdk.Accepts (sdk : HashSdk) : Prop :=
  sdk.portCnt.1 = .success ∧ sdk.portList.1 = .success ∧
    ∀ status ∈ sdk.set.take sdk.hashing.length, status = .success

variable {s s' : HashSai} {st : Int} {status : SaiStatus} {params : EcmpHashParams}

/-- The loop programs the ports one after the other, up to the first one that the SDK refuses. -/
theorem ecmpHashSetPorts_ends (statuses : List SaiStatus) (ports : List SxPortId) (s : HashSai) :
    ∃ status s', ecmpHashSetPorts params statuses ports s = .ok (status, s') ∧
      (status = .success ↔
        ∀ status ∈ statuses.take (ports.filter (Hashes ·)).length, status = .success) ∧
      (∀ port, s.ports port = some params → s'.ports port = some params) ∧
      (status = .success → ∀ port ∈ ports, Hashes port → s'.ports port = some params) := by
  induction ports generalizing statuses s with
  | nil => exact ⟨.success, s, rfl, by simp, fun _ h => h, fun _ _ h => by cases h⟩
  | cons port ports ih =>
    by_cases hport : Hashes port
    · have hcond : ¬(HashLib.portType port ≠ .lag ∧ HashLib.portType port ≠ .network) := by
        rintro ⟨hlag, hnetwork⟩
        exact hport.elim hlag hnetwork
      rw [List.filter_cons_of_pos (by simpa using hport), List.length_cons]
      rw [ecmpHashSetPorts, if_neg hcond]
      by_cases hstatus : statuses.headD .success = .success
      · obtain ⟨status, s', hrun, hiff, hkept, hset⟩ := ih statuses.tail
          { s with ports := Function.update s.ports port (some params) }
        refine ⟨status, s', ?_, ?_, fun p hp => hkept p ?_, fun h0 p hp hhash => ?_⟩
        · rw [if_neg (not_not.mpr hstatus)]
          exact hrun
        · rw [hiff]
          cases statuses with
          | nil => simp
          | cons first rest =>
            have hfirst : first = .success := hstatus
            simp [hfirst]
        · by_cases hpp : p = port
          · simp [hpp]
          · simpa [hpp] using hp
        · rcases List.mem_cons.mp hp with rfl | hp
          · exact hkept p (Function.update_self ..)
          · exact hset h0 p hp hhash
      · refine ⟨_, s, by rw [if_pos hstatus]; rfl, iff_of_false hstatus fun hall => ?_,
          fun _ h => h, fun h0 => absurd h0 hstatus⟩
        cases statuses with
        | nil => exact hstatus rfl
        | cons first rest => exact hstatus (hall first (List.mem_cons_self ..))
    · have hcond : HashLib.portType port ≠ .lag ∧ HashLib.portType port ≠ .network :=
        not_or.mp hport
      rw [List.filter_cons_of_neg (by simpa using hport), ecmpHashSetPorts, if_pos hcond]
      obtain ⟨status, s', hrun, hiff, hkept, hset⟩ := ih statuses s
      refine ⟨status, s', hrun, hiff, hkept, fun h0 p hp hhash => ?_⟩
      rcases List.mem_cons.mp hp with rfl | hp
      · exact absurd hhash hport
      · exact hset h0 p hp hhash

/-- With nothing to hash it fails at once, and otherwise it succeeds when the SDK accepts. -/
theorem ecmpHashProgram_ends (sdk : HashSdk) (params : EcmpHashParams) (s : HashSai) :
    Ends (ecmpHashProgram sdk params) s fun status s' =>
      (params.fields = [] → status ≠ .success ∧ s' = s) ∧
      (params.fields ≠ [] → (status = .success ↔ sdk.Accepts)) ∧
      (status = .success → ∀ port ∈ sdk.ports, Hashes port → s'.ports port = some params) := by
  unfold ecmpHashProgram HashSdk.Accepts
  by_cases hnil : params.fields = []
  · rw [if_pos hnil]
    exact .pure ⟨fun _ => ⟨nofun, rfl⟩, fun h => absurd hnil h, nofun⟩
  rw [if_neg hnil]
  by_cases hcnt : sdk.portCnt.1 = .success
  · rw [if_neg (not_not.mpr hcnt)]
    by_cases hlist : sdk.portList.1 = .success
    · rw [if_neg (not_not.mpr hlist)]
      obtain ⟨status, s', hrun, hiff, -, hset⟩ := ecmpHashSetPorts_ends sdk.set sdk.ports s
      refine ⟨status, s', hrun, fun h => absurd h hnil, fun _ => hiff.trans ?_, hset⟩
      rw [and_iff_right hcnt, and_iff_right hlist, HashSdk.hashing]
    · rw [if_pos hlist]
      exact .pure ⟨fun h => absurd h hnil, fun _ => iff_of_false hlist fun h => hlist h.2.1,
        fun h => absurd h hlist⟩
  · rw [if_pos hcnt]
    exact .pure ⟨fun h => absurd h hnil, fun _ => iff_of_false hcnt fun h => hcnt h.1,
      fun h => absurd h hcnt⟩

/-- What a call should do, when `opsHash` is wanted after it. -/
structure HashFollows (opsHash : BitVec 64) (sdk : HashSdk) (s : HashSai) (st : Int)
    (s' : HashSai) : Prop where
  programmed : st = 0 → ∀ port ∈ sdk.ports, Hashes port →
    ∃ params, s'.ports port = some params ∧ FieldsOf opsHash params.fields
  refused : ¬WantsAny opsHash → st ≠ 0 ∧ s'.ports = s.ports

/-- The SDK accepts a call that programs ports when the destination ports are wanted. -/
def MissesDstPort (opsHash : BitVec 64) (sdk : HashSdk) : Prop :=
  sdk.Accepts ∧ (∃ port ∈ sdk.ports, Hashes port) ∧ Wants opsHash HashLib.dstPort

/-- A call always returns, and keeps track of what is wanted. -/
theorem ecmpHashSet_ends (c : EcmpCall) (s : HashSai) :
    Ends (ecmpHashSet c.sdk c.fieldsToSet c.enable) s fun st s' =>
      s'.ghashFields = c.request s.ghashFields ∧
      (HashFollows (c.request s.ghashFields) c.sdk s st s' ↔
        ¬MissesDstPort (c.request s.ghashFields) c.sdk) := by
  have hrequest : (if c.enable then s.ghashFields ||| c.fieldsToSet
      else s.ghashFields &&& (BitVec.allOnes 64 ^^^ c.fieldsToSet)) = c.request s.ghashFields := by
    rw [EcmpCall.request, BitVec.not_def]
  refine Ends.gets_bind ?_
  simp only [hrequest]
  generalize c.request s.ghashFields = opsHash
  obtain ⟨hfields, henables⟩ := opsHashToSxsdk_fits opsHash
  refine Ends.require_bind (by simpa using hfields) (Ends.require_bind (by simpa using henables) ?_)
  refine (ecmpHashProgram_ends c.sdk _ s).bind fun status s₁ ⟨hnil, hiff, hset⟩ => ?_
  rw [Ne, opsHashToSxsdk_eq_nil, not_not] at hiff
  rw [opsHashToSxsdk_eq_nil] at hnil
  refine ⟨_, _, rfl, rfl, fun hfollows ⟨haccepts, ⟨port, hport, hhash⟩, hdst⟩ => ?_,
    fun hmisses => ⟨fun h0 port hport hhash => ?_, fun hwants => ?_⟩⟩
  · have hstatus : status = .success := (hiff (.inr (.inr (.inr hdst)))).mpr haccepts
    obtain ⟨params, hparams, hright⟩ :=
      hfollows.programmed (sxError2Errno_eq_zero.mpr hstatus) port hport hhash
    obtain rfl := Option.some.inj ((hset hstatus port hport hhash).symm.trans hparams)
    exact fieldsOf_opsHashToSxsdk.1 hright hdst
  · have hstatus : status = .success := sxError2Errno_eq_zero.mp h0
    have hwants : WantsAny opsHash := by
      by_contra hwants
      exact (hnil hwants).1 hstatus
    refine ⟨_, hset hstatus port hport hhash, fieldsOf_opsHashToSxsdk.2 fun hdst => ?_⟩
    exact hmisses ⟨(hiff hwants).mp hstatus, ⟨port, hport, hhash⟩, hdst⟩
  · obtain ⟨hstatus, rfl⟩ := hnil hwants
    exact ⟨fun h0 => hstatus (sxError2Errno_eq_zero.mp h0), rfl⟩

/-! ## Runs -/

/-- Every call of a run does what it should; `opsHash` is what is wanted before the first one. -/
def RunFollows : List EcmpCall → BitVec 64 → HashSai → Prop
  | [], _, _ => True
  | c :: cs, opsHash, s => ∀ st s', ecmpHashSet c.sdk c.fieldsToSet c.enable s = .ok (st, s') →
    HashFollows (c.request opsHash) c.sdk s st s' ∧ RunFollows cs (c.request opsHash) s'

/-- In no call of a run does the SDK accept to program ports when the destination ports are
wanted. -/
def NeverMissesDstPort : List EcmpCall → BitVec 64 → Prop
  | [], _ => True
  | c :: cs, opsHash =>
    ¬MissesDstPort (c.request opsHash) c.sdk ∧ NeverMissesDstPort cs (c.request opsHash)

/-- **Ports hash what is wanted exactly when it is not the destination ports.** -/
theorem runFollows_iff (cs : List EcmpCall) (s : HashSai) :
    RunFollows cs s.ghashFields s ↔ NeverMissesDstPort cs s.ghashFields := by
  induction cs generalizing s with
  | nil => exact Iff.rfl
  | cons c cs ih =>
    obtain ⟨st, s', hrun, htrack, hiff⟩ := ecmpHashSet_ends c s
    have hrest := ih s'
    rw [htrack] at hrest
    constructor
    · intro h
      obtain ⟨hfollows, hfollows'⟩ := h st s' hrun
      exact ⟨hiff.mp hfollows, hrest.mp hfollows'⟩
    · rintro ⟨hmisses, hmisses'⟩ st₁ s₁ hrun₁
      obtain ⟨rfl, rfl⟩ : st = st₁ ∧ s' = s₁ := by simpa [hrun] using hrun₁
      exact ⟨hiff.mpr hmisses, hrest.mpr hmisses'⟩

end

section

/-- The bits in the order of their use; every port is a network port. -/
@[reducible] def sampleHash : HashLib where
  srcIp := 1
  dstIp := 2
  srcPort := 4
  dstPort := 8
  portType _ := .network
  fieldsNum := 64
  fieldsEnablesNum := 16
  fieldsNum_le := by decide
  fieldsEnablesNum_le := by decide

attribute [local instance] sampleHash

/-- One port, and no call fails. -/
def sampleHashSdk : HashSdk := ⟨(.success, 1), (.success, [1]), []⟩

/-- With the destination ports wanted, port 1 is given the fields of the source ports. -/
theorem runFollows_dstPort : ¬RunFollows [⟨8, true, sampleHashSdk⟩] 0 ⟨0, fun _ => none⟩ := by
  intro h
  obtain ⟨st, s', hrun, -, hiff⟩ := ecmpHashSet_ends ⟨8, true, sampleHashSdk⟩ ⟨0, fun _ => none⟩
  refine hiff.mp (h st s' hrun).1 ⟨⟨rfl, rfl, ?_⟩, ⟨1, List.mem_singleton_self 1, .inr rfl⟩, ?_⟩
  · intro status hstatus
    cases hstatus
  · decide

end

end SwitchdSai
