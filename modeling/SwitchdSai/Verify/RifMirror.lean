import SwitchdSai.Lib.Mirror
import SwitchdSai.Lib.Run
import SwitchdSai.Verify.RouterIntf

/-!
# The table of router interfaces and the SDK

The table `all_router_intf` mirrors the SDK when it records every interface with its counter. A
creation or removal that returns after its first call or after its last one keeps the mirror; one
that stops in between breaks it, since nothing is rolled back.
-/

namespace SwitchdSai

open Exec

/-- What the router interface functions work on. -/
structure RifTables where
  routerIntfs : AList fun _ : Nat => HwRouterIntf
  counters : List Nat
  allRouterIntf : List RifEntry

def Hw.rifTables (hw : Hw) : RifTables := ⟨hw.routerIntfs, hw.counters, hw.allRouterIntf⟩

namespace RifTables

/-- The interfaces of the SDK are the recorded ones, each bound to its recorded counter, and there
is no other counter. -/
structure Mirrored (t : RifTables) : Prop where
  recorded : ∀ rif, rif ∈ t.routerIntfs ↔ ∃ e ∈ t.allRouterIntf, e.rifId = rif
  bound : ∀ e ∈ t.allRouterIntf, ∃ r, t.routerIntfs.lookup e.rifId = some r ∧
    r.counter = some e.counterId
  counters : ∀ counter, counter ∈ t.counters ↔ ∃ e ∈ t.allRouterIntf, e.counterId = counter

/-- A mirror in which nothing is recorded twice. -/
structure Ok (t : RifTables) : Prop extends t.Mirrored where
  rifIds : (t.allRouterIntf.map (·.rifId)).Nodup
  counterIds : (t.allRouterIntf.map (·.counterId)).Nodup
  nodup : t.counters.Nodup

theorem Ok.empty : Ok ⟨∅, [], []⟩ where
  recorded rif := by simp
  bound e he := by cases he
  counters counter := by simp
  rifIds := .nil
  counterIds := .nil
  nodup := .nil

variable {t : RifTables} {e : RifEntry} {r : HwRouterIntf}

/-- The counter that an interface is bound to exists. -/
theorem Mirrored.counter_mem {rif counter : Nat} (h : t.Mirrored)
    (hr : t.routerIntfs.lookup rif = some r) (hc : r.counter = some counter) :
    counter ∈ t.counters := by
  obtain ⟨e, he, rfl⟩ := (h.recorded rif).mp (AList.lookup_isSome.mp (Option.isSome_of_eq_some hr))
  obtain ⟨r', hr', hbound⟩ := h.bound e he
  obtain rfl : r' = r := Option.some.inj (hr'.symm.trans hr)
  exact (h.counters counter).mpr ⟨e, he, Option.some.inj (hbound.symm.trans hc)⟩

/-- A new interface with a new counter, both recorded. -/
theorem Ok.add (h : t.Ok) (hrif : e.rifId ∉ t.routerIntfs) (hcounter : e.counterId ∉ t.counters)
    (hbound : r.counter = some e.counterId) :
    Ok ⟨t.routerIntfs.insert e.rifId r, e.counterId :: t.counters, e :: t.allRouterIntf⟩ where
  recorded rif := by
    rw [AList.mem_insert, h.recorded]
    simp [eq_comm]
  bound e' he' := by
    rcases List.mem_cons.mp he' with rfl | he'
    · exact ⟨r, AList.lookup_insert _, hbound⟩
    · have hne : e'.rifId ≠ e.rifId := fun heq =>
        hrif ((h.recorded _).mpr ⟨e', he', heq⟩)
      obtain ⟨r', hlookup, hr'⟩ := h.bound e' he'
      exact ⟨r', (AList.lookup_insert_ne hne).trans hlookup, hr'⟩
  counters counter := by
    rw [List.mem_cons, h.counters]
    simp [eq_comm]
  rifIds := by
    refine List.nodup_cons.mpr ⟨fun hmem => ?_, h.rifIds⟩
    obtain ⟨e', he', heq⟩ := List.mem_map.mp hmem
    exact hrif ((h.recorded _).mpr ⟨e', he', heq⟩)
  counterIds := by
    refine List.nodup_cons.mpr ⟨fun hmem => ?_, h.counterIds⟩
    obtain ⟨e', he', heq⟩ := List.mem_map.mp hmem
    exact hcounter ((h.counters _).mpr ⟨e', he', heq⟩)
  nodup := List.nodup_cons.mpr ⟨hcounter, h.nodup⟩

/-- An interface goes with its counter and its entry. -/
theorem Ok.remove (h : t.Ok) (he : e ∈ t.allRouterIntf) :
    Ok ⟨(t.routerIntfs.insert e.rifId r).erase e.rifId, t.counters.erase e.counterId,
      t.allRouterIntf.eraseP (·.rifId = e.rifId)⟩ := by
  have hmem : ∀ {e'}, e' ∈ t.allRouterIntf.eraseP (·.rifId = e.rifId) ↔
      e' ∈ t.allRouterIntf ∧ e'.rifId ≠ e.rifId := List.mem_eraseP_key h.rifIds
  refine ⟨⟨fun rif => ?_, fun e' he' => ?_, fun counter => ?_⟩, ?_, ?_, h.nodup.erase _⟩
  · rw [AList.mem_erase, AList.mem_insert]
    constructor
    · rintro ⟨hne, hin⟩
      obtain ⟨e', he', rfl⟩ := (h.recorded rif).mp (hin.resolve_left hne)
      exact ⟨e', hmem.mpr ⟨he', hne⟩, rfl⟩
    · rintro ⟨e', he', rfl⟩
      obtain ⟨he', hne⟩ := hmem.mp he'
      exact ⟨hne, .inr ((h.recorded _).mpr ⟨e', he', rfl⟩)⟩
  · obtain ⟨he', hne⟩ := hmem.mp he'
    obtain ⟨r', hlookup, hr'⟩ := h.bound e' he'
    exact ⟨r', (AList.lookup_erase_ne hne).trans ((AList.lookup_insert_ne hne).trans hlookup), hr'⟩
  · rw [h.nodup.mem_erase_iff, h.counters]
    constructor
    · rintro ⟨hne, e', he', rfl⟩
      refine ⟨e', hmem.mpr ⟨he', fun heq => hne ?_⟩, rfl⟩
      rw [List.inj_on_of_nodup_map h.rifIds he' he heq]
    · rintro ⟨e', he', rfl⟩
      obtain ⟨he', hne⟩ := hmem.mp he'
      refine ⟨fun heq => hne ?_, e', he', rfl⟩
      rw [List.inj_on_of_nodup_map h.counterIds he' he heq]
  · exact List.Nodup.sublist (List.eraseP_sublist.map _) h.rifIds
  · exact List.Nodup.sublist (List.eraseP_sublist.map _) h.counterIds

/-- An interface changes and keeps its counter. -/
theorem Ok.set (h : t.Ok) {rif : Nat} {r' : HwRouterIntf} (hr : t.routerIntfs.lookup rif = some r)
    (hcounter : r'.counter = r.counter) :
    Ok ⟨t.routerIntfs.insert rif r', t.counters, t.allRouterIntf⟩ where
  recorded rif' := by
    rw [AList.mem_insert, ← h.recorded]
    constructor
    · rintro (rfl | hin)
      · exact AList.lookup_isSome.mp (Option.isSome_iff_exists.mpr ⟨r, hr⟩)
      · exact hin
    · exact .inr
  bound e he := by
    obtain ⟨row, hrow, hbound⟩ := h.bound e he
    by_cases hid : e.rifId = rif
    · subst hid
      cases hr.symm.trans hrow
      exact ⟨r', AList.lookup_insert _, hcounter.trans hbound⟩
    · exact ⟨row, (AList.lookup_insert_ne hid).trans hrow, hbound⟩
  counters := h.counters
  rifIds := h.rifIds
  counterIds := h.counterIds
  nodup := h.nodup

end RifTables

/-! ## One call -/

namespace Hw

variable {hw hw' : Hw}

/-- A valid call whose failure is returned. -/
theorem callIf_orError {valid : Hw → Bool} {effect : Hw → Hw} {k : Exec Hw Int} {st : Int}
    (hvalid : valid hw = true) (hout : (effect hw.tick).outcomes = hw.outcomes.tail)
    (h : (callIf valid effect >>= fun status =>
      if status ≠ .success then pure (sxError2Errno status) else k) hw = .ok (st, hw')) :
    (st ≠ 0 ∧ ¬hw.Accepts 0 ∧ hw' = hw.tick) ∨
      (hw.Accepts 0 ∧ (∀ i, (effect hw.tick).Accepts i ↔ hw.Accepts (i + 1)) ∧
        k (effect hw.tick) = .ok (st, hw')) := by
  obtain ⟨status, hw₁, hcall, h⟩ := bind_ok.mp h
  rcases callIf_accepts hvalid hcall with ⟨rfl, ha, rfl⟩ | ⟨hs, ha, rfl⟩
  · exact .inr ⟨ha, fun i => accepts_tail hout, h⟩
  · rw [if_pos hs] at h
    cases h
    exact .inl ⟨sxError2Errno_ne_zero hs, ha, rfl⟩

theorem bindCounter_outcomes (rif : Nat) (counter : Option Nat) (hw : Hw) :
    (hw.bindCounter rif counter).outcomes = hw.outcomes := by
  unfold bindCounter
  split <;> rfl

theorem bindCounter_rifTables {rif : Nat} {counter : Option Nat} {r : HwRouterIntf}
    (h : hw.routerIntfs.lookup rif = some r) : (hw.bindCounter rif counter).rifTables =
      ⟨hw.routerIntfs.insert rif { r with counter := counter }, hw.counters, hw.allRouterIntf⟩ := by
  unfold bindCounter
  rw [h]
  rfl

end Hw

open Hw

variable {hw hw' : Hw} {status : SaiStatus} {st : Int} {vrid ifc handle rif rifHandle counter : Nat}
  {type : RouterIntfType}

/-- An SDK call that changes no table. -/
theorem sxCall_accepts (h : sxCall hw = .ok (status, hw')) :
    (status = .success ↔ hw.Accepts 0) ∧ hw'.outcomes = hw.outcomes.tail ∧
      hw'.rifTables = hw.rifTables := by
  rw [sxCall] at h
  rcases call_accepts h with ⟨hs, ha, rfl⟩ | ⟨hs, ha, rfl⟩
  · exact ⟨iff_of_true hs ha, rfl, rfl⟩
  · exact ⟨iff_of_false hs ha, rfl, rfl⟩

/-- The number of SDK calls made for the object of an interface to be created. -/
def RouterIntfType.objectCalls : RouterIntfType → Nat
  | .port => 1
  | .vlan => 0

/-- The port object or VLAN of an interface. -/
def intfIfc (oid : Nat → Nat) (handle : Nat) : RouterIntfType → Nat
  | .port => oid handle
  | .vlan => handle % 65536

theorem intfParamsIfc_accepts (h : intfParamsIfc type handle hw = .ok (ifc, hw')) :
    (∀ i, hw'.Accepts i ↔ hw.Accepts (type.objectCalls + i)) ∧ hw'.rifTables = hw.rifTables ∧
      ifc = intfIfc hw.opsSaiApiHwId2PortId handle type := by
  cases type with
  | port =>
    rw [intfParamsIfc, gets_bind] at h
    obtain ⟨status, hw₁, hcall, h⟩ := bind_ok.mp h
    obtain ⟨-, h⟩ := require_bind.mp h
    cases h
    obtain ⟨-, hout, htables⟩ := sxCall_accepts hcall
    refine ⟨fun i => ?_, htables, rfl⟩
    rw [accepts_tail hout, Nat.add_comm]
    rfl
  | vlan =>
    cases h
    refine ⟨fun i => ?_, rfl, rfl⟩
    rw [RouterIntfType.objectCalls, Nat.zero_add]

theorem sxRouterInterfaceAdd_accepts
    (h : sxRouterInterfaceAdd vrid type ifc hw = .ok ((status, rif), hw')) :
    rif ∉ hw.routerIntfs ∧ (status = .success ↔ hw.Accepts 0) ∧
      hw'.outcomes = hw.outcomes.tail ∧ hw'.rifTables =
        if status = .success then ⟨hw.routerIntfs.insert rif ⟨vrid, type, ifc, false, none⟩,
          hw.counters, hw.allRouterIntf⟩ else hw.rifTables := by
  obtain ⟨n, hw₁, h₁, h⟩ := bind_ok.mp h
  cases h₁
  rw [gets_bind] at h
  obtain ⟨status, hw₂, h₂, hend⟩ := bind_ok.mp h
  cases hend
  refine ⟨fresh_notMem _ _, ?_⟩
  rcases call_accepts h₂ with ⟨rfl, ha, rfl⟩ | ⟨hs, ha, rfl⟩
  · exact ⟨iff_of_true rfl ha, rfl, rfl⟩
  · refine ⟨iff_of_false hs ha, rfl, ?_⟩
    rw [if_neg hs]
    rfl

theorem sxRouterCounterCreate_accepts
    (h : sxRouterCounterCreate hw = .ok ((status, counter), hw')) :
    counter ∉ hw.counters ∧ (status = .success ↔ hw.Accepts 0) ∧
      hw'.outcomes = hw.outcomes.tail ∧ hw'.rifTables =
        if status = .success then ⟨hw.routerIntfs, counter :: hw.counters, hw.allRouterIntf⟩
        else hw.rifTables := by
  obtain ⟨n, hw₁, h₁, h⟩ := bind_ok.mp h
  cases h₁
  rw [gets_bind] at h
  obtain ⟨status, hw₂, h₂, hend⟩ := bind_ok.mp h
  cases hend
  refine ⟨fresh_notMem _ _, ?_⟩
  rcases call_accepts h₂ with ⟨rfl, ha, rfl⟩ | ⟨hs, ha, rfl⟩
  · exact ⟨iff_of_true rfl ha, rfl, rfl⟩
  · refine ⟨iff_of_false hs ha, rfl, ?_⟩
    rw [if_neg hs]
    rfl

/-- Binding and unbinding, on an interface for which it is valid. -/
theorem callIf_bindCounter_accepts {valid : Hw → Bool} {c : Option Nat} {r : HwRouterIntf}
    (hvalid : valid hw = true) (hlookup : hw.routerIntfs.lookup rif = some r)
    (h : callIf valid (bindCounter rif c) hw = .ok (status, hw')) :
    (status = .success ↔ hw.Accepts 0) ∧ hw'.outcomes = hw.outcomes.tail ∧ hw'.rifTables =
      if status = .success then ⟨hw.routerIntfs.insert rif { r with counter := c }, hw.counters,
        hw.allRouterIntf⟩ else hw.rifTables := by
  rcases callIf_accepts hvalid h with ⟨rfl, ha, rfl⟩ | ⟨hs, ha, rfl⟩
  · exact ⟨iff_of_true rfl ha, bindCounter_outcomes _ _ _, bindCounter_rifTables hlookup⟩
  · exact ⟨iff_of_false hs ha, rfl, (if_neg hs).symm⟩

/-! ## Creation and removal -/

/-- A creation returns before it has added anything, in between, or with the interface recorded. -/
theorem opsSaiRouterIntfCreate_cases
    (h : opsSaiRouterIntfCreate vrid type handle rifHandle hw = .ok ((st, rif), hw')) :
    (st ≠ 0 ∧ (hw.Accepts type.objectCalls → ¬hw.Accepts (type.objectCalls + 1)) ∧
        hw'.rifTables = hw.rifTables) ∨
      (st ≠ 0 ∧ hw.Accepts type.objectCalls ∧ hw.Accepts (type.objectCalls + 1) ∧
        ¬(hw.Accepts (type.objectCalls + 2) ∧ hw.Accepts (type.objectCalls + 3)) ∧
        ∃ r, r ∉ hw.routerIntfs ∧ r ∈ hw'.routerIntfs ∧
          hw'.allRouterIntf = hw.allRouterIntf) ∨
      (st = 0 ∧ hw.Accepts (type.objectCalls + 2) ∧ hw.Accepts (type.objectCalls + 3) ∧
        rif ∉ hw.routerIntfs ∧ ∃ counter, counter ∉ hw.counters ∧ hw'.rifTables =
          ⟨hw.routerIntfs.insert rif
              ⟨vrid, type, intfIfc hw.opsSaiApiHwId2PortId handle type, false, some counter⟩,
            counter :: hw.counters, ⟨rif, counter, type, handle⟩ :: hw.allRouterIntf⟩) := by
  obtain ⟨ifc, hw₁, h₁, h⟩ := bind_ok.mp h
  obtain ⟨hacc₁, ht₁, rfl⟩ := intfParamsIfc_accepts h₁
  obtain ⟨s₂, hw₂, h₂, h⟩ := bind_ok.mp h
  obtain ⟨hs₂, hout₂, ht₂⟩ := sxCall_accepts h₂
  have ht₂ := ht₂.trans ht₁
  rw [hacc₁] at hs₂
  have hacc₂ : ∀ i, hw₂.Accepts i ↔ hw.Accepts (type.objectCalls + (i + 1)) := fun i =>
    (accepts_tail hout₂).trans (hacc₁ _)
  rcases orError_ok h with ⟨hs, hend⟩ | ⟨rfl, h⟩
  · cases hend
    exact .inl ⟨sxError2Errno_ne_zero hs, fun ha => absurd (hs₂.mpr ha) hs, ht₂⟩
  obtain ⟨⟨s₃, rif₃⟩, hw₃, h₃, h⟩ := bind_ok.mp h
  obtain ⟨hfresh, hs₃, hout₃, ht₃⟩ := sxRouterInterfaceAdd_accepts h₃
  rw [hacc₂] at hs₃
  have hacc₃ : ∀ i, hw₃.Accepts i ↔ hw.Accepts (type.objectCalls + (i + 2)) := fun i =>
    (accepts_tail hout₃).trans (hacc₂ _)
  rcases orError_ok h with ⟨hs, hend⟩ | ⟨rfl, h⟩
  · cases hend
    refine .inl ⟨sxError2Errno_ne_zero hs, fun _ ha => hs (hs₃.mpr ha), ?_⟩
    rw [ht₃, if_neg hs, ht₂]
  have hri₂ : hw₂.routerIntfs = hw.routerIntfs := congrArg RifTables.routerIntfs ht₂
  have hc₂ : hw₂.counters = hw.counters := congrArg RifTables.counters ht₂
  have hall₂ : hw₂.allRouterIntf = hw.allRouterIntf := congrArg RifTables.allRouterIntf ht₂
  rw [if_pos rfl, hri₂, hc₂, hall₂] at ht₃
  rw [hri₂] at hfresh
  have hri₃ := congrArg RifTables.routerIntfs ht₃
  have hc₃ : hw₃.counters = hw.counters := congrArg RifTables.counters ht₃
  obtain ⟨⟨s₄, counter⟩, hw₄, h₄, h⟩ := bind_ok.mp h
  obtain ⟨hnew, hs₄, hout₄, ht₄⟩ := sxRouterCounterCreate_accepts h₄
  rw [hacc₃] at hs₄
  rw [hc₃] at hnew
  have hacc₄ : ∀ i, hw₄.Accepts i ↔ hw.Accepts (type.objectCalls + (i + 3)) := fun i =>
    (accepts_tail hout₄).trans (hacc₃ _)
  have hleft : ∀ {hw'' : Hw} {status}, status ≠ .success →
      ¬(hw.Accepts (type.objectCalls + 2) ∧ hw.Accepts (type.objectCalls + 3)) →
      rif₃ ∈ hw''.routerIntfs → hw''.allRouterIntf = hw.allRouterIntf →
      sxError2Errno status ≠ 0 ∧ hw.Accepts type.objectCalls ∧
        hw.Accepts (type.objectCalls + 1) ∧
        ¬(hw.Accepts (type.objectCalls + 2) ∧ hw.Accepts (type.objectCalls + 3)) ∧
        ∃ r, r ∉ hw.routerIntfs ∧ r ∈ hw''.routerIntfs ∧ hw''.allRouterIntf = hw.allRouterIntf :=
    fun hs hna hin hall => ⟨sxError2Errno_ne_zero hs, hs₂.mp rfl, hs₃.mp rfl, hna, rif₃, hfresh,
      hin, hall⟩
  rcases orError_ok h with ⟨hs, hend⟩ | ⟨rfl, h⟩
  · cases hend
    rw [if_neg hs, ht₃] at ht₄
    refine .inr (.inl (hleft hs (fun ha => hs (hs₄.mpr ha.1)) ?_ ?_))
    · rw [show hw'.routerIntfs = _ from congrArg RifTables.routerIntfs ht₄]
      exact (AList.mem_insert _).mpr (.inl rfl)
    · exact congrArg RifTables.allRouterIntf ht₄
  have hri₄ : hw₄.routerIntfs = _ := (congrArg RifTables.routerIntfs ht₄).trans hri₃
  have hc₄ : hw₄.counters = counter :: hw₃.counters := congrArg RifTables.counters ht₄
  have hall₄ : hw₄.allRouterIntf = hw.allRouterIntf :=
    (congrArg RifTables.allRouterIntf ht₄).trans (congrArg RifTables.allRouterIntf ht₃)
  obtain ⟨s₅, hw₅, h₅, h⟩ := bind_ok.mp h
  have hlookup : hw₄.routerIntfs.lookup rif₃ =
      some ⟨vrid, type, intfIfc hw.opsSaiApiHwId2PortId handle type, false, none⟩ := by
    rw [hri₄]
    exact AList.lookup_insert _
  obtain ⟨hs₅, -, ht₅⟩ := callIf_bindCounter_accepts (Option.isSome_iff_exists.mpr ⟨_, hlookup⟩)
    hlookup h₅
  rw [hacc₄] at hs₅
  rcases orError_ok h with ⟨hs, hend⟩ | ⟨rfl, hentry⟩
  · cases hend
    rw [if_neg hs] at ht₅
    refine .inr (.inl (hleft hs (fun ha => hs (hs₅.mpr ha.2)) ?_ ?_))
    · rw [show hw'.routerIntfs = _ from congrArg RifTables.routerIntfs ht₅]
      exact AList.lookup_isSome.mp (Option.isSome_iff_exists.mpr ⟨_, hlookup⟩)
    · exact (congrArg RifTables.allRouterIntf ht₅).trans hall₄
  rw [if_pos rfl, hri₄, hc₄, hc₃, hall₄, AList.insert_insert] at ht₅
  rw [gets_bind] at hentry
  obtain ⟨-, hentry⟩ := require_bind.mp hentry
  rw [modify_bind] at hentry
  cases hentry
  refine .inr (.inr ⟨rfl, hs₄.mp rfl, hs₅.mp rfl, hfresh, counter, hnew, ?_⟩)
  exact congrArg (fun t : RifTables =>
    { t with allRouterIntf := ⟨rif, counter, type, handle⟩ :: t.allRouterIntf }) ht₅

/-- A removal from a mirror returns before it has changed anything, with the interface recorded but
its counter unbound, or with interface, counter and entry gone. -/
theorem opsSaiRouterIntfRemove_cases {e : RifEntry} (hok : hw.rifTables.Mirrored)
    (he : hw.routerIntfEntryFind rif = some e)
    (h : opsSaiRouterIntfRemove rif hw = .ok (st, hw')) :
    (st ≠ 0 ∧ ¬hw.Accepts 0 ∧ hw'.rifTables = hw.rifTables) ∨
      (st ≠ 0 ∧ hw.Accepts 0 ∧ ¬(hw.Accepts 1 ∧ hw.Accepts 2 ∧ hw.Accepts 3) ∧
        (∃ r, hw'.routerIntfs.lookup e.rifId = some r ∧ r.counter = none) ∧
        hw'.allRouterIntf = hw.allRouterIntf) ∨
      (st = 0 ∧ hw.Accepts 1 ∧ hw.Accepts 2 ∧ hw.Accepts 3 ∧ ∃ r, hw'.rifTables =
        ⟨(hw.routerIntfs.insert e.rifId r).erase e.rifId, hw.counters.erase e.counterId,
          hw.allRouterIntf.eraseP (·.rifId = e.rifId)⟩) := by
  have hid : e.rifId = rif := of_decide_eq_true (List.find?_some he :)
  have hmem : e ∈ hw.allRouterIntf := List.mem_of_find?_eq_some he
  obtain ⟨r, hlookup, hbound⟩ := hok.bound e hmem
  have hcounter : e.counterId ∈ hw.counters := (hok.counters _).mpr ⟨e, hmem, rfl⟩
  rw [opsSaiRouterIntfRemove, gets_bind, he] at h
  obtain ⟨_, hsome, h⟩ := need_bind.mp h
  cases hsome
  obtain ⟨s₁, hw₁, h₁, h⟩ := bind_ok.mp h
  obtain ⟨hs₁, hout₁, ht₁⟩ := callIf_bindCounter_accepts (r := r) (by
    show (hw.routerIntfs.lookup e.rifId).any _ = true
    rw [show hw.routerIntfs.lookup e.rifId = some r from hlookup]
    exact decide_eq_true hbound) hlookup h₁
  rcases orError_ok h with ⟨hs, hend⟩ | ⟨rfl, h⟩
  · cases hend
    rw [if_neg hs] at ht₁
    exact .inl ⟨sxError2Errno_ne_zero hs, fun ha => hs (hs₁.mpr ha), ht₁⟩
  rw [if_pos rfl] at ht₁
  have hri₁ := congrArg RifTables.routerIntfs ht₁
  have hc₁ : hw₁.counters = hw.counters := congrArg RifTables.counters ht₁
  have hall₁ : hw₁.allRouterIntf = hw.allRouterIntf := congrArg RifTables.allRouterIntf ht₁
  have hlookup₁ : hw₁.routerIntfs.lookup e.rifId = some { r with counter := none } := by
    rw [show hw₁.routerIntfs = _ from hri₁]
    exact AList.lookup_insert _
  have hacc₁ : ∀ i, hw₁.Accepts i ↔ hw.Accepts (i + 1) := fun i => accepts_tail hout₁
  -- a return from here on leaves the interface without its counter
  have hleft : ∀ {hw'' : Hw}, ¬(hw.Accepts 1 ∧ hw.Accepts 2 ∧ hw.Accepts 3) →
      hw''.routerIntfs = hw₁.routerIntfs → hw''.allRouterIntf = hw₁.allRouterIntf →
      hw.Accepts 0 ∧ ¬(hw.Accepts 1 ∧ hw.Accepts 2 ∧ hw.Accepts 3) ∧
        (∃ r, hw''.routerIntfs.lookup e.rifId = some r ∧ r.counter = none) ∧
        hw''.allRouterIntf = hw.allRouterIntf :=
    fun hna hri hall => ⟨hs₁.mp rfl, hna, ⟨_, (congrArg _ hri).trans hlookup₁, rfl⟩,
      hall.trans hall₁⟩
  have hsome : (hw₁.routerIntfs.lookup e.rifId).isSome := Option.isSome_iff_exists.mpr ⟨_, hlookup₁⟩
  rcases callIf_orError (decide_eq_true (hc₁ ▸ hcounter)) rfl h with
    ⟨h0, ha₂, rfl⟩ | ⟨ha₂, hacc₂, h⟩
  · exact .inr (.inl ⟨h0, hleft (fun ha => ha₂ ((hacc₁ 0).mpr ha.1)) rfl rfl⟩)
  rcases callIf_orError hsome rfl h with ⟨h0, ha₃, rfl⟩ | ⟨ha₃, hacc₃, h⟩
  · refine .inr (.inl ⟨h0, hleft (fun ha => ha₃ ?_) rfl rfl⟩)
    exact (hacc₂ 0).mpr ((hacc₁ 1).mpr ha.2.1)
  rcases callIf_orError hsome rfl h with ⟨h0, ha₄, rfl⟩ | ⟨ha₄, -, h⟩
  · refine .inr (.inl ⟨h0, hleft (fun ha => ha₄ ?_) rfl rfl⟩)
    exact (hacc₃ 0).mpr ((hacc₂ 1).mpr ((hacc₁ 2).mpr ha.2.2))
  cases h
  refine .inr (.inr ⟨rfl, (hacc₁ 0).mp ha₂, (hacc₁ 1).mp ((hacc₂ 0).mp ha₃),
    (hacc₁ 2).mp ((hacc₂ 1).mp ((hacc₃ 0).mp ha₄)), { r with counter := none }, ?_⟩)
  have hend := congrArg (fun t : RifTables =>
    (⟨t.routerIntfs.erase e.rifId, t.counters.erase e.counterId,
      t.allRouterIntf.eraseP (·.rifId = rif)⟩ : RifTables)) ht₁
  rw [← hid] at hend ⊢
  exact hend

theorem opsSaiRouterIntfRemove_ends {e : RifEntry} (he : hw.routerIntfEntryFind rif = some e) :
    Ends (opsSaiRouterIntfRemove rif) hw fun _ _ => True := by
  have hcall : ∀ {valid effect} {k : Exec Hw Int},
      (∀ hw, Ends k hw fun _ _ => True) → ∀ hw, Ends (callIf valid effect >>= fun status =>
        if status ≠ .success then pure (sxError2Errno status) else k) hw fun _ _ => True := by
    intro valid effect k hk hw
    refine Ends.bind (Q := fun _ _ => True) ?_ fun status hw' _ => ?_
    · unfold Ends callIf
      dsimp only
      split
      · split <;> exact ⟨_, _, rfl, trivial⟩
      · exact ⟨_, _, rfl, trivial⟩
    · split
      · exact Ends.pure trivial
      · exact hk hw'
  refine Ends.gets_bind ((Ends.need (Q := fun _ _ => True) he trivial).bind fun r hw _ => ?_)
  exact hcall (hcall (hcall (hcall fun _ => ⟨_, _, rfl, trivial⟩))) hw

/-! ## Runs -/

inductive RifCall where
  | create (vrid : Nat) (type : RouterIntfType) (handle rifHandle : Nat)
  | remove (rifHandle : Nat)

def RifCall.prog : RifCall → Exec Hw (Int × Nat)
  | .create vrid type handle rifHandle => opsSaiRouterIntfCreate vrid type handle rifHandle
  | .remove rifHandle => do return (← opsSaiRouterIntfRemove rifHandle, rifHandle)

abbrev RifEvent := Event Hw RifCall (Int × Nat)

/-- The handles that a successful creation has returned and no removal has removed yet. -/
def liveHandles : List RifEvent → List Nat
  | [] => []
  | e :: es =>
    if e.result.1 = 0 then
      match e.call with
      | .create .. => e.result.2 :: liveHandles es
      | .remove rifHandle => (liveHandles es).erase rifHandle
    else liveHandles es

/-- Only live handles are removed. -/
def RemovesLive : List RifEvent → Prop
  | [] => True
  | e :: es => (∀ rif, e.call = .remove rif → rif ∈ liveHandles es) ∧ RemovesLive es

/-- No call fails between the first change of a table and the last one. -/
def RifCall.Safe (hw : Hw) : RifCall → Prop
  | .create _ type _ _ => hw.Accepts type.objectCalls → hw.Accepts (type.objectCalls + 1) →
      hw.Accepts (type.objectCalls + 2) ∧ hw.Accepts (type.objectCalls + 3)
  | .remove _ => hw.Accepts 0 → hw.Accepts 1 ∧ hw.Accepts 2 ∧ hw.Accepts 3

/-- The mirror after a call, and what it means for a call that failed. -/
structure RifEventOk (e : RifEvent) : Prop where
  mirrored : e.after.rifTables.Mirrored
  /-- A failed creation leaves no interface and no counter behind. -/
  created : ∀ vrid type handle rifHandle, e.call = .create vrid type handle rifHandle →
    e.result.1 ≠ 0 → e.after.rifTables = e.before.rifTables
  /-- A failed removal can be retried. -/
  removed : ∀ rif, e.call = .remove rif → e.result.1 ≠ 0 →
    ∃ hw', opsSaiRouterIntfRemove rif { e.after with outcomes := [] } = .ok (0, hw')

/-- A removal succeeds on a mirror while every call does. -/
theorem opsSaiRouterIntfRemove_willing {e : RifEntry} (hwill : hw.Willing)
    (hok : hw.rifTables.Mirrored) (he : hw.routerIntfEntryFind rif = some e) :
    ∃ hw', opsSaiRouterIntfRemove rif hw = .ok (0, hw') := by
  obtain ⟨st, hw', h, -⟩ := opsSaiRouterIntfRemove_ends he
  rcases opsSaiRouterIntfRemove_cases hok he h with ⟨-, ha, -⟩ | ⟨-, -, ha, -⟩ | ⟨rfl, -⟩
  · exact absurd (hwill.accepts 0) ha
  · exact absurd ⟨hwill.accepts 1, hwill.accepts 2, hwill.accepts 3⟩ ha
  · exact ⟨hw', h⟩

/-- The run so far: what is recorded is live, and nothing is recorded twice. -/
structure RifsRecorded (es : List RifEvent) (hw : Hw) : Prop where
  ok : hw.rifTables.Ok
  live : hw.allRouterIntf.map (·.rifId) = liveHandles es

theorem RifsRecorded.find {es : List RifEvent} (h : RifsRecorded es hw)
    (hlive : rif ∈ liveHandles es) : ∃ e, hw.routerIntfEntryFind rif = some e := by
  rw [← h.live] at hlive
  obtain ⟨e, he, hid⟩ := List.mem_map.mp hlive
  refine Option.isSome_iff_exists.mp (List.find?_isSome.mpr ⟨e, he, ?_⟩)
  exact decide_eq_true hid

theorem RifsRecorded.create {es : List RifEvent} {r : Int × Nat} (H : RifsRecorded es hw)
    (h : opsSaiRouterIntfCreate vrid type handle rifHandle hw = .ok (r, hw')) :
    let e : RifEvent := ⟨hw, .create vrid type handle rifHandle, r, hw'⟩
    (e.call.Safe hw → RifEventOk e ∧ RifsRecorded (e :: es) hw') ∧
      (hw'.rifTables.Mirrored → e.call.Safe hw) := by
  intro e
  rcases opsSaiRouterIntfCreate_cases h with
    ⟨h0, ha, ht⟩ | ⟨-, ha, ha', hna, rif, hfresh, hin, hall⟩ |
      ⟨h0, ha, ha', hfresh, counter, hnew, ht⟩
  · refine ⟨fun _ => ?_, fun _ hk hk' => absurd hk' (ha hk)⟩
    have hok : hw'.rifTables.Ok := ht ▸ H.ok
    refine ⟨⟨hok.toMirrored, fun _ _ _ _ _ _ => ht, fun _ hcall => by cases hcall⟩, hok, ?_⟩
    rw [liveHandles, if_neg h0, ← H.live]
    exact congrArg (fun t : RifTables => t.allRouterIntf.map (·.rifId)) ht
  · refine ⟨fun hsafe => absurd (hsafe ha ha') hna, fun hm => ?_⟩
    -- an interface that is not recorded has been left
    obtain ⟨e', he', hid⟩ := (hm.recorded rif).mp hin
    have he' : e' ∈ hw'.allRouterIntf := he'
    rw [hall] at he'
    exact absurd ((H.ok.recorded rif).mpr ⟨e', he', hid⟩) hfresh
  · refine ⟨fun _ => ?_, fun _ _ _ => ⟨ha, ha'⟩⟩
    have hok : hw'.rifTables.Ok := by
      rw [ht]
      exact H.ok.add (e := ⟨r.2, counter, type, handle⟩) hfresh hnew rfl
    refine ⟨⟨hok.toMirrored, fun _ _ _ _ _ hne => absurd h0 hne, fun _ hcall => by cases hcall⟩,
      hok, ?_⟩
    rw [liveHandles, if_pos h0, ← H.live]
    exact congrArg (fun t : RifTables => t.allRouterIntf.map (·.rifId)) ht

theorem RifsRecorded.remove {es : List RifEvent} {r : Int × Nat} (H : RifsRecorded es hw)
    (hlive : rif ∈ liveHandles es) (h : (RifCall.remove rif).prog hw = .ok (r, hw')) :
    let e : RifEvent := ⟨hw, .remove rif, r, hw'⟩
    (e.call.Safe hw → RifEventOk e ∧ RifsRecorded (e :: es) hw') ∧
      (hw'.rifTables.Mirrored → e.call.Safe hw) := by
  intro ev
  obtain ⟨e, he⟩ := H.find hlive
  have hid : e.rifId = rif := of_decide_eq_true (List.find?_some he :)
  have hmem : e ∈ hw.allRouterIntf := List.mem_of_find?_eq_some he
  obtain ⟨st, hw₁, hremove, hend⟩ := bind_ok.mp h
  cases hend
  rcases opsSaiRouterIntfRemove_cases H.ok.toMirrored he hremove with
    ⟨h0, ha, ht⟩ | ⟨-, ha, hna, ⟨r, hlookup, hnone⟩, hall⟩ | ⟨rfl, ha₁, ha₂, ha₃, r, ht⟩
  · refine ⟨fun _ => ?_, fun _ hk => absurd hk ha⟩
    have hok : hw'.rifTables.Ok := ht ▸ H.ok
    have hall : hw'.allRouterIntf = hw.allRouterIntf := congrArg RifTables.allRouterIntf ht
    refine ⟨⟨hok.toMirrored, ?_, fun rif' hcall _ => ?_⟩, hok, ?_⟩
    · intro _ _ _ _ hcall
      cases hcall
    · cases hcall
      refine opsSaiRouterIntfRemove_willing rfl hok.toMirrored (e := e) ?_
      exact (congrArg (List.find? _) hall).trans he
    · rw [liveHandles, if_neg h0, ← H.live, hall]
  · refine ⟨fun hsafe => absurd (hsafe ha) hna, fun hm => ?_⟩
    -- the recorded counter is not bound any more
    rw [← hall] at hmem
    obtain ⟨r', hlookup', hbound⟩ := hm.bound e hmem
    cases hlookup.symm.trans hlookup'
    cases hnone.symm.trans hbound
  · refine ⟨fun _ => ?_, fun _ _ => ⟨ha₁, ha₂, ha₃⟩⟩
    have hok : hw'.rifTables.Ok := by
      rw [ht]
      exact H.ok.remove hmem
    have hall : hw'.allRouterIntf = hw.allRouterIntf.eraseP (·.rifId = e.rifId) :=
      congrArg RifTables.allRouterIntf ht
    refine ⟨⟨hok.toMirrored, ?_, fun _ _ hne => absurd rfl hne⟩, hok, ?_⟩
    · intro _ _ _ _ hcall
      cases hcall
    · show hw'.allRouterIntf.map (·.rifId) = (liveHandles es).erase rif
      rw [hall, ← H.live, List.erase_eq_eraseP, List.eraseP_map, hid]
      congr 2
      funext x
      exact decide_eq_decide.mpr eq_comm

/-- A call keeps the mirror exactly if no call of the SDK fails in between. -/
theorem RifsRecorded.step {es : List RifEvent} {c : RifCall} {r : Int × Nat}
    (H : RifsRecorded es hw) (hlive : ∀ rif, c = .remove rif → rif ∈ liveHandles es)
    (h : c.prog hw = .ok (r, hw')) :
    (c.Safe hw → RifEventOk ⟨hw, c, r, hw'⟩ ∧ RifsRecorded (⟨hw, c, r, hw'⟩ :: es) hw') ∧
      (hw'.rifTables.Mirrored → c.Safe hw) := by
  cases c with
  | create vrid type handle rifHandle => exact H.create h
  | remove rif => exact H.remove (hlive rif rfl) h

/-- In a run from empty tables in which only live handles are removed, the table mirrors the SDK
after every call exactly if in no call the SDK fails between the first change of a table and the
last one. -/
theorem rifs_mirrored_iff {hw₀ : Hw} {es : List RifEvent} (h₀ : hw₀.rifTables = ⟨∅, [], []⟩)
    (H : Trace RifCall.prog hw₀ es hw) (hlive : RemovesLive es) :
    (∀ e ∈ es, RifEventOk e) ↔ ∀ e ∈ es, e.call.Safe e.before := by
  refine H.forall_iff (I := RifsRecorded) (fun e es h => h.2) (fun es e hI hL hc => ?_) ?_ hlive
  · obtain ⟨hsafe, hmirrored⟩ := hI.step hL.1 hc
    exact ⟨hsafe, fun hQ => hmirrored hQ.mirrored⟩
  · exact ⟨h₀ ▸ .empty, congrArg (fun t => t.allRouterIntf.map (·.rifId)) h₀⟩

/-! ## Samples -/

/-- The creation of an interface for VLAN 10. -/
def sampleCreate : RifCall := .create 0 .vlan 10 0

/-- The SDK refuses the interface itself. -/
theorem rifs_mirrored_refused :
    ∃ es hw, Trace RifCall.prog { Hw.reset with outcomes := [.success, .failure] } es hw ∧
      es.length = 1 ∧ ∀ e ∈ es, RifEventOk e := by
  obtain ⟨hw, h⟩ := result_eq_some.mp (show result sampleCreate.prog
    { Hw.reset with outcomes := [.success, .failure] } = some (-1, 0) by decide)
  refine ⟨_, hw, .snoc .nil h, rfl, (rifs_mirrored_iff rfl (.snoc .nil h) ⟨?_, trivial⟩).mpr ?_⟩
  · intro rif hcall
    cases hcall
  · intro e he
    cases List.mem_singleton.mp he
    exact fun _ h => by cases h

/-- The SDK refuses the binding of the counter: interface and counter are left unrecorded. -/
theorem rifs_not_mirrored :
    ∃ es hw, Trace RifCall.prog
        { Hw.reset with outcomes := [.success, .success, .success, .failure] } es hw ∧
      RemovesLive es ∧ ¬∀ e ∈ es, RifEventOk e := by
  obtain ⟨hw', h⟩ := result_eq_some.mp (show result (do
      let r ← sampleCreate.prog
      let t ← gets fun hw => (hw.routerIntfs.keys, hw.allRouterIntf)
      pure (r, t)) { Hw.reset with outcomes := [.success, .success, .success, .failure] } =
        some ((-1, 0), [0], []) by decide)
  obtain ⟨r, hw, hcreate, h⟩ := bind_ok.mp h
  rw [gets_bind, pure_apply] at h
  simp only [Except.ok.injEq, Prod.mk.injEq] at h
  obtain ⟨⟨rfl, hkeys, hall⟩, rfl⟩ := h
  refine ⟨_, hw, .snoc .nil hcreate, ⟨?_, trivial⟩, fun hevents => ?_⟩
  · intro rif hcall
    cases hcall
  have hm := (hevents _ (List.mem_cons_self ..)).mirrored
  obtain ⟨e, he, -⟩ := (hm.recorded 0).mp (AList.mem_keys.mpr (hkeys ▸ List.mem_singleton_self 0))
  have he : e ∈ hw.allRouterIntf := he
  rw [hall] at he
  cases he

end SwitchdSai
