import SwitchdSai.Model.PortDump

/-!
# A full port dump

The dump is for the set of ports first and, once that is at its end, for the set of ghost ports. But
both times it is `ports` that is read. So it ends, and returns each port that can be queried twice.
-/

namespace SwitchdSai

open Cursor

/-- `sset_at_position` gives every element of a set once, from the position (0, 0) on. -/
class LawfulSset (Sset : Type) [SsetLib Sset] : Prop where
  enumerates : ∀ s : Sset, ∃ l : List String,
    Enumerates (SsetLib.atPosition s) (0, 0) l ∧ l.Nodup ∧ ∀ name, name ∈ l ↔ name ∈ s

variable {Sset : Type} [SsetLib Sset] {o : PortTables Sset} {n : Nat} {state : PortDumpState}
  {l : List String}

/-- The ports of the names that can be queried. -/
def PortTables.queried (o : PortTables Sset) (l : List String) : List OfprotoPort :=
  l.filterMap fun name => (portQueryByName o name).toOption

omit [SsetLib Sset] in
theorem filterMap_portDumpTurn :
    l.filterMap (portDumpTurn o) = (o.queried l).map Except.ok := by
  have hturn : portDumpTurn o = fun name => (portQueryByName o name).toOption.map Except.ok := by
    funext name
    unfold portDumpTurn portQueryByName
    cases o.netdevGetTypeFromName name <;> rfl
  rw [PortTables.queried, List.map_filterMap, hturn]

/-- The names that the dump has still to read. -/
def PortDumpState.Remains (o : PortTables Sset) (state : PortDumpState) (l : List String) : Prop :=
  ∃ l₁, Enumerates (SsetLib.atPosition o.ports) (state.bucket, state.offset) l₁ ∧
    if state.ghost then l = l₁
    else ∃ l₂, l = l₁ ++ l₂ ∧ Enumerates (SsetLib.atPosition o.ports) (0, 0) l₂

/-- What a call does with the names that remain: it returns the first port that can be queried, or
there is none. -/
def DumpStep (o : PortTables Sset) (l : List String) (state : PortDumpState) :
    Except Int OfprotoPort → Prop
  | .ok port => ∃ rest, o.queried l = port :: o.queried rest ∧ rest.length < l.length ∧
      state.Remains o rest
  | .error error => error = EOF ∧ o.queried l = []

omit [SsetLib Sset] in
theorem queried_append {l' : List String} : o.queried (l ++ l') = o.queried l ++ o.queried l' :=
  List.filterMap_append

/-- Names that cannot be queried are passed over. -/
theorem DumpStep.skip {l' : List String} {r : Except Int OfprotoPort} (h : DumpStep o l state r)
    (hnil : o.queried l' = []) : DumpStep o (l' ++ l) state r := by
  have hq : o.queried (l' ++ l) = o.queried l := by rw [queried_append, hnil, List.nil_append]
  cases r with
  | error error => exact ⟨h.1, hq.trans h.2⟩
  | ok port =>
    obtain ⟨rest, hport, hlt, hremains⟩ := h
    refine ⟨rest, hq.trans hport, ?_, hremains⟩
    rw [List.length_append]
    omega

/-- A call that finds a port in what is left of the set. -/
theorem portDumpNext_found {bucket offset : Nat} {ghost : Bool} {old : Option OfprotoPort}
    {l₁ l₂ rest : List String} {b : Except Int OfprotoPort} {p : Nat × Nat}
    (hfind : find (SsetLib.atPosition o.ports) (portDumpTurn o) n (bucket, offset) =
      some (some b, p))
    (hb : l₁.filterMap (portDumpTurn o) = b :: rest.filterMap (portDumpTurn o))
    (hlt : rest.length < l₁.length)
    (hremains : ∀ port, PortDumpState.Remains o ⟨p.1, p.2, ghost, port⟩ (rest ++ l₂)) :
    ∃ r state', portDumpNext o (n + 1) ⟨bucket, offset, ghost, old⟩ = some (r, state') ∧
      DumpStep o (l₁ ++ l₂) state' r := by
  rw [filterMap_portDumpTurn, filterMap_portDumpTurn] at hb
  obtain ⟨port, ports, hq, rfl, hports⟩ := List.map_eq_cons_iff.mp hb
  obtain rfl : ports = o.queried rest :=
    List.map_injective_iff.mpr (fun _ _ h => Except.ok.inj h) hports
  refine ⟨.ok port, ⟨p.1, p.2, ghost, some port⟩, by simp only [portDumpNext, hfind],
    rest ++ l₂, ?_, ?_, hremains _⟩
  · rw [queried_append, queried_append, hq, List.cons_append]
  · rw [List.length_append, List.length_append]
    omega

theorem portDumpNext_ghost {bucket offset : Nat} {old : Option OfprotoPort}
    (h : Enumerates (SsetLib.atPosition o.ports) (bucket, offset) l) (hn : l.length + 1 < n) :
    ∃ r state', portDumpNext o n ⟨bucket, offset, true, old⟩ = some (r, state') ∧
      DumpStep o l state' r := by
  obtain ⟨n, rfl⟩ : ∃ m, n = m + 1 := ⟨n - 1, by omega⟩
  obtain ⟨r, p, hfind, hr⟩ := find_ends (f := portDumpTurn o) h (Nat.lt_of_succ_lt_succ hn)
  rcases hr with ⟨rfl, hnil⟩ | ⟨b, rest, rfl, hb, hlt, hrest⟩
  · rw [filterMap_portDumpTurn, List.map_eq_nil_iff] at hnil
    exact ⟨.error EOF, ⟨p.1, p.2, true, none⟩, by simp only [portDumpNext, hfind, if_true], rfl,
      hnil⟩
  · rw [← List.append_nil l]
    exact portDumpNext_found hfind hb hlt fun _ => ⟨rest, hrest, List.append_nil rest⟩

/-- A call returns the first port that can be queried of those that remain, or there is none. -/
theorem portDumpNext_step (h : state.Remains o l) (hn : l.length + 2 < n) :
    ∃ r state', portDumpNext o n state = some (r, state') ∧ DumpStep o l state' r := by
  obtain ⟨bucket, offset, ghost, port⟩ := state
  obtain ⟨l₁, henum, hghost⟩ := h
  cases ghost with
  | true =>
    obtain rfl : l = l₁ := hghost
    exact portDumpNext_ghost henum (by omega)
  | false =>
    obtain ⟨l₂, rfl, hagain⟩ : ∃ l₂, l = l₁ ++ l₂ ∧ _ := hghost
    rw [List.length_append] at hn
    obtain ⟨n, rfl⟩ : ∃ m, n = m + 1 := ⟨n - 1, by omega⟩
    have hlen : l₁.length < n := by omega
    obtain ⟨r, p, hfind, hr⟩ := find_ends (f := portDumpTurn o) henum hlen
    rcases hr with ⟨rfl, hnil⟩ | ⟨b, rest, rfl, hb, hlt, hrest⟩
    · -- the set is at its end, and is read again
      rw [filterMap_portDumpTurn, List.map_eq_nil_iff] at hnil
      obtain ⟨r, state', hnext, hstep⟩ := portDumpNext_ghost (n := n) hagain (by omega)
      exact ⟨r, state', by simp only [portDumpNext, hfind]; exact hnext, hstep.skip hnil⟩
    · exact portDumpNext_found hfind hb hlt fun _ => ⟨rest, hrest, l₂, rfl, hagain⟩

/-- The calls, as long as they return ports, return those of the names that remain. -/
theorem portDumpAll_run (h : state.Remains o l) (hn : l.length + 3 < n) :
    portDumpAll o n state = some (o.queried l, EOF) := by
  induction n generalizing l state with
  | zero => cases hn
  | succ n ih =>
    obtain ⟨r, state', hnext, hstep⟩ := portDumpNext_step h (Nat.lt_of_succ_lt_succ hn)
    cases r with
    | error error =>
      obtain ⟨rfl, hnil⟩ := hstep
      simp only [portDumpAll, hnext, hnil]
    | ok port =>
      obtain ⟨rest, hq, hlt, hremains⟩ := hstep
      simp only [portDumpAll, hnext, ih hremains (by omega), Option.map_some, hq]

/-- **A full dump ends, and returns the ports of the set twice.** -/
theorem portDump_twice [LawfulSset Sset] (o : PortTables Sset) :
    ∃ l : List String, l.Nodup ∧ (∀ name, name ∈ l ↔ name ∈ o.ports) ∧
      ∀ n, 2 * l.length + 3 < n → portDump o n = some (o.queried l ++ o.queried l, EOF) := by
  obtain ⟨l, henum, hnodup, hmem⟩ := LawfulSset.enumerates o.ports
  refine ⟨l, hnodup, hmem, fun n hn => ?_⟩
  rw [← queried_append]
  refine portDumpAll_run ⟨l, henum, l, rfl, henum⟩ ?_
  rw [List.length_append]
  omega

/-! ## What a full dump should return -/

/-- Each name of `ports` that can be queried is there once, and any other is a ghost port only. -/
structure FullDump (o : PortTables Sset) (names : List String) : Prop where
  once : ∀ name ∈ o.ports, (o.netdevGetTypeFromName name).isSome → names.count name = 1
  only : ∀ name ∈ names, name ∈ o.ports ∧ (o.netdevGetTypeFromName name).isSome ∨
    name ∈ o.ghostPorts ∧ name ∉ o.ports

/-- A dump, given enough turns, ends and is a full one. -/
def DumpsFully (o : PortTables Sset) : Prop :=
  ∃ ports turns, (∀ n, turns < n → portDump o n = some (ports, EOF)) ∧
    FullDump o (ports.map (·.name))

/-- A full dump does not list its ports twice over. -/
theorem FullDump.not_twice {ports ports' : List OfprotoPort} {name : String}
    (h : FullDump o (ports.map (·.name))) (hname : name ∈ o.ports)
    (hsome : (o.netdevGetTypeFromName name).isSome) : ports ≠ ports' ++ ports' := by
  rintro rfl
  have honce := h.once name hname hsome
  rw [List.map_append, List.count_append] at honce
  omega

/-- What a dump returns does not depend on the turns, once they suffice. -/
theorem portDump_unique {ports ports' : List OfprotoPort} {turns turns' : Nat}
    (h : ∀ n, turns < n → portDump o n = some (ports, EOF))
    (h' : ∀ n, turns' < n → portDump o n = some (ports', EOF)) : ports = ports' := by
  have hrun := (h (max turns turns' + 1) (by omega)).symm.trans (h' _ (by omega))
  exact (Prod.mk.inj (Option.some.inj hrun)).1

/-- **A port dump lists every port once exactly when it lists none**: when no name of the set can be
queried. -/
theorem dumpsFully_iff [LawfulSset Sset] (o : PortTables Sset) :
    DumpsFully o ↔ ∀ name ∈ o.ports, o.netdevGetTypeFromName name = none := by
  obtain ⟨l, hnodup, hmem, hdump⟩ := portDump_twice o
  constructor
  · rintro ⟨ports, turns, hports, hfull⟩ name hname
    by_contra hsome
    exact hfull.not_twice hname (Option.isSome_iff_ne_none.mpr hsome)
      (portDump_unique hports hdump)
  · intro hnone
    have hnil : o.queried l = [] := List.filterMap_eq_nil_iff.mpr fun name hname => by
      rw [portQueryByName, hnone name ((hmem name).mp hname)]
      rfl
    refine ⟨[], 2 * l.length + 3, fun n hn => ?_, ⟨fun name hname hsome => ?_, nofun⟩⟩
    · rw [hdump n hn, hnil]; rfl
    · rw [hnone name hname] at hsome
      cases hsome

/-! ## A sample -/

section

/-- A set that is one chain. -/
structure SampleSset where
  names : List String
  nodup : names.Nodup

/-- `sset_at_position` on a set that is one chain. -/
def SampleSset.atPosition (s : SampleSset) : Nat × Nat → Option String × (Nat × Nat)
  | (0, offset) =>
    match s.names[offset]? with
    | some name => (some name, if offset + 1 < s.names.length then (0, offset + 1) else (1, 0))
    | none => (none, (0, 0))
  | (_ + 1, _) => (none, (0, 0))

@[reducible] def sampleSset : SsetLib SampleSset where
  mem s name := name ∈ s.names
  atPosition := SampleSset.atPosition

attribute [local instance] sampleSset

theorem SampleSset.enumerates_drop (s : SampleSset) (offset : Nat) (h : offset ≤ s.names.length) :
    Enumerates s.atPosition (if offset < s.names.length then (0, offset) else (1, 0))
      (s.names.drop offset) := by
  induction hk : s.names.length - offset generalizing offset with
  | zero =>
    rw [if_neg (by omega), List.drop_eq_nil_of_le (by omega)]
    exact .done rfl
  | succ k ih =>
    have hlt : offset < s.names.length := by omega
    rw [if_pos hlt, List.drop_eq_getElem_cons hlt]
    refine .more ?_ (ih (offset + 1) (by omega) (by omega))
    simp [SampleSset.atPosition, hlt]

theorem sampleSset_lawful : LawfulSset SampleSset where
  enumerates s := by
    refine ⟨s.names, ?_, s.nodup, fun _ => Iff.rfl⟩
    have h := s.enumerates_drop 0 (Nat.zero_le _)
    rw [List.drop_zero] at h
    cases hnames : s.names with
    | nil =>
      have hread : s.atPosition (0, 0) = (none, (0, 0)) := by
        simp [SampleSset.atPosition, hnames]
      exact .done hread
    | cons name names => rwa [hnames] at h

attribute [local instance] sampleSset_lawful

/-- An ofproto with the ports 1 and 2, and no ghost ports. -/
def sampleTables (netdevs : String → Option String) : PortTables SampleSset where
  ports := ⟨["1", "2"], by decide⟩
  ghostPorts := ⟨[], List.nodup_nil⟩
  portByName name := if name = "1" then some 1 else if name = "2" then some 2 else none
  netdevGetTypeFromName := netdevs

/-- Of ports without a netdev nothing is listed. -/
theorem dumpsFully_iff_unknown : DumpsFully (sampleTables fun _ => none) :=
  (dumpsFully_iff _).mpr fun _ _ => rfl

/-- Port 1 is listed twice. -/
theorem dumpsFully_twice :
    ¬DumpsFully (sampleTables fun name => if name = "1" then some "system" else none) := by
  rintro ⟨ports, turns, hports, hfull⟩
  obtain ⟨l, -, -, hdump⟩ :=
    portDump_twice (sampleTables fun name => if name = "1" then some "system" else none)
  exact hfull.not_twice (List.mem_cons_self ..) rfl (portDump_unique hports hdump)

example : (portDump (sampleTables fun name => if name = "1" then some "system" else none) 10) =
    some ([⟨"1", "system", 1⟩, ⟨"1", "system", 1⟩], EOF) := by decide

end

end SwitchdSai
