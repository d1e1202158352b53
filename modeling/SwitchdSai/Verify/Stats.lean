import SwitchdSai.Model.Stats
import SwitchdSai.Verify.RifHandle
import SwitchdSai.Verify.WillingRuns

/-!
# What is read is one's own

Reading statistics and hit bits only uses up outcomes (`ReadCall.run_sameButOutcomes`), so reads can
be made anywhere in a run. The statistics of a port with a handle are read through the bundle the
handle points into. When the handles are good and the tables of router interfaces mirror each other,
they are those of the counter that the hardware has bound to the interface of the port's own bundle
(`stats_own`). The hit bit of a host entry is read from a neighbor that exists as long as the caches
of bundles mirror the hardware (`hitBit_live`).
-/

namespace SwitchdSai

open Exec OfprotoSai

/-! ## Reading changes nothing -/

/-- Everything but the outcomes to come. -/
def Hw.butOutcomes (hw : Hw) : Hw := { hw with outcomes := [] }

/-- Only outcomes have been used up. -/
structure SameButOutcomes (o o' : OfprotoSai) : Prop where
  tables : o'.tables = o.tables
  hw : Hw.Same Hw.butOutcomes o.hw o'.hw

instance : IsPreorder OfprotoSai SameButOutcomes where
  refl _ := ⟨rfl, refl_of _ _⟩
  trans _ _ _ h h' := ⟨h'.tables.trans h.tables, trans_of _ h.hw h'.hw⟩

variable {o o' : OfprotoSai} {p q : OfpPort} {b : BundlePtr} {aux : Nat} {st : Int}
  {traffic : Traffic} {stats : NetdevStats}

theorem onHw_sameButOutcomes {α : Type} {m : Exec Hw α} (h : Rel (Hw.Same Hw.butOutcomes) m) :
    Rel SameButOutcomes (onHw m) :=
  onHw_rel fun _ a hw hm => ⟨rfl, h _ a hw hm⟩

theorem SameButOutcomes.bundlesBy {τ : Type} {f : OfbundleSai → τ} (h : SameButOutcomes o o') :
    o'.bundlesBy f = o.bundlesBy f := by
  have hbundles : o'.bundles = o.bundles := congrArg (fun t => t.2.2.2) h.tables
  funext b
  simp only [OfprotoSai.bundlesBy, hbundles]

theorem SameButOutcomes.sameButEntries (h : SameButOutcomes o o') : SameButEntries o o' :=
  ⟨congrArg (·.1) h.tables, congrArg (fun t => t.2.1) h.tables,
    congrArg (fun t => t.2.2.1) h.tables, h.bundlesBy, (congrArg Hw.butEntries h.hw.1 :), h.hw.2⟩

theorem SameButOutcomes.localsShrink (h : SameButOutcomes o o') : LocalsShrink o o' := by
  have hroutes : o'.hw.routes = o.hw.routes := (congrArg Hw.routes h.hw.1 :)
  have hintfs : o'.hw.routerIntfs = o.hw.routerIntfs := (congrArg Hw.routerIntfs h.hw.1 :)
  exact localsShrink_of_eq (congrArg (fun t => t.2.1) h.tables)
    ⟨fun _ _ _ hr => hroutes ▸ hr, fun _ hr => hintfs ▸ hr⟩ h.bundlesBy h.bundlesBy

section
variable {valid : Hw → Bool} {hw : Hw}

theorem read_sameButOutcomes : Rel (Hw.Same Hw.butOutcomes) (Hw.callIf valid id) :=
  Hw.callIf_same (fun _ => rfl) fun _ => ⟨rfl, rfl⟩

/-- A valid read has the outcome of the environment. -/
theorem read_ends (hvalid : valid hw = true) : Ends (Hw.callIf valid id) hw fun status hw' =>
    Hw.Same Hw.butOutcomes hw hw' ∧ (status = .success ↔ hw.Accepts 0) := by
  obtain ⟨status, hw', h⟩ : ∃ status hw', Hw.callIf valid id hw = .ok (status, hw') := by
    unfold Hw.callIf
    rw [hvalid]
    split <;> exact ⟨_, _, rfl⟩
  refine ⟨status, hw', h, read_sameButOutcomes _ _ _ h, ?_⟩
  rcases Hw.callIf_accepts hvalid h with ⟨hs, ha, -⟩ | ⟨hs, ha, -⟩
  · exact iff_of_true hs ha
  · exact iff_of_false hs ha

end

/-! ## The parts of the statistics -/

section
variable {hw : Hw} {hwId rif : Nat} {netdev : NetdevSai}

/-- A read that fills in `full` when it succeeds, and nothing otherwise. -/
def FillsIn (hw : Hw) (stats full : NetdevStats) (r : Int × NetdevStats) (hw' : Hw) : Prop :=
  Hw.Same Hw.butOutcomes hw hw' ∧ (hw.Accepts 0 → r.1 = 0) ∧
    r.2 = if r.1 = 0 then full else stats

theorem opsSaiRouterIntfGetStats_ends {e : RifEntry} (he : hw.routerIntfEntryFind rif = some e)
    (hcounter : e.counterId ∈ hw.counters) :
    Ends (opsSaiRouterIntfGetStats traffic rif stats) hw
      (FillsIn hw stats (stats.withRouterIntf (traffic.routerCounters e.counterId))) := by
  unfold opsSaiRouterIntfGetStats
  refine Ends.gets_bind ?_
  rw [he]
  refine (read_ends (decide_eq_true hcounter)).bind fun status hw' hread => ?_
  obtain ⟨hsame, hstatus⟩ := hread
  split
  next hs =>
    have hne := sxError2Errno_ne_zero hs
    exact Ends.pure ⟨hsame, fun ha => absurd (hstatus.mpr ha) hs, (if_neg hne).symm⟩
  next => exact Ends.pure ⟨hsame, fun _ => rfl, rfl⟩

variable [Build]

/-- The part of the statistics that comes from the port itself. -/
def NetdevSai.portPart (netdev : NetdevSai) (traffic : Traffic) (hw : Hw) (stats : NetdevStats) :
    NetdevStats :=
  if netdev.type = .system then
    stats.withPort (traffic.portStats (hw.opsSaiApiHwId2PortId netdev.hwId))
  else stats

theorem getPortStats_ends : Ends (getPortStats traffic netdev stats) hw
    (FillsIn hw stats (netdev.portPart traffic hw stats)) := by
  unfold getPortStats NetdevSai.portPart
  split
  next =>
    refine Ends.gets_bind ((read_ends rfl).bind fun status hw' hread => ?_)
    obtain ⟨hsame, hstatus⟩ := hread
    split
    next hs =>
      have hne : saiError2Errno status ≠ 0 := fun h0 => hs (saiError2Errno_eq_zero.mp h0)
      exact Ends.pure ⟨hsame, fun ha => absurd (hstatus.mpr ha) hs, (if_neg hne).symm⟩
    next => exact Ends.pure ⟨hsame, fun _ => rfl, rfl⟩
  next => exact Ends.pure ⟨refl_of _ _, fun _ => rfl, (ite_self _).symm⟩

end

/-! ## The statistics of a port -/

/-- `counter` is bound to the router interface of the bundle that contains the port. -/
def OfprotoSai.CounterOf (o : OfprotoSai) (port : OfportSai) (counter : Nat) : Prop :=
  ∃ b bundle r, port.bundle = some b ∧ o.bundles.lookup b = some bundle ∧
    bundle.routerIntf.created = true ∧
    o.hw.routerIntfs.lookup bundle.routerIntf.rifid = some r ∧ r.counter = some counter

/-- Good handles, and tables of router interfaces that mirror each other. -/
structure CountersOk (o : OfprotoSai) : Prop where
  links : o.links.WF
  handles : o.HandlesOk fun _ => False
  tables : o.hw.rifTables.Ok
  exists_rif : ∀ b rif, o.rif b = some rif → rif ∈ o.hw.routerIntfs
  distinct : ∀ b b' rif, o.rif b = some rif → o.rif b' = some rif → b = b'

variable {port port' : OfportSai} {bundle : OfbundleSai} {counter rif : Nat}

theorem CountersOk.entry (hok : CountersOk o) (hb : o.rif b = some rif) :
    ∃ e ∈ o.hw.allRouterIntf, o.hw.routerIntfEntryFind rif = some e ∧ e.rifId = rif := by
  obtain ⟨e, he, hid⟩ := (hok.tables.recorded rif).mp (hok.exists_rif b rif hb)
  obtain ⟨e', hfind⟩ := Option.isSome_iff_exists.mp
    (List.find?_isSome.mpr ⟨e, he, decide_eq_true hid⟩ :
      (o.hw.allRouterIntf.find? (·.rifId = rif)).isSome)
  exact ⟨e', List.mem_of_find?_eq_some hfind, hfind, of_decide_eq_true (List.find?_some hfind :)⟩

/-- The counter of a port is the recorded one. -/
theorem CountersOk.counterOf (hok : CountersOk o) (h : o.CounterOf port counter) :
    ∃ b, port.bundle = some b ∧ ∃ e ∈ o.hw.allRouterIntf,
      e.counterId = counter ∧ o.rif b = some e.rifId := by
  obtain ⟨b, bundle, r, hport, hb, hc, hr, hcounter⟩ := h
  have hrif : o.rif b = some bundle.routerIntf.rifid := by
    rw [rif_of_lookup hb, OfbundleSai.rif, if_pos hc]
  obtain ⟨e, he, -, hid⟩ := hok.entry hrif
  obtain ⟨r', hr', hcounter'⟩ := hok.tables.bound e he
  have heq : some r' = some r := hr'.symm.trans (hid.symm ▸ hr)
  cases heq
  exact ⟨b, hport, e, he, Option.some.inj (hcounter'.symm.trans hcounter), hid.symm ▸ hrif⟩

/-- Two ports with one counter are in one bundle. -/
theorem CountersOk.bundle_eq (hok : CountersOk o) (h : o.CounterOf port counter)
    (h' : o.CounterOf port' counter) : port.bundle = port'.bundle := by
  obtain ⟨b, hport, e, he, hid, hb⟩ := hok.counterOf h
  obtain ⟨b', hport', e', he', hid', hb'⟩ := hok.counterOf h'
  obtain rfl : e = e' := List.inj_on_of_nodup_map hok.tables.counterIds he he' (hid.trans hid'.symm)
  obtain rfl := hok.distinct b b' _ hb hb'
  exact hport.trans hport'.symm

/-- A good handle leads to the recorded counter of the port. -/
theorem CountersOk.of_handle (hok : CountersOk o) (hport : o.ofports p = some port)
    (hhandle : port.netdev.rifHandle = some b) : ∃ bundle e, o.bundles.lookup b = some bundle ∧
      o.hw.routerIntfEntryFind bundle.routerIntf.rifid = some e ∧
      e.counterId ∈ o.hw.counters ∧ o.CounterOf port e.counterId := by
  obtain ⟨hown, r, hr, hc⟩ := hok.handles p b not_false ((handle_of_ofports hport).trans hhandle)
  obtain ⟨bundle, hb, rfl⟩ := Option.map_eq_some_iff.mp hr
  have hrif : o.rif b = some bundle.routerIntf.rifid := by
    rw [rif_of_lookup hb, OfbundleSai.rif, if_pos hc]
  obtain ⟨e, he, hfind, hid⟩ := hok.entry hrif
  obtain ⟨r, hr', hcounter⟩ := hok.tables.bound e he
  exact ⟨bundle, e, hb, hfind, (hok.tables.counters _).mpr ⟨e, he, rfl⟩, b, bundle, r,
    (links_owner hport).symm.trans hown, hb, hc, hid ▸ hr', hcounter⟩

section
variable [Build]

/-- What the statistics of a port are to show. Those of a router interface are read from the counter
of the port. -/
inductive OfprotoSai.Shows (o : OfprotoSai) (traffic : Traffic) (port : OfportSai)
    (stats : NetdevStats) : NetdevStats → Prop where
  | uninitialized (hinit : port.netdev.isPortInitialized = false) : Shows o traffic port stats stats
  | port (hinit : port.netdev.isPortInitialized = true) (hhandle : port.netdev.rifHandle = none) :
    Shows o traffic port stats (port.netdev.portPart traffic o.hw stats)
  | routed (counter : Nat) (hinit : port.netdev.isPortInitialized = true)
      (hhandle : port.netdev.rifHandle ≠ none) (hcounter : o.CounterOf port counter) :
    Shows o traffic port stats ((port.netdev.portPart traffic o.hw stats).withRouterIntf
      (traffic.routerCounters counter))

/-- The result of reading the statistics of a port: a read that fails fills in at most the part of
the port. -/
structure OfprotoSai.StatsRead (o : OfprotoSai) (traffic : Traffic) (port : OfportSai)
    (stats : NetdevStats) (r : Int × NetdevStats) (o' : OfprotoSai) : Prop where
  same : SameButOutcomes o o'
  willing : o.Willing → r.1 = 0
  shows : r.1 = 0 → o.Shows traffic port stats r.2
  failed : r.1 ≠ 0 → r.2 = stats ∨ r.2 = port.netdev.portPart traffic o.hw stats

/-- Reading the statistics of a port completes, whatever the outcomes of the calls it makes. -/
theorem getStats_ends (hok : CountersOk o) (hport : o.ofports p = some port) :
    Ends (getStats traffic p stats) o (o.StatsRead traffic port stats) := by
  refine ofport_ends hport ?_
  cases hinit : port.netdev.isPortInitialized with
  | false =>
    have hshows : o.Shows traffic port stats stats := .uninitialized hinit
    exact Ends.pure ⟨refl_of _ _, fun _ => rfl, fun _ => hshows, fun h => absurd rfl h⟩
  | true =>
    have hpart : Ends (onHw (getPortStats traffic port.netdev stats)) o fun r o' =>
        ∃ hw, o' = { o with hw := hw } ∧
          FillsIn o.hw stats (port.netdev.portPart traffic o.hw stats) r hw :=
      Ends.zoom (Ends.mono getPortStats_ends fun r hw h => ⟨hw, rfl, h⟩)
    refine hpart.bind ?_
    rintro ⟨status, stats₁⟩ o₁ ⟨hw₁, rfl, hsame, hst, hstats⟩
    have hsame₁ : SameButOutcomes o { o with hw := hw₁ } := ⟨rfl, hsame⟩
    dsimp only at hst hstats ⊢
    split
    next h0 =>
      rw [if_neg h0] at hstats
      exact Ends.pure ⟨hsame₁, fun hwill => hst (Hw.Willing.accepts hwill 0),
        fun h => absurd h h0, fun _ => .inl hstats⟩
    next h0 =>
      rw [if_pos (not_not.mp h0)] at hstats
      subst hstats
      cases hhandle : port.netdev.rifHandle with
      | none =>
        have hshows : o.Shows traffic port stats (port.netdev.portPart traffic o.hw stats) :=
          .port hinit hhandle
        exact Ends.pure ⟨hsame₁, fun _ => rfl, fun _ => hshows, fun h => absurd rfl h⟩
      | some b =>
        obtain ⟨bundle, e, hb, hfind, hin, hcounter⟩ := hok.of_handle hport hhandle
        have hfind₁ : hw₁.routerIntfEntryFind bundle.routerIntf.rifid = some e :=
          (congrArg (Hw.routerIntfEntryFind · bundle.routerIntf.rifid) hsame.1 :).trans hfind
        have hcounters : hw₁.counters = o.hw.counters := (congrArg Hw.counters hsame.1 :)
        refine ofbundle_ends hb (Ends.zoom ?_)
        refine (opsSaiRouterIntfGetStats_ends hfind₁ (hcounters ▸ hin)).mono fun r hw₂ hfill => ?_
        obtain ⟨hsame₂, hst₂, hstats₂⟩ := hfill
        refine ⟨⟨rfl, trans_of _ hsame hsame₂⟩, fun hwill => ?_, fun h0 => ?_, fun h0 => ?_⟩
        · exact hst₂ (Hw.Willing.accepts (Hw.Willing.of_suffix hwill hsame.2) 0)
        · rw [if_pos h0] at hstats₂
          rw [hstats₂]
          exact .routed e.counterId hinit (Option.ne_none_iff_exists'.mpr ⟨b, hhandle⟩) hcounter
        · rw [if_neg h0] at hstats₂
          exact .inr hstats₂

end

/-! ## The hit bit of a host entry -/

section
variable [OvsLib] {ip : String} {hit : Bool}

/-- The host entry for `ip` has a MAC, and its neighbor on the interface of the bundle has been
active. -/
def OfbundleSai.HitBit (bundle : OfbundleSai) (traffic : Traffic) (ip : String) : Prop :=
  ∃ e ∈ bundle.neighbors, e.ipAddress = ip ∧ e.macAddress ≠ "" ∧
    ∃ addr, opsSaiCommonIpToSxIp ip = some addr ∧
      traffic.neighActivity bundle.routerIntf.rifid addr = true

/-- The result of reading a hit bit. -/
structure OfprotoSai.HitBitRead (o : OfprotoSai) (traffic : Traffic) (bundle : OfbundleSai)
    (ip : String) (r : Int × Bool) (o' : OfprotoSai) : Prop where
  same : SameButOutcomes o o'
  accepts : o.hw.Accepts 0 → r.1 = 0
  hit : r.1 = 0 → (r.2 = true ↔ bundle.HitBit traffic ip)
  failed : r.1 ≠ 0 → r.2 = false

theorem hitBit_iff {e : NeighborEntry} (hl : UniqueIps bundle.neighbors)
    (hfind : neighEntryHashFind ip bundle.neighbors = some e) : bundle.HitBit traffic ip ↔
      e.macAddress ≠ "" ∧ ∃ addr, opsSaiCommonIpToSxIp ip = some addr ∧
        traffic.neighActivity bundle.routerIntf.rifid addr = true := by
  constructor
  · rintro ⟨e', he', hip, h⟩
    obtain rfl : e' = e := hl.eq_of_find hfind he' hip
    exact h
  · intro h
    obtain ⟨he, hip⟩ := neighEntryHashFind_some hfind
    exact ⟨e, he, hip, h⟩

/-- Reading the activity of a neighbor that exists. -/
theorem opsSaiNeighborActivityGet_ends {hw : Hw} {rifid : Nat} {addr : SxIpAddr} {eth : EthAddr}
    (haddr : opsSaiCommonIpToSxIp ip = some addr) (hn : hw.neighbors rifid addr = some eth) :
    Ends (opsSaiNeighborActivityGet traffic ip rifid hit) hw fun r hw' =>
      Hw.Same Hw.butOutcomes hw hw' ∧ (hw.Accepts 0 → r.1 = 0) ∧
        r.2 = if r.1 = 0 then traffic.neighActivity rifid addr else false := by
  unfold opsSaiNeighborActivityGet
  rw [haddr]
  refine (read_ends (Option.isSome_of_eq_some hn)).bind fun status hw' hread => ?_
  obtain ⟨hsame, hstatus⟩ := hread
  split
  next hs =>
    have hne := sxError2Errno_ne_zero hs
    exact Ends.pure ⟨hsame, fun ha => absurd (hstatus.mpr ha) hs, (if_neg hne).symm⟩
  next => exact Ends.pure ⟨hsame, fun _ => rfl, rfl⟩

/-- Reading a hit bit completes, and the neighbor it asks for exists. -/
theorem getL3HostHitBit_ends (hf : o.FoundBy aux b bundle)
    (hcache : CacheOk bundle.neighbors (o.hw.neighborsOn bundle.rif)) :
    Ends (getL3HostHitBit traffic aux ip hit) o (o.HitBitRead traffic bundle ip) := by
  have hlookup : Ends (ofbundleLookup aux) o fun found o' => found = some b ∧ o = o' :=
    ⟨some b, o, hf.1, rfl, rfl⟩
  refine hlookup.bind ?_
  rintro _ _ ⟨rfl, rfl⟩
  refine ofbundle_ends hf.2 ?_
  have hunset : ¬bundle.HitBit traffic ip → Ends (pure (0, false) : Exec OfprotoSai (Int × Bool)) o
      (o.HitBitRead traffic bundle ip) := by
    intro hno
    have hiff : (false = true ↔ bundle.HitBit traffic ip) := iff_of_false Bool.false_ne_true hno
    exact Ends.pure ⟨refl_of _ _, fun _ => rfl, fun _ => hiff, fun _ => rfl⟩
  cases hfind : neighEntryHashFind ip bundle.neighbors with
  | none =>
    refine hunset ?_
    rintro ⟨e, he, hip, -⟩
    exact neighEntryHashFind_none.mp hfind e he hip
  | some e =>
    dsimp only
    split
    next hmac => exact hunset fun h => ((hitBit_iff hcache.unique hfind).mp h).1 hmac
    next hmac =>
      obtain ⟨addr, eth, haddr, -, hn⟩ := hcache.find hfind hmac
      -- an interface with a neighbor has been created
      have hn' : o.hw.neighbors bundle.routerIntf.rifid addr = some eth := by
        unfold OfbundleSai.rif at hn
        split at hn
        next => exact hn
        next => cases hn
      refine Ends.zoom ((opsSaiNeighborActivityGet_ends haddr hn').mono fun r hw hread => ?_)
      obtain ⟨hsame, hst, hbit⟩ := hread
      refine ⟨⟨rfl, hsame⟩, hst, fun h0 => ?_, fun h0 => ?_⟩
      · rw [if_pos h0] at hbit
        rw [hbit, hitBit_iff hcache.unique hfind]
        constructor
        · intro hactive
          exact ⟨hmac, addr, haddr, hactive⟩
        · rintro ⟨-, addr', haddr', hactive⟩
          cases haddr.symm.trans haddr'
          exact hactive
      · rw [hbit, if_neg h0]

end

/-! ## Reads in runs -/

/-- A read of the statistics of a port or of a hit bit. -/
inductive ReadCall where
  | stats (traffic : Traffic) (p : OfpPort) (stats : NetdevStats)
  | hitBit (traffic : Traffic) (aux : Nat) (ip : String) (hit : Bool)

/-- A call on an ofproto, or a read. -/
inductive OfprotoCall where
  | host (c : HostCall)
  | read (c : ReadCall)

section
variable [OvsLib] [Build]

def ReadCall.run : ReadCall → Exec OfprotoSai Int
  | .stats traffic p stats => do
    let (status, _) ← getStats traffic p stats
    return status
  | .hitBit traffic aux ip hit => do
    let (status, _) ← getL3HostHitBit traffic aux ip hit
    return status

omit [OvsLib] in
theorem getStats_sameButOutcomes : Rel SameButOutcomes (getStats traffic p stats) := by
  have hport : ∀ netdev, Rel (Hw.Same Hw.butOutcomes) (getPortStats traffic netdev stats) := by
    intro netdev
    refine Rel.ite ((Rel.gets _).bind fun _ => ?_) (Rel.pure _)
    exact Rel.bind read_sameButOutcomes fun _ => (Rel.pure _).ite (Rel.pure _)
  have hrif : ∀ rif stats,
      Rel (Hw.Same Hw.butOutcomes) (opsSaiRouterIntfGetStats traffic rif stats) := by
    intro rif stats
    refine (Rel.gets _).bind fun found => ?_
    cases found with
    | none => exact Rel.pure _
    | some e =>
      exact Rel.bind read_sameButOutcomes fun _ => (Rel.pure _).ite (Rel.pure _)
  refine (ofport_rel p).bind fun port => (Rel.pure _).ite ?_
  refine (onHw_sameButOutcomes (hport _)).bind fun r => (Rel.pure _).ite ?_
  cases port.netdev.rifHandle with
  | none => exact Rel.pure _
  | some b => exact (ofbundle_rel b).bind fun _ => onHw_sameButOutcomes (hrif _ _)

omit [Build] in
theorem getL3HostHitBit_sameButOutcomes {ip : String} {hit : Bool} :
    Rel SameButOutcomes (getL3HostHitBit traffic aux ip hit) := by
  refine Rel.bind ((Rel.require _ _).bind fun _ => Rel.gets _) fun _ => (Rel.need _ _).bind fun b =>
    (ofbundle_rel b).bind fun bundle => ?_
  cases neighEntryHashFind ip bundle.neighbors with
  | none => exact Rel.pure _
  | some neigh =>
    refine (Rel.pure _).ite (onHw_sameButOutcomes ?_)
    unfold opsSaiNeighborActivityGet
    split
    next => exact Rel.pure _
    next => exact Rel.bind read_sameButOutcomes fun _ => (Rel.pure _).ite (Rel.pure _)

theorem ReadCall.run_sameButOutcomes {c : ReadCall} : Rel SameButOutcomes c.run := by
  cases c with
  | stats traffic p stats => exact Rel.bind getStats_sameButOutcomes fun _ => Rel.pure _
  | hitBit traffic aux ip hit => exact Rel.bind getL3HostHitBit_sameButOutcomes fun _ => Rel.pure _

variable [OpenswitchIdl]

def OfprotoCall.run : OfprotoCall → Exec OfprotoSai Int
  | .host c => c.run
  | .read c => c.run

/-- Safe calls on bundles, calls that add no local route, any on host entries and reads. -/
def OfprotoCall.HandleSafe (o : OfprotoSai) : OfprotoCall → Prop
  | .host (.vrf (.bundle c)) => c.HandleSafe o
  | .host (.vrf (.route action routep)) => action = .add → routep.split.2 = []
  | .host (.host _ _) => True
  | .read _ => True

omit [OvsLib] [Build] [OpenswitchIdl] in
theorem SameButEntries.handleInv (h : SameButEntries o o') (hr : o'.NoRoutes)
    (hinv : HandleInv o) : HandleInv o' := by
  have hrif : o'.bundlesBy (·.routerIntf) = o.bundlesBy (·.routerIntf) :=
    bundlesBy_of (k := (·.routerIntf)) h.bundles fun _ => rfl
  refine ⟨h.links ▸ hinv.links, h.evolves.auxInj hinv.aux, hr, h.evolves.willing hinv.willing,
    h.type.trans hinv.type, fun p b hX hp => ?_⟩
  rw [handle_congr h.ofports] at hp
  obtain ⟨hown, r, hb, hc⟩ := hinv.handles p b hX hp
  exact ⟨h.links ▸ hown, r, hrif ▸ hb, hc⟩

omit [OvsLib] [Build] [OpenswitchIdl] in
theorem noRoutes_of_bundlesBy (h : o'.bundlesBy (·.localRoutes) = o.bundlesBy (·.localRoutes))
    (hr : o.NoRoutes) : o'.NoRoutes := by
  intro b bundle' hb'
  have hlocal : o.bundlesBy (·.localRoutes) b = some bundle'.localRoutes := by
    rw [← h]
    simp [bundlesBy, hb']
  obtain ⟨bundle, hb, heq⟩ := Option.map_eq_some_iff.mp hlocal
  exact heq.symm.trans (hr b bundle hb)

omit [OpenswitchIdl] in
/-- Without recorded local routes there is none to delete. -/
theorem l3RouteAction_noRoutes {action : OfprotoRouteAction} {routep : OfprotoRoute}
    (hadd : action = .add → routep.split.2 = []) :
    Keeps NoRoutes (l3RouteAction action routep) := by
  have hhw : ∀ {α : Type} (m : Exec Hw α), Keeps NoRoutes (onHw m) := fun m =>
    onHw_rel fun _ _ _ _ hr => hr
  have hdelete : ∀ b pfx, Keeps NoRoutes (l3LocalRouteDelete b pfx) := by
    intro b pfx o st o' h hr
    obtain ⟨bundle, hb, h⟩ := ofbundle_bind.mp h
    rw [gets_bind, hr b bundle hb] at h
    cases h
    exact hr
  refine (Rel.pure _).ite ?_
  split
  next => exact (Rel.require _ _).bind fun _ => l3RemoteRouteAction_rel fun _ => hhw _
  next lnh hsplit =>
    have hlookup : Keeps NoRoutes (ofbundleLookupByNetdevName lnh) :=
      Rel.bind ((hhw _).bind fun _ => Rel.gets _) fun _ => (Rel.gets _).bind fun _ => Rel.pure _
    refine hlookup.bind fun found => ?_
    cases action with
    | add =>
      rw [hsplit] at hadd
      cases hadd rfl
    | delete | deleteNh =>
      cases found with
      | none => exact Rel.pure _
      | some b => exact (ofbundle_rel b).bind fun _ => (Rel.pure _).ite (hdelete b routep.pfx)
    | unknown =>
      cases found with
      | none => exact Rel.pure _
      | some b => exact (ofbundle_rel b).bind fun _ => (Rel.pure _).ite (Rel.pure _)
  next => exact Rel.pure _
  next => exact Rel.halt _

/-- What holds in runs whose statistics are considered. -/
def StatsInv (o : OfprotoSai) : Prop := HandleInv o ∧ WillingInv o

theorem OfprotoCall.run_statsInv {c : OfprotoCall} (hsafe : c.HandleSafe o)
    (h : c.run o = .ok (st, o')) (hinv : StatsInv o) : StatsInv o' := by
  obtain ⟨hhandle, hwill⟩ := hinv
  cases c with
  | host c =>
    refine ⟨?_, HostCall.run_willingInv _ _ _ h hwill⟩
    cases c with
    | vrf c =>
      cases c with
      | bundle c => exact BundleCall.run_handleInv hsafe h hhandle
      | route action routep =>
        exact (l3RouteAction_sameButEntries _ _ _ h).handleInv
          (l3RouteAction_noRoutes hsafe _ _ _ h hhandle.noRoutes) hhandle
    | host aux c =>
      obtain ⟨b, bundle, -, -, honly⟩ := NeighborCall.run_onlyNeighbors h
      have hlocal : o'.bundlesBy (·.localRoutes) = o.bundlesBy (·.localRoutes) :=
        bundlesBy_of (k := (·.localRoutes)) honly.bundles fun _ => rfl
      exact (NeighborCall.run_sameButEntries _ _ _ h).handleInv
        (noRoutes_of_bundlesBy hlocal hhandle.noRoutes) hhandle
  | read c =>
    have hsame := ReadCall.run_sameButOutcomes _ _ _ h
    have hroutes := noRoutes_of_bundlesBy hsame.bundlesBy hhandle.noRoutes
    exact ⟨hsame.sameButEntries.handleInv hroutes hhandle,
      hsame.sameButEntries.willingInv (hsame.localsShrink.ok hwill.locals) hwill⟩

/-- The state with other outcomes to come. -/
def OfprotoSai.answering (o : OfprotoSai) (outs : List SaiStatus) : OfprotoSai :=
  { o with hw := { o.hw with outcomes := outs } }

omit [Build] [OpenswitchIdl] in
theorem StatsInv.countersOk (hinv : StatsInv o) (outs : List SaiStatus) :
    CountersOk (o.answering outs) where
  links := hinv.1.links
  handles := hinv.1.handles
  tables := hinv.2.sound.tables
  exists_rif := hinv.2.locals.exists_rif
  distinct := hinv.2.locals.distinct

/-- **Statistics are one's own**: in every state of a run of safe calls on a VRF and reads, with
every call into the hardware succeeding, the statistics of a port are read whatever the hardware
then answers: without an error they are those of the port and, with a handle, of the counter bound
to the interface of its own bundle, and no port of another bundle has that counter. -/
theorem stats_own {vrid : Nat} {ofports : OfpPort → Option OfportSai} {hw : Hw}
    (hnew : Unbundled ofports) (hnull : Unhandled ofports) (hwill : hw.Willing)
    (hrifs : hw.rifTables = ⟨∅, [], []⟩) (hroutes : ∀ vrid pfx, hw.routes vrid pfx = none)
    (H : Reaches OfprotoCall.HandleSafe OfprotoCall.run (.new .vrf vrid ofports hw) o)
    (hport : o.ofports p = some port) (outs : List SaiStatus) :
    Ends (getStats traffic p stats) (o.answering outs)
        ((o.answering outs).StatsRead traffic port stats) ∧
      ∀ q port' counter, o.ofports q = some port' → o.CounterOf port counter →
        o.CounterOf port' counter → port'.bundle = port.bundle := by
  have hinv : StatsInv o := H.invariant
    (fun _ _ hsafe _ _ h => OfprotoCall.run_statsInv hsafe h)
    ⟨new_handleInv hnew hnull hwill, new_willingInv hwill hrifs hroutes hnew⟩
  refine ⟨getStats_ends (hinv.countersOk outs) hport, fun q port' counter _ h h' => ?_⟩
  exact (hinv.countersOk outs).bundle_eq h' h

/-- The calls that keep every cache a mirror, and reads. -/
def OfprotoCall.Safe (o : OfprotoSai) : OfprotoCall → Prop
  | .host c => c.Safe o
  | .read _ => True

omit [Build] [OpenswitchIdl] in
theorem SameButOutcomes.neighborsOk (h : SameButOutcomes o o')
    (hok : NeighborsOk (fun _ => True) o) : NeighborsOk (fun _ => True) o' := by
  have hintfs : o'.hw.routerIntfs = o.hw.routerIntfs := (congrArg Hw.routerIntfs h.hw.1 :)
  have hneighbors : o'.hw.neighbors = o.hw.neighbors := (congrArg Hw.neighbors h.hw.1 :)
  exact (cachesShrink_of_eq hneighbors (fun _ hr => hintfs ▸ hr) h.bundlesBy).ok
    (h.localsShrink.ok hok.locals) hok

/-- **Hit bits are read from neighbors that exist**: in every state of a run of safe calls on an
ofproto and reads, with any pattern of failing calls into the hardware, reading the hit bit of an
address completes; it succeeds when the hardware lets it, and then the bit is set exactly if the
host entry for the address has a MAC and its neighbor has been active. -/
theorem hitBit_live {type : OfprotoType} {vrid : Nat} {ofports : OfpPort → Option OfportSai}
    {hw : Hw} {ip : String} {hit : Bool} (hroutes : ∀ vrid pfx, hw.routes vrid pfx = none)
    (hneighbors : ∀ rif addr, hw.neighbors rif addr = none)
    (H : Reaches OfprotoCall.Safe OfprotoCall.run (.new type vrid ofports hw) o)
    (hf : o.FoundBy aux b bundle) :
    Ends (getL3HostHitBit traffic aux ip hit) o (o.HitBitRead traffic bundle ip) ∧
      (bundle.HitBit traffic ip → ∃ addr eth, opsSaiCommonIpToSxIp ip = some addr ∧
        o.hw.neighborsOn bundle.rif addr = some eth) := by
  have hok : NeighborsOk (fun _ => True) o := by
    refine H.invariant (fun c _ hsafe _ _ h hok => ?_) (new_neighborsOk hroutes hneighbors)
    cases c with
    | host c => exact HostCall.run_neighborsOk hsafe h hok
    | read c => exact (ReadCall.run_sameButOutcomes _ _ _ h).neighborsOk hok
  have hcache := hok.caches b bundle trivial hf.2
  refine ⟨getL3HostHitBit_ends hf hcache, ?_⟩
  rintro ⟨e, he, rfl, hmac, -⟩
  obtain ⟨⟨addr, eth⟩, hrow⟩ := Option.isSome_iff_exists.mp (hcache.parsed e he hmac)
  exact ⟨addr, eth, (NeighborEntry.row_eq_some.mp hrow).2.1,
    hcache.mirrors.sound e he addr eth hrow⟩

end

/-! ### Examples -/

section
attribute [local instance] sampleOvs sampleBuild sampleIdl

/-- Every counter is 1, and every neighbor has been active. -/
def sampleTraffic : Traffic := ⟨fun _ _ => 1, fun _ => ⟨1, 1, 1, 1, 1, 1, 1, 1⟩, fun _ _ => true⟩

/-- Statistics in which nothing has been filled in. -/
def sampleStats : NetdevStats := ⟨0, 0, 0, 0, 0, 0, 0, 0, 0, 0, 0, 0, 0, 0, 0, 0, 0, 0, 0, 0⟩

/-- The statistics of a port with a handle are read while the hardware fails the first call. -/
theorem stats_own_set : ∃ (o : OfprotoSai) (port : OfportSai), o.ofports 1 = some port ∧
    port.netdev.rifHandle = some 0 ∧ Ends (getStats sampleTraffic 1 sampleStats)
      (o.answering [.failure])
      ((o.answering [.failure]).StatsRead sampleTraffic port sampleStats) := by
  obtain ⟨o, hset, hhandle⟩ := set_handle
  have hsafe : BundleCall.HandleSafe (.new .vrf 0 samplePorts .reset)
      (.set 1 (some (accessSettings 2))) := by
    refine .inr fun p b hp => ?_
    obtain ⟨port, hport, hb⟩ := Option.bind_eq_some_iff.mp hp
    rw [samplePorts_unhandled p port hport] at hb
    cases hb
  have H : Reaches OfprotoCall.HandleSafe OfprotoCall.run (.new .vrf 0 samplePorts .reset) o :=
    .tail .refl ⟨.host (.vrf (.bundle (.set 1 (some (accessSettings 2))))), 0, hsafe, hset⟩
  obtain ⟨port, hport, hb⟩ := Option.bind_eq_some_iff.mp hhandle
  have hwill : Hw.reset.Willing := rfl
  obtain ⟨hread, -⟩ := stats_own samplePorts_unbundled samplePorts_unhandled hwill rfl
    (fun _ _ => rfl) H hport [.failure]
  exact ⟨o, port, hport, hb, hread⟩

/-- The hit bit of a host entry that has been added. -/
theorem hitBit_live_add : ∃ (o : OfprotoSai) (bundle : OfbundleSai), o.FoundBy 1 0 bundle ∧
    bundle.neighbors = [⟨"10.0.0.1", "00:00:00:00:00:01"⟩] ∧
      Ends (getL3HostHitBit sampleTraffic 1 "10.0.0.1" false) o
        (o.HitBitRead sampleTraffic bundle "10.0.0.1") := by
  obtain ⟨o, hrun⟩ := result_eq_some.mp (show result (do
    let _ ← HostCall.run (.vrf (.bundle (.set 1 (some (accessSettings 2)))))
    let l ← gets fun o => decide (o.bundlesBy (·.neighbors) 0 = some [])
    let found ← ofbundleLookup 1
    let _ ← HostCall.run (.host 1 (.add "10.0.0.1" "00:00:00:00:00:01"))
    let l' ← gets fun o => decide (o.bundlesBy (·.neighbors) 0 =
      some [⟨"10.0.0.1", "00:00:00:00:00:01"⟩])
    let found' ← ofbundleLookup 1
    pure (l, found, l', found')) (.new .vrf 0 samplePorts .reset) =
      some (true, some 0, true, some 0) by decide +kernel)
  obtain ⟨st, o₁, hset, hrun⟩ := bind_ok.mp hrun
  rw [gets_bind] at hrun
  obtain ⟨found, o₂, hlookup, hrun⟩ := bind_ok.mp hrun
  obtain ⟨rfl, -, -⟩ := ofbundleLookup_ok hlookup
  obtain ⟨st', o₃, hadd, hrun⟩ := bind_ok.mp hrun
  rw [gets_bind] at hrun
  obtain ⟨found', o₄, hlookup', hend⟩ := bind_ok.mp hrun
  obtain ⟨rfl, -, -⟩ := ofbundleLookup_ok hlookup'
  rw [pure_apply] at hend
  simp only [Except.ok.injEq, Prod.mk.injEq] at hend
  obtain ⟨⟨hl, rfl, hl', rfl⟩, -⟩ := hend
  have hl := of_decide_eq_true hl
  have hsafe : HostCall.Safe o₂ (.host 1 (.add "10.0.0.1" "00:00:00:00:00:01")) := by
    intro b bundle hf bundle' addr eth hb' _ _ _ _ e he
    cases hf.1.symm.trans hlookup
    cases hf.2.symm.trans hb'
    simp only [bundlesBy, hf.2, Option.map_some, Option.some.injEq] at hl
    rw [hl] at he
    cases he
  have hsafe₀ : HostCall.Safe (.new .vrf 0 samplePorts .reset)
      (.vrf (.bundle (.set 1 (some (accessSettings 2))))) := by
    intro _ _ b bundle hb
    cases hb
  have hstep : Step OfprotoCall.Safe OfprotoCall.run (.new .vrf 0 samplePorts .reset) o₂ :=
    ⟨.host (.vrf (.bundle (.set 1 (some (accessSettings 2))))), st, hsafe₀, hset⟩
  have hstep' : Step OfprotoCall.Safe OfprotoCall.run o₂ o₄ :=
    ⟨.host (.host 1 (.add "10.0.0.1" "00:00:00:00:00:01")), st', hsafe, hadd⟩
  have H : Reaches OfprotoCall.Safe OfprotoCall.run (.new .vrf 0 samplePorts .reset) o₄ :=
    .tail (.tail .refl hstep) hstep'
  obtain ⟨bundle, hb, hbl⟩ := Option.map_eq_some_iff.mp (of_decide_eq_true hl')
  have hf : o₄.FoundBy 1 0 bundle := ⟨hlookup', hb⟩
  obtain ⟨hread, -⟩ := hitBit_live (fun _ _ => rfl) (fun _ _ => rfl) H hf
  exact ⟨o₄, bundle, hf, hbl, hread⟩

end

end SwitchdSai
