import SwitchdSai.Model.PortEvents

/-!
# What port state notifications change

A notification looks for the first initialized netdev of its port, and writes to what the search
leaves in the iterator. As long as every notification finds a netdev, a list of notifications does
to each netdev what it says (`NetdevLink.notified`), and writes to nothing else. A search that finds
nothing is not noticed: what is next to the list head is written.
-/

namespace SwitchdSai

open Exec Exec.Logged

/-- Changing the first element with a property that no two have changes every element with it. -/
theorem modify_findIdx? {α : Type} {p : α → Bool} {f : α → α} {l : List α} {i : Nat}
    (h : l.Pairwise fun a b => ¬(p a ∧ p b)) (hi : l.findIdx? p = some i) :
    l.modify i f = l.map fun a => if p a then f a else a := by
  induction l generalizing i with
  | nil => cases hi
  | cons a l ih =>
    obtain ⟨ha, hl⟩ := List.pairwise_cons.mp h
    rw [List.findIdx?_cons] at hi
    by_cases hp : p a = true
    · rw [if_pos hp] at hi
      cases hi
      have hrest : l.map (fun a => if p a then f a else a) = l := by
        refine (List.map_congr_left fun b hb => ?_).trans (List.map_id l)
        exact if_neg fun hpb => ha b hb ⟨hp, hpb⟩
      rw [List.map_cons, hrest, if_pos hp]
      rfl
    · rw [if_neg hp] at hi
      obtain ⟨j, hj, rfl⟩ := Option.map_eq_some_iff.mp hi
      rw [List.modify_succ_cons, ih hl hj, List.map_cons, if_neg hp]

/-! ## One notification -/

/-- The netdev is the initialized netdev of a port. -/
def NetdevLink.isPort (table : Nat → Nat) (oid : Nat) (dev : NetdevLink) : Bool :=
  dev.netdev.isPortInitialized && table dev.netdev.hwId = oid

/-- A netdev after a notification about its port. -/
def NetdevLink.changed (linkStatus : Bool) (dev : NetdevLink) : NetdevLink :=
  { dev with
    carrierResets := dev.carrierResets + if linkStatus then 1 else 0
    changes := dev.changes + 1 }

/-- What the search for a port leaves in the iterator. -/
def NetdevLinks.search (s : NetdevLinks) (oid : Nat) : NetdevPtr :=
  listForEachSafe (NetdevLink.isPort s.saiLableIdToOidMap oid) s.saiNetdevList

/-- The writes of a notification. -/
def changeWrites (linkStatus : Bool) (dev : NetdevPtr) : List NetdevWrite :=
  if linkStatus then [.carrierResets dev, .changeSeq dev] else [.changeSeq dev]

variable {s s' : NetdevLinks} {oid : Nat} {linkStatus : Bool}

theorem NetdevLinks.search_ne_null : s.search oid ≠ .null := by
  unfold search listForEachSafe
  split
  · exact NetdevPtr.noConfusion
  · exact NetdevPtr.noConfusion

theorem modifyPtr_ok (f : NetdevLink → NetdevLink) {dev : NetdevPtr} (h : dev ≠ .null)
    (s : NetdevLinks) : ∃ s', modifyPtr f dev s = .ok ((), s') := by
  cases dev with
  | null => exact absurd rfl h
  | node i => exact ⟨_, rfl⟩
  | head => exact ⟨_, rfl⟩

theorem modifyPtr_bind (f g : NetdevLink → NetdevLink) (dev : NetdevPtr) (s : NetdevLinks) :
    (modifyPtr f dev >>= fun _ => modifyPtr g dev) s = modifyPtr (g ∘ f) dev s := by
  cases dev with
  | null => rfl
  | node i =>
    have hlist := List.modify_modify_eq f g i s.saiNetdevList
    exact congrArg (fun devs => Except.ok ((), { s with saiNetdevList := devs })) hlist
  | head => rfl

theorem linkChanged_log {dev : NetdevPtr} (h : dev ≠ .null) :
    (linkChanged linkStatus dev).log s = changeWrites linkStatus dev := by
  cases linkStatus with
  | false => rfl
  | true =>
    obtain ⟨s', hs⟩ := modifyPtr_ok
      (fun dev => { dev with carrierResets := dev.carrierResets + 1 }) h s
    exact log_bind (t := mark _ _) hs

theorem linkChanged_prog (dev : NetdevPtr) :
    (linkChanged linkStatus dev).prog s = modifyPtr (NetdevLink.changed linkStatus) dev s := by
  cases linkStatus with
  | false =>
    have hchanged : NetdevLink.changed false = fun dev => { dev with changes := dev.changes + 1 } :=
      funext fun dev => by simp [NetdevLink.changed]
    rw [hchanged]
    rfl
  | true => exact modifyPtr_bind _ _ dev s

/-- A notification changes what its search has found, whatever that is. -/
theorem portOperStateChanged_prog :
    (netdevSaiPortOperStateChanged oid linkStatus).prog s =
      modifyPtr (NetdevLink.changed linkStatus) (s.search oid) s := by
  rw [← linkChanged_prog]
  show (if s.search oid = .null then pure () else linkChanged linkStatus (s.search oid)).prog s = _
  rw [if_neg s.search_ne_null]

theorem portOperStateChanged_log :
    (netdevSaiPortOperStateChanged oid linkStatus).log s =
      changeWrites linkStatus (s.search oid) := by
  rw [← linkChanged_log s.search_ne_null]
  show (if s.search oid = .null then pure () else linkChanged linkStatus (s.search oid)).log s = _
  rw [if_neg s.search_ne_null]

/-! ## A list of notifications -/

/-- No two initialized netdevs have the same port. -/
def NetdevLinks.PortsDistinct (s : NetdevLinks) : Prop :=
  s.saiNetdevList.Pairwise fun dev dev' => dev.netdev.isPortInitialized →
    dev'.netdev.isPortInitialized →
    s.saiLableIdToOidMap dev.netdev.hwId ≠ s.saiLableIdToOidMap dev'.netdev.hwId

/-- A netdev after notifications: one that is initialized has its carrier resets counted up by the
notifications that its port is up, and it has changed with every one about its port. -/
def NetdevLink.notified (table : Nat → Nat) (data : List SaiPortOperStatusNotification)
    (dev : NetdevLink) : NetdevLink :=
  { dev with
    carrierResets := dev.carrierResets +
      data.countP fun n => dev.isPort table n.portId && n.portState = .up
    changes := dev.changes + data.countP fun n => dev.isPort table n.portId }

/-- The pointer of a write. -/
def NetdevWrite.dev : NetdevWrite → NetdevPtr
  | .carrierResets dev | .changeSeq dev => dev

/-- Notifications change each netdev of the list as they say, and write to no other netdev than the
initialized netdevs of their ports, and to nothing else. -/
structure PortStatesUpdated (data : List SaiPortOperStatusNotification) (s : NetdevLinks) :
    Prop where
  devs : Ends (eventPortState data).prog s fun _ s' =>
    s'.saiNetdevList = s.saiNetdevList.map (NetdevLink.notified s.saiLableIdToOidMap data)
  writes : ∀ write ∈ (eventPortState data).log s, ∃ i dev, write.dev = .node i ∧
    s.saiNetdevList[i]? = some dev ∧
    ∃ n ∈ data, dev.isPort s.saiLableIdToOidMap n.portId = true

/-- The state after a notification that finds a netdev. -/
def NetdevLinks.changed (oid : Nat) (linkStatus : Bool) (s : NetdevLinks) : NetdevLinks :=
  { s with
    saiNetdevList := s.saiNetdevList.map fun dev =>
      if dev.isPort s.saiLableIdToOidMap oid then dev.changed linkStatus else dev }

/-- What a notification does to a netdev leaves the netdev's port as it was. -/
theorem netdev_changed (c : Bool) (dev : NetdevLink) :
    (if c then dev.changed linkStatus else dev).netdev = dev.netdev := by
  cases c <;> rfl

theorem isPort_changed (c : Bool) (table : Nat → Nat) (oid' : Nat) (dev : NetdevLink) :
    (if c then dev.changed linkStatus else dev).isPort table oid' = dev.isPort table oid' := by
  unfold NetdevLink.isPort
  rw [netdev_changed]

theorem portOperStateChanged_found (linkStatus : Bool) (hdistinct : s.PortsDistinct)
    (h : ∃ dev ∈ s.saiNetdevList, dev.isPort s.saiLableIdToOidMap oid = true) :
    (∃ i dev, s.search oid = .node i ∧ s.saiNetdevList[i]? = some dev ∧
        dev.isPort s.saiLableIdToOidMap oid = true) ∧
      (netdevSaiPortOperStateChanged oid linkStatus).prog s =
        .ok ((), s.changed oid linkStatus) := by
  have hpair : s.saiNetdevList.Pairwise fun dev dev' =>
      ¬(dev.isPort s.saiLableIdToOidMap oid ∧ dev'.isPort s.saiLableIdToOidMap oid) := by
    refine hdistinct.imp fun hne hports => ?_
    simp only [NetdevLink.isPort, Bool.and_eq_true, decide_eq_true_eq] at hports
    exact hne hports.1.1 hports.2.1 (hports.1.2.trans hports.2.2.symm)
  cases hfind : s.saiNetdevList.findIdx? (NetdevLink.isPort s.saiLableIdToOidMap oid) with
  | none =>
    obtain ⟨dev, hdev, hport⟩ := h
    have hnone := List.findIdx?_eq_none_iff.mp hfind dev hdev
    rw [hport] at hnone
    cases hnone
  | some i =>
    obtain ⟨hi, hport, -⟩ := List.findIdx?_eq_some_iff_getElem.mp hfind
    have hsearch : s.search oid = .node i := by
      unfold NetdevLinks.search listForEachSafe
      rw [hfind]
    refine ⟨⟨i, _, hsearch, List.getElem?_eq_getElem hi, hport⟩, ?_⟩
    have hlist := modify_findIdx? (f := NetdevLink.changed linkStatus) hpair hfind
    rw [portOperStateChanged_prog, hsearch]
    exact congrArg (fun devs => Except.ok ((), { s with saiNetdevList := devs })) hlist

/-- The search depends on the ports of the netdevs only. -/
theorem search_changed : (s.changed oid linkStatus).search = s.search := by
  funext oid'
  unfold NetdevLinks.search listForEachSafe NetdevLinks.changed
  rw [List.findIdx?_map]
  congr 2
  funext dev
  exact isPort_changed _ _ _ dev

theorem portsDistinct_changed (h : s.PortsDistinct) : (s.changed oid linkStatus).PortsDistinct := by
  unfold NetdevLinks.PortsDistinct NetdevLinks.changed
  rw [List.pairwise_map]
  refine h.imp fun {dev dev'} hne => ?_
  rw [netdev_changed, netdev_changed]
  exact hne

/-- The first notification and then the others. -/
theorem notified_changed (dev : NetdevLink) (table : Nat → Nat) (n : SaiPortOperStatusNotification)
    (data : List SaiPortOperStatusNotification) :
    NetdevLink.notified table data
        (if dev.isPort table n.portId then dev.changed (n.portState = .up) else dev) =
      NetdevLink.notified table (n :: data) dev := by
  cases hport : dev.isPort table n.portId with
  | false => simp [NetdevLink.notified, hport]
  | true =>
    have hresets : dev.carrierResets + (if decide (n.portState = .up) then 1 else 0) +
        (data.countP fun n => dev.isPort table n.portId && n.portState = .up : Int) =
        dev.carrierResets +
          ((n :: data).countP fun n => dev.isPort table n.portId && n.portState = .up : Int) := by
      rw [List.countP_cons, hport, Bool.true_and]
      push_cast
      split <;> omega
    have hchanges : dev.changes + 1 + (data.countP fun n => dev.isPort table n.portId) =
        dev.changes + (n :: data).countP fun n => dev.isPort table n.portId := by
      rw [List.countP_cons, hport, if_pos rfl]
      omega
    unfold NetdevLink.notified
    rw [← hresets, ← hchanges]
    rfl

theorem search_of_none (h : ¬∃ dev ∈ s.saiNetdevList, dev.isPort s.saiLableIdToOidMap oid = true) :
    s.search oid = .head := by
  have hnone : s.saiNetdevList.findIdx? (NetdevLink.isPort s.saiLableIdToOidMap oid) = none := by
    refine List.findIdx?_eq_none_iff.mpr fun dev hdev => ?_
    exact Bool.eq_false_iff.mpr fun hport => h ⟨dev, hdev, hport⟩
  unfold NetdevLinks.search listForEachSafe
  rw [hnone]

/-- A notification leaves the ports of the netdevs as they were. -/
theorem portOperStateChanged_step (hdistinct : s.PortsDistinct) :
    ∃ s₁, (netdevSaiPortOperStateChanged oid linkStatus).prog s = .ok ((), s₁) ∧
      s₁.PortsDistinct ∧ s₁.search = s.search := by
  by_cases h : ∃ dev ∈ s.saiNetdevList, dev.isPort s.saiLableIdToOidMap oid = true
  · exact ⟨_, (portOperStateChanged_found linkStatus hdistinct h).2,
      portsDistinct_changed hdistinct, search_changed⟩
  · refine ⟨s, ?_, hdistinct, rfl⟩
    rw [portOperStateChanged_prog, search_of_none h]
    rfl

/-- Each notification of a list writes to what its search finds at the start. -/
theorem changeSeq_mem_log {data : List SaiPortOperStatusNotification}
    {n : SaiPortOperStatusNotification} (hdistinct : s.PortsDistinct) (hn : n ∈ data) :
    .changeSeq (s.search n.portId) ∈ (eventPortState data).log s := by
  induction data generalizing s with
  | nil => cases hn
  | cons first data ih =>
    rcases List.mem_cons.mp hn with rfl | hn
    · refine mem_log_bind.mpr (.inl ?_)
      rw [portOperStateChanged_log]
      unfold changeWrites
      split
      · exact List.mem_cons_of_mem _ (List.mem_singleton_self _)
      · exact List.mem_singleton_self _
    · obtain ⟨s₁, hrun, hdistinct, hsearch⟩ := portOperStateChanged_step hdistinct
      refine mem_log_bind.mpr (.inr ⟨_, s₁, hrun, ?_⟩)
      rw [← hsearch]
      exact ih hdistinct hn

/-- A list of notifications that all find a netdev. -/
theorem eventPortState_found {data : List SaiPortOperStatusNotification}
    (hdistinct : s.PortsDistinct) (h : ∀ n ∈ data, ∃ dev ∈ s.saiNetdevList,
      dev.isPort s.saiLableIdToOidMap n.portId = true) : PortStatesUpdated data s := by
  induction data generalizing s with
  | nil =>
    refine ⟨Ends.pure ?_, fun _ h => absurd h List.not_mem_nil⟩
    have hid : NetdevLink.notified s.saiLableIdToOidMap [] = id := funext fun dev => by
      simp [NetdevLink.notified]
    rw [hid, List.map_id]
  | cons first data ih =>
    obtain ⟨⟨i, dev, hsearch, hdev, hport⟩, hrun⟩ := portOperStateChanged_found
      (first.portState = .up) hdistinct (h first (List.mem_cons_self ..))
    have hrest : ∀ n ∈ data, ∃ dev ∈ (s.changed first.portId (first.portState = .up)).saiNetdevList,
        dev.isPort s.saiLableIdToOidMap n.portId = true := by
      intro n hn
      obtain ⟨dev, hdev, hport⟩ := h n (List.mem_cons_of_mem _ hn)
      refine ⟨_, List.mem_map_of_mem hdev, ?_⟩
      rw [isPort_changed, hport]
    obtain ⟨hdevs, hwrites⟩ := ih (portsDistinct_changed hdistinct) hrest
    constructor
    · refine Ends.bind (Q := fun _ s₁ => s₁ = s.changed first.portId (first.portState = .up))
        ⟨_, _, hrun, rfl⟩ fun _ s₁ hs₁ => ?_
      subst hs₁
      refine hdevs.mono fun _ s' hs' => hs'.trans ?_
      refine List.map_map.trans (List.map_congr_left fun dev _ => ?_)
      exact notified_changed dev _ first data
    · intro write hwrite
      rcases mem_log_bind.mp hwrite with hwrite | ⟨_, s₁, hrun', hwrite⟩
      · rw [portOperStateChanged_log, hsearch] at hwrite
        have hnode : write.dev = .node i := by
          unfold changeWrites at hwrite
          split at hwrite
          · rcases List.mem_pair.mp hwrite with rfl | rfl <;> rfl
          · rw [List.mem_singleton.mp hwrite]
            rfl
        exact ⟨i, dev, hnode, hdev, first, List.mem_cons_self .., hport⟩
      · cases hrun.symm.trans hrun'
        obtain ⟨j, _, hnode, hmap, n, hn, hport'⟩ := hwrites write hwrite
        obtain ⟨dev', hdev', rfl⟩ := Option.map_eq_some_iff.mp (List.getElem?_map.symm.trans hmap)
        rw [isPort_changed] at hport'
        exact ⟨j, dev', hnode, hdev', n, List.mem_cons_of_mem _ hn, hport'⟩

/-- Notifications update exactly the ports they are about, if and only if every one of them is about
the port of an initialized netdev. -/
theorem eventPortState_updates (data : List SaiPortOperStatusNotification) (s : NetdevLinks)
    (hdistinct : s.PortsDistinct) :
    PortStatesUpdated data s ↔ ∀ n ∈ data, ∃ dev ∈ s.saiNetdevList,
      dev.isPort s.saiLableIdToOidMap n.portId = true := by
  constructor
  · intro hupdated n hn
    by_contra hnone
    have hwrite := changeSeq_mem_log hdistinct hn
    obtain ⟨i, _, hnode, -⟩ := hupdated.writes _ hwrite
    rw [search_of_none hnone] at hnode
    cases hnode
  · exact eventPortState_found hdistinct

/-- The netdev of port 1, which is initialized, and one that is not. -/
def twoLinks : NetdevLinks where
  saiNetdevList :=
    [⟨{ NetdevSai.alloc "2" .system with hwId := 2 }, 0, 0⟩,
      ⟨{ NetdevSai.alloc "1" .system with hwId := 1, isPortInitialized := true }, 5, 0⟩]
  saiLableIdToOidMap := id

theorem twoLinks_portsDistinct : twoLinks.PortsDistinct := by
  refine List.pairwise_pair.mpr fun h => ?_
  cases h

/-- Port 1 goes up, down and up again. -/
theorem eventPortState_updates_flap :
    PortStatesUpdated [⟨1, .up⟩, ⟨1, .down⟩, ⟨1, .up⟩] twoLinks := by
  refine (eventPortState_updates _ _ twoLinks_portsDistinct).mpr fun n hn => ?_
  refine ⟨_, List.mem_cons_of_mem _ (List.mem_singleton_self _), ?_⟩
  simp only [List.mem_cons, List.not_mem_nil, or_false] at hn
  rcases hn with rfl | rfl | rfl <;> rfl

/-- Port 2 goes up, whose netdev is not initialized: the search ends at the list head. -/
theorem eventPortState_stray : ¬PortStatesUpdated [⟨2, .up⟩] twoLinks := by
  intro h
  obtain ⟨i, _, hnode, -⟩ := h.writes (.carrierResets .head) (by decide)
  cases hnode

end SwitchdSai
