import SwitchdSai.Lib.Mirror
import SwitchdSai.Lib.Run
import SwitchdSai.Model.L3
import SwitchdSai.Verify.Frames

/-!
# The neighbor cache

A bundle caches the neighbors it has programmed and asks the cache whether a call into the hardware
is needed. The cache mirrors the neighbors of its router interface as long as no call gives an
address another MAC: `__neigh_entry_hash_add` leaves the entry as it is when the MAC has changed.
-/

namespace SwitchdSai

open Exec OfprotoSai

variable {o o' : OfprotoSai} {b : BundlePtr} {bundle : OfbundleSai} {aux rifid : Nat}
  {ip mac : String} {l : List NeighborEntry} {st : Int} {hw hw' : Hw}

/-! ## The hash table -/

/-- The table has at most one entry for an address. -/
def UniqueIps (l : List NeighborEntry) : Prop := (l.map (·.ipAddress)).Nodup

theorem neighEntryHashFind_some {e : NeighborEntry} (h : neighEntryHashFind ip l = some e) :
    e ∈ l ∧ e.ipAddress = ip :=
  ⟨List.mem_of_find?_eq_some h, of_decide_eq_true (List.find?_some h :)⟩

theorem neighEntryHashFind_none : neighEntryHashFind ip l = none ↔ ∀ e ∈ l, e.ipAddress ≠ ip := by
  simp [neighEntryHashFind]

theorem UniqueIps.eq_of_find {e e' : NeighborEntry} (hl : UniqueIps l)
    (h : neighEntryHashFind ip l = some e) (he' : e' ∈ l) (hip : e'.ipAddress = ip) : e' = e := by
  obtain ⟨he, hip'⟩ := neighEntryHashFind_some h
  exact List.inj_on_of_nodup_map hl he' he (hip.trans hip'.symm)

theorem UniqueIps.mem_remove (hl : UniqueIps l) {e : NeighborEntry} :
    e ∈ neighEntryHashRemove ip l ↔ e ∈ l ∧ e.ipAddress ≠ ip := List.mem_eraseP_key hl

theorem UniqueIps.remove (hl : UniqueIps l) : UniqueIps (neighEntryHashRemove ip l) :=
  List.Nodup.sublist (List.eraseP_sublist.map _) hl

theorem UniqueIps.add (hl : UniqueIps l) : UniqueIps (neighEntryHashAdd mac ip l) := by
  unfold neighEntryHashAdd
  split
  next => exact hl
  next hnone =>
    refine List.nodup_cons.mpr ⟨fun hmem => ?_, hl⟩
    obtain ⟨e, he, hip⟩ := List.mem_map.mp hmem
    exact neighEntryHashFind_none.1 hnone e he hip

/-! ## The hardware -/

theorem sxNeighSet_ok {addr : SxIpAddr} {eth : Option EthAddr} {status : SaiStatus}
    (h : sxNeighSet rifid addr eth hw = .ok (status, hw')) :
    (status ≠ .success ∧ hw' = hw.tick) ∨
      status = .success ∧ hw.nextOutcome = .success ∧ hw' = hw.tick.setNeighbor rifid addr eth := by
  have hstatus := Hw.call_status h
  rcases Hw.call_cases h with ⟨hs, rfl⟩ | hfail
  · exact .inr ⟨hs, hstatus ▸ hs, rfl⟩
  · exact .inl hfail

theorem setNeighbor_neighbors {addr : SxIpAddr} {eth : Option EthAddr} :
    (hw.setNeighbor rifid addr eth).neighbors rifid =
      Function.update (hw.neighbors rifid) addr eth := Function.update_self ..

section
variable [OvsLib]

theorem opsSaiNeighborCreate_ok (h : opsSaiNeighborCreate ip mac rifid hw = .ok (st, hw')) :
    (st ≠ 0 ∧ hw'.neighbors = hw.neighbors) ∨
      st = 0 ∧ hw.nextOutcome = .success ∧ ∃ addr eth, opsSaiCommonIpToSxIp ip = some addr ∧
        OvsLib.ethAddrFromString mac = some eth ∧
        hw' = hw.tick.setNeighbor rifid addr (some eth) := by
  obtain ⟨status, hw₁, haction, hend⟩ := bind_ok.mp h
  cases hend
  cases hmac : OvsLib.ethAddrFromString mac with
  | none =>
    simp only [neighborAction, hmac] at haction
    cases haction
    exact .inl ⟨by decide, rfl⟩
  | some eth =>
    cases hip : opsSaiCommonIpToSxIp ip with
    | none =>
      simp only [neighborAction, hmac, hip] at haction
      cases haction
      exact .inl ⟨by decide, rfl⟩
    | some addr =>
      simp only [neighborAction, hmac, hip] at haction
      rcases sxNeighSet_ok haction with ⟨hs, rfl⟩ | ⟨rfl, hout, rfl⟩
      · exact .inl ⟨fun h0 => hs (sxError2Errno_eq_zero.mp h0), rfl⟩
      · exact .inr ⟨rfl, hout, addr, eth, rfl, rfl, rfl⟩

theorem opsSaiNeighborRemove_ok (h : opsSaiNeighborRemove ip rifid hw = .ok (st, hw')) :
    (st ≠ 0 ∧ hw'.neighbors = hw.neighbors) ∨
      st = 0 ∧ hw.nextOutcome = .success ∧ ∃ addr, opsSaiCommonIpToSxIp ip = some addr ∧
        hw' = hw.tick.setNeighbor rifid addr none := by
  obtain ⟨status, hw₁, haction, hend⟩ := bind_ok.mp h
  cases hend
  cases hip : opsSaiCommonIpToSxIp ip with
  | none =>
    simp only [neighborAction, hip] at haction
    cases haction
    exact .inl ⟨by decide, rfl⟩
  | some addr =>
    simp only [neighborAction, hip] at haction
    rcases sxNeighSet_ok haction with ⟨hs, rfl⟩ | ⟨rfl, hout, rfl⟩
    · exact .inl ⟨fun h0 => hs (sxError2Errno_eq_zero.mp h0), rfl⟩
    · exact .inr ⟨rfl, hout, addr, rfl, rfl⟩

/-! ## The mirror -/

/-- The neighbor an entry of the cache stands for. An entry without a MAC stands for none. -/
def NeighborEntry.row (e : NeighborEntry) : Option (SxIpAddr × EthAddr) :=
  if e.macAddress = "" then none else do
    let addr ← opsSaiCommonIpToSxIp e.ipAddress
    let eth ← OvsLib.ethAddrFromString e.macAddress
    return (addr, eth)

theorem NeighborEntry.row_eq_some {e : NeighborEntry} {addr : SxIpAddr} {eth : EthAddr} :
    e.row = some (addr, eth) ↔ e.macAddress ≠ "" ∧
      opsSaiCommonIpToSxIp e.ipAddress = some addr ∧
      OvsLib.ethAddrFromString e.macAddress = some eth := by
  unfold row
  by_cases hmac : e.macAddress = ""
  · simp [hmac]
  · simp [hmac, Option.bind_eq_some_iff]

/-- A cache mirrors the neighbors `t` of an interface: it has one entry for an address, each entry
with a MAC is programmed, and each neighbor is that of such an entry. -/
structure CacheOk (l : List NeighborEntry) (t : SxIpAddr → Option EthAddr) : Prop where
  unique : UniqueIps l
  /-- The texts of an entry with a MAC were accepted by the hardware. -/
  parsed : ∀ e ∈ l, e.macAddress ≠ "" → e.row.isSome
  mirrors : Mirrors NeighborEntry.row {e | e ∈ l} t

variable {t : SxIpAddr → Option EthAddr}

theorem CacheOk.of_tick (h : CacheOk l (hw.neighbors rifid)) (hn : hw'.neighbors = hw.neighbors) :
    CacheOk l (hw'.neighbors rifid) := hn ▸ h

/-- A cached entry that stands for a neighbor says what is programmed. -/
theorem CacheOk.find (h : CacheOk l t) {e : NeighborEntry} (he : neighEntryHashFind ip l = some e)
    (hmac : e.macAddress ≠ "") : ∃ addr eth, opsSaiCommonIpToSxIp ip = some addr ∧
      OvsLib.ethAddrFromString e.macAddress = some eth ∧ t addr = some eth := by
  obtain ⟨hmem, rfl⟩ := neighEntryHashFind_some he
  obtain ⟨⟨addr, eth⟩, hrow⟩ := Option.isSome_iff_exists.mp (h.parsed e hmem hmac)
  obtain ⟨-, haddr, heth⟩ := NeighborEntry.row_eq_some.1 hrow
  exact ⟨addr, eth, haddr, heth, h.mirrors.sound e hmem addr eth hrow⟩

/-- Adding an entry without a MAC. -/
theorem CacheOk.add_empty (h : CacheOk l t) : CacheOk (neighEntryHashAdd "" ip l) t := by
  refine ⟨h.unique.add, ?_, ?_⟩
  all_goals unfold neighEntryHashAdd; split
  next => exact h.parsed
  next =>
    intro e he hmac
    rcases List.mem_cons.mp he with rfl | he
    · exact absurd rfl hmac
    · exact h.parsed e he hmac
  next => exact h.mirrors
  next =>
    have hset : {e | e ∈ (⟨ip, ""⟩ : NeighborEntry) :: l} = insert ⟨ip, ""⟩ {e | e ∈ l} :=
      Set.ext fun _ => List.mem_cons
    rw [hset]
    exact h.mirrors.insert_none rfl

/-- Removing the entry of an address that has no MAC. -/
theorem CacheOk.remove_empty (h : CacheOk l t) {e : NeighborEntry}
    (he : neighEntryHashFind ip l = some e) (hmac : e.macAddress = "") :
    CacheOk (neighEntryHashRemove ip l) t := by
  refine ⟨h.unique.remove, fun e' he' => h.parsed e' (h.unique.mem_remove.mp he').1, ?_⟩
  have hset : {e' | e' ∈ neighEntryHashRemove ip l} = {e' ∈ {e' | e' ∈ l} | ¬e'.ipAddress = ip} :=
    Set.ext fun _ => h.unique.mem_remove
  rw [hset]
  refine h.mirrors.remove_none fun e' he' hip => ?_
  rw [h.unique.eq_of_find he he' hip, NeighborEntry.row, if_pos hmac]

/-- Removing an entry and the neighbor it stands for, when no other entry stands for it. -/
theorem CacheOk.remove (h : CacheOk l t) {addr : SxIpAddr} {e : NeighborEntry}
    (he : neighEntryHashFind ip l = some e) (hmac : e.macAddress ≠ "")
    (haddr : opsSaiCommonIpToSxIp ip = some addr)
    (honly : ∀ e' ∈ l, ∀ eth, e'.row = some (addr, eth) → e'.ipAddress = ip) :
    CacheOk (neighEntryHashRemove ip l) (Function.update t addr none) := by
  refine ⟨h.unique.remove, fun e' he' => h.parsed e' (h.unique.mem_remove.mp he').1, ?_⟩
  have hset : {e' | e' ∈ neighEntryHashRemove ip l} = {e' ∈ {e' | e' ∈ l} | ¬e'.ipAddress = ip} :=
    Set.ext fun _ => h.unique.mem_remove
  rw [hset]
  refine h.mirrors.remove (fun e' he' hip => ?_) honly
  rw [h.unique.eq_of_find he he' hip]
  obtain ⟨addr', eth, haddr', heth, -⟩ := h.find he hmac
  obtain rfl : addr' = addr := Option.some.inj (haddr'.symm.trans haddr)
  obtain ⟨-, rfl⟩ := neighEntryHashFind_some he
  exact ⟨eth, NeighborEntry.row_eq_some.2 ⟨hmac, haddr, heth⟩⟩

/-- Programming a neighbor and caching it, when no entry says otherwise. -/
theorem CacheOk.add (h : CacheOk l t) {addr : SxIpAddr} {eth : EthAddr} (hmac : mac ≠ "")
    (hfind : ∀ e, neighEntryHashFind ip l = some e → e.macAddress ≠ "")
    (haddr : opsSaiCommonIpToSxIp ip = some addr) (heth : OvsLib.ethAddrFromString mac = some eth)
    (hagree : ∀ e ∈ l, ∀ eth', e.row = some (addr, eth') → eth' = eth) :
    CacheOk (neighEntryHashAdd mac ip l) (Function.update t addr (some eth)) := by
  refine ⟨h.unique.add, ?_, ?_⟩
  all_goals unfold neighEntryHashAdd; split
  next => exact h.parsed
  next =>
    intro e he hne
    rcases List.mem_cons.mp he with rfl | he
    · exact Option.isSome_of_eq_some (NeighborEntry.row_eq_some.2 ⟨hmac, haddr, heth⟩)
    · exact h.parsed e he hne
  next e he =>
    -- the entry that stays has the same MAC
    obtain ⟨addr', eth', haddr', heth', ht⟩ := h.find he (hfind e he)
    obtain rfl : addr' = addr := Option.some.inj (haddr'.symm.trans haddr)
    obtain ⟨hmem, rfl⟩ := neighEntryHashFind_some he
    have hrow : e.row = some (addr', eth') :=
      NeighborEntry.row_eq_some.2 ⟨hfind e he, haddr', heth'⟩
    rw [← hagree e hmem eth' hrow, ← ht, Function.update_eq_self]
    exact h.mirrors
  next =>
    have hset : {e | e ∈ (⟨ip, mac⟩ : NeighborEntry) :: l} = insert ⟨ip, mac⟩ {e | e ∈ l} :=
      Set.ext fun _ => List.mem_cons
    rw [hset]
    exact h.mirrors.insert (NeighborEntry.row_eq_some.2 ⟨hmac, haddr, heth⟩) hagree

/-! ## The calls -/

omit [OvsLib] in
/-- The bundle that is looked up for `aux` is `b`, with the data `bundle`. -/
def OfprotoSai.FoundBy (o : OfprotoSai) (aux : Nat) (b : BundlePtr) (bundle : OfbundleSai) : Prop :=
  ofbundleLookup aux o = .ok (some b, o) ∧ o.bundles.lookup b = some bundle

omit [OvsLib] in
theorem OfprotoSai.FoundBy.aux_eq (h : o.FoundBy aux b bundle) : bundle.aux = aux := by
  obtain ⟨-, hend⟩ := require_bind.mp h.1
  simp only [gets_apply, Except.ok.injEq, Prod.mk.injEq, and_true] at hend
  obtain ⟨e, he, rfl⟩ := Option.map_eq_some_iff.mp hend
  have hmem : o.bundles.lookup e.1 = some e.2 :=
    AList.mem_lookup_iff.mpr (List.mem_of_find?_eq_some he)
  obtain rfl : e.2 = bundle := Option.some.inj (hmem.symm.trans h.2)
  exact of_decide_eq_true (List.find?_some he :)

omit [OvsLib] in
/-- The bundle is still found after a change that leaves its aux as it is. -/
theorem OfprotoSai.FoundBy.set (h : o.FoundBy aux b bundle) {bundle' : OfbundleSai}
    (haux : bundle'.aux = bundle.aux) : (o.setBundle b bundle').FoundBy aux b bundle' := by
  obtain ⟨hne, -⟩ := require_bind.mp h.1
  have hfirst : (o.setBundle b bundle').bundles.entries.find? (fun e => e.2.aux = aux) =
      some ⟨b, bundle'⟩ :=
    List.find?_cons_of_pos (by simpa using haux.trans h.aux_eq)
  refine ⟨require_bind.mpr ⟨hne, ?_⟩, (setBundle_lookup ..).trans (if_pos rfl)⟩
  rw [gets_apply, hfirst]
  rfl

omit [OvsLib] in
theorem OfprotoSai.FoundBy.setHw (h : o.FoundBy aux b bundle) :
    OfprotoSai.FoundBy { o with hw := hw } aux b bundle := by
  obtain ⟨hne, hend⟩ := require_bind.mp h.1
  simp only [gets_apply, Except.ok.injEq, Prod.mk.injEq, and_true] at hend
  exact ⟨require_bind.mpr ⟨hne, by rw [gets_apply, hend]⟩, h.2⟩

omit [OvsLib] in
theorem modifyNeighbors_ok {f : List NeighborEntry → List NeighborEntry}
    (hf : o.FoundBy aux b bundle) (h : modifyNeighbors b f o = .ok (st, o')) :
    st = 0 ∧ o'.hw = o.hw ∧
      o'.FoundBy aux b { bundle with neighbors := f bundle.neighbors } := by
  obtain ⟨bundle₁, hb₁, hend⟩ := modifyBundle_bind.mp h
  obtain rfl : bundle₁ = bundle := Option.some.inj (hb₁.symm.trans hf.2)
  cases hend
  exact ⟨rfl, rfl, hf.set rfl⟩

omit [OvsLib] in
theorem l3HostBundle_bind {α : Type} {k : BundlePtr × OfbundleSai → Exec OfprotoSai α}
    {r : α × OfprotoSai} (hf : o.FoundBy aux b bundle) (h : (l3HostBundle aux >>= k) o = .ok r) :
    k (b, bundle) o = .ok r := by
  obtain ⟨p, o₁, h₁, h⟩ := bind_ok.mp h
  obtain ⟨found, o₂, h₂, h₁⟩ := bind_ok.mp h₁
  cases h₂.symm.trans hf.1
  obtain ⟨b₁, hb₁, h₁⟩ := need_bind.mp h₁
  cases hb₁
  obtain ⟨bundle₁, hb₂, h₁⟩ := ofbundle_bind.mp h₁
  obtain rfl : bundle₁ = bundle := Option.some.inj (hb₂.symm.trans hf.2)
  obtain ⟨-, hend⟩ := require_bind.mp h₁
  cases hend
  exact h

/-- The bundle `b` of `aux` has the interface `rifid`, and its cache mirrors the neighbors there. -/
def OfprotoSai.Mirrored (o : OfprotoSai) (aux : Nat) (b : BundlePtr) (rifid : Nat) : Prop :=
  ∃ bundle, o.FoundBy aux b bundle ∧ bundle.routerIntf.rifid = rifid ∧
    CacheOk bundle.neighbors (o.hw.neighbors rifid)

/-- A call on the neighbors of a bundle. -/
inductive NeighborCall where
  | add (ipAddr nextHopMacAddr : String)
  | delete (ipAddr : String)

def NeighborCall.run (aux : Nat) : NeighborCall → Exec OfprotoSai Int
  | .add ipAddr nextHopMacAddr => addL3HostEntry aux ipAddr nextHopMacAddr
  | .delete ipAddr => deleteL3HostEntry aux ipAddr

/-- The calls that keep the cache a mirror. An add that the hardware accepts may not give an address
another MAC than the one that is cached for it, and a delete that it accepts may not leave the
address cached in another spelling. -/
def NeighborCall.Safe (b : BundlePtr) (o : OfprotoSai) : NeighborCall → Prop
  | .add ip mac => ∀ bundle addr eth, o.bundles.lookup b = some bundle → mac ≠ "" →
      opsSaiCommonIpToSxIp ip = some addr → OvsLib.ethAddrFromString mac = some eth →
      o.hw.nextOutcome = .success →
      ∀ e ∈ bundle.neighbors, ∀ eth', e.row = some (addr, eth') → eth' = eth
  | .delete ip => ∀ bundle addr, o.bundles.lookup b = some bundle →
      opsSaiCommonIpToSxIp ip = some addr → o.hw.nextOutcome = .success →
      (∃ e, neighEntryHashFind ip bundle.neighbors = some e ∧ e.macAddress ≠ "") →
      ∀ e ∈ bundle.neighbors, ∀ eth, e.row = some (addr, eth) → e.ipAddress = ip

theorem addL3HostEntry_mirrored (hsafe : NeighborCall.Safe b o (.add ip mac))
    (h : addL3HostEntry aux ip mac o = .ok (st, o')) (hm : o.Mirrored aux b rifid) :
    o'.Mirrored aux b rifid ∧ (st = 0 → mac ≠ "" → ∃ addr eth,
      opsSaiCommonIpToSxIp ip = some addr ∧ OvsLib.ethAddrFromString mac = some eth ∧
        o'.hw.neighbors rifid addr = some eth) := by
  obtain ⟨bundle, hf, rfl, hok⟩ := hm
  have h := l3HostBundle_bind hf h
  dsimp only at h
  split at h
  next hsame =>
    cases h
    refine ⟨⟨bundle, hf, rfl, hok⟩, fun _ hmac => ?_⟩
    obtain ⟨e, he, hemac⟩ := (Option.any_eq_true ..).mp hsame
    obtain rfl : e.macAddress = mac := of_decide_eq_true hemac
    exact hok.find he hmac
  split at h
  next hmac =>
    subst hmac
    obtain ⟨-, hhw, hf'⟩ := modifyNeighbors_ok hf h
    exact ⟨⟨_, hf', rfl, hhw ▸ hok.add_empty⟩, fun _ hne => absurd rfl hne⟩
  next hmac =>
    -- an entry without a MAC is removed first
    have hclear : ∀ {st₁ o₁}, (if (neighEntryHashFind ip bundle.neighbors).any (·.macAddress = "")
        then modifyNeighbors b (neighEntryHashRemove ip) else pure 0) o = .ok (st₁, o₁) →
        st₁ = 0 ∧ o₁.hw = o.hw ∧ ∃ l, o₁.FoundBy aux b { bundle with neighbors := l } ∧
          CacheOk l (o.hw.neighbors bundle.routerIntf.rifid) ∧ (∀ e ∈ l, e ∈ bundle.neighbors) ∧
          ∀ e, neighEntryHashFind ip l = some e → e.macAddress ≠ "" := by
      intro st₁ o₁ h₁
      split at h₁
      next hany =>
        obtain ⟨e, he, hemac⟩ := (Option.any_eq_true ..).mp hany
        obtain ⟨hst, hhw, hf₁⟩ := modifyNeighbors_ok hf h₁
        refine ⟨hst, hhw, _, hf₁, hok.remove_empty he (of_decide_eq_true hemac),
          fun e' he' => (hok.unique.mem_remove.mp he').1, fun e' he' => ?_⟩
        obtain ⟨hmem, hip⟩ := neighEntryHashFind_some he'
        exact absurd hip (hok.unique.mem_remove.mp hmem).2
      next hany =>
        cases h₁
        refine ⟨rfl, rfl, bundle.neighbors, hf, hok, fun _ => id, fun e he hempty => hany ?_⟩
        exact (Option.any_eq_true ..).mpr ⟨e, he, decide_eq_true hempty⟩
    rcases thenOk_ok.mp h with ⟨h₁, h0⟩ | ⟨o₁, h₁, h⟩
    · exact absurd (hclear h₁).1 h0
    obtain ⟨-, hhw₁, l, hf₁, hok₁, hsub, hfind⟩ := hclear h₁
    rcases thenOk_ok.mp h with ⟨h₂, h0⟩ | ⟨o₂, h₂, h⟩
    · obtain ⟨hw, hcreate, rfl⟩ := onHw_ok.mp h₂
      obtain ⟨-, hn⟩ := (opsSaiNeighborCreate_ok hcreate).resolve_right fun h => h0 h.1
      rw [hhw₁] at hn
      exact ⟨⟨_, hf₁.setHw, rfl, hok₁.of_tick hn⟩, fun h => absurd h h0⟩
    · obtain ⟨hw, hcreate, rfl⟩ := onHw_ok.mp h₂
      obtain ⟨-, hout, addr, eth, haddr, heth, rfl⟩ :=
        (opsSaiNeighborCreate_ok hcreate).resolve_left fun h => h.1 rfl
      obtain ⟨-, hhw, hf'⟩ := modifyNeighbors_ok hf₁.setHw h
      rw [hhw₁] at hout
      have hagree := hsafe bundle addr eth hf.2 hmac haddr heth hout
      have hok' := hok₁.add hmac hfind haddr heth fun e he => hagree e (hsub e he)
      have hrow : o'.hw.neighbors bundle.routerIntf.rifid =
          Function.update (o.hw.neighbors bundle.routerIntf.rifid) addr (some eth) := by
        rw [hhw, setNeighbor_neighbors, hhw₁]
        rfl
      refine ⟨⟨_, hf', rfl, hrow ▸ hok'⟩, fun _ _ => ⟨addr, eth, haddr, heth, ?_⟩⟩
      rw [hrow, Function.update_self]

theorem deleteL3HostEntry_mirrored (hsafe : NeighborCall.Safe b o (.delete ip))
    (h : deleteL3HostEntry aux ip o = .ok (st, o')) (hm : o.Mirrored aux b rifid) :
    o'.Mirrored aux b rifid := by
  obtain ⟨bundle, hf, rfl, hok⟩ := hm
  have h := l3HostBundle_bind hf h
  dsimp only at h
  cases he : neighEntryHashFind ip bundle.neighbors with
  | none =>
    rw [he] at h
    cases h
    exact ⟨bundle, hf, rfl, hok⟩
  | some e =>
    simp only [he] at h
    by_cases hmac : e.macAddress = ""
    · rw [if_pos hmac, zero_thenOk] at h
      obtain ⟨-, hhw, hf'⟩ := modifyNeighbors_ok hf h
      exact ⟨_, hf', rfl, hhw ▸ hok.remove_empty he hmac⟩
    · rw [if_neg hmac] at h
      rcases thenOk_ok.mp h with ⟨h₁, h0⟩ | ⟨o₁, h₁, h⟩
      · obtain ⟨hw, hremove, rfl⟩ := onHw_ok.mp h₁
        obtain ⟨-, hn⟩ := (opsSaiNeighborRemove_ok hremove).resolve_right fun h => h0 h.1
        exact ⟨_, hf.setHw, rfl, hok.of_tick hn⟩
      · obtain ⟨hw, hremove, rfl⟩ := onHw_ok.mp h₁
        obtain ⟨-, hout, addr, haddr, rfl⟩ :=
          (opsSaiNeighborRemove_ok hremove).resolve_left fun h => h.1 rfl
        obtain ⟨-, hhw, hf'⟩ := modifyNeighbors_ok hf.setHw h
        have hok' := hok.remove he hmac haddr (hsafe bundle addr hf.2 haddr hout ⟨e, he, hmac⟩)
        refine ⟨_, hf', rfl, ?_⟩
        rw [hhw, setNeighbor_neighbors]
        exact hok'

theorem NeighborCall.run_mirrored {c : NeighborCall} (hsafe : c.Safe b o)
    (h : c.run aux o = .ok (st, o')) (hm : o.Mirrored aux b rifid) : o'.Mirrored aux b rifid := by
  cases c with
  | add ip mac => exact (addL3HostEntry_mirrored hsafe h hm).1
  | delete ip => exact deleteL3HostEntry_mirrored hsafe h hm

/-- **The neighbor cache mirrors the hardware** in a run of safe calls on the bundle of `aux`, and
an add with a MAC that succeeds leaves that MAC programmed. -/
theorem neighbors_mirrored_of_safe {o₀ : OfprotoSai} {bundle₀ : OfbundleSai}
    (hfound : o₀.FoundBy aux b bundle₀) (hempty : bundle₀.neighbors = [])
    (hnone : ∀ addr, o₀.hw.neighbors bundle₀.routerIntf.rifid addr = none)
    (H : Reaches (fun o c => NeighborCall.Safe b o c) (NeighborCall.run aux) o₀ o) :
    ∃ bundle, o.bundles.lookup b = some bundle ∧
      bundle.routerIntf.rifid = bundle₀.routerIntf.rifid ∧
      (bundle.neighbors.map (·.ipAddress)).Nodup ∧
      (∀ e ∈ bundle.neighbors, e.macAddress ≠ "" → ∃ addr eth,
        opsSaiCommonIpToSxIp e.ipAddress = some addr ∧
        OvsLib.ethAddrFromString e.macAddress = some eth ∧
        o.hw.neighbors bundle.routerIntf.rifid addr = some eth) ∧
      (∀ addr eth, o.hw.neighbors bundle.routerIntf.rifid addr = some eth →
        ∃ e ∈ bundle.neighbors, e.macAddress ≠ "" ∧
          opsSaiCommonIpToSxIp e.ipAddress = some addr ∧
          OvsLib.ethAddrFromString e.macAddress = some eth) ∧
      ∀ ip mac o', NeighborCall.Safe b o (.add ip mac) → mac ≠ "" →
        addL3HostEntry aux ip mac o = .ok (0, o') → ∃ addr eth,
          opsSaiCommonIpToSxIp ip = some addr ∧ OvsLib.ethAddrFromString mac = some eth ∧
            o'.hw.neighbors bundle.routerIntf.rifid addr = some eth := by
  have hstart : o₀.Mirrored aux b bundle₀.routerIntf.rifid := by
    refine ⟨bundle₀, hfound, rfl, ?_⟩
    rw [hempty, show o₀.hw.neighbors bundle₀.routerIntf.rifid = fun _ => none from funext hnone]
    refine ⟨List.nodup_nil, fun e he => absurd he List.not_mem_nil, ?_⟩
    simpa using Mirrors.empty
  have hm := H.invariant (fun _ _ hsafe _ _ => NeighborCall.run_mirrored hsafe) hstart
  obtain ⟨bundle, hf, hrif, hok⟩ := hm
  refine ⟨bundle, hf.2, hrif, hok.unique, fun e he hmac => ?_, fun addr eth ht => ?_,
    fun ip mac o' hsafe hmac hadd => ?_⟩
  · obtain ⟨⟨addr, eth⟩, hrow⟩ := Option.isSome_iff_exists.mp (hok.parsed e he hmac)
    obtain ⟨-, haddr, heth⟩ := NeighborEntry.row_eq_some.1 hrow
    exact ⟨addr, eth, haddr, heth, hrif ▸ hok.mirrors.sound e he addr eth hrow⟩
  · obtain ⟨e, he, hrow⟩ := hok.mirrors.complete addr eth (hrif ▸ ht)
    exact ⟨e, he, NeighborEntry.row_eq_some.1 hrow⟩
  · have hm : o.Mirrored aux b bundle.routerIntf.rifid := ⟨bundle, hf, rfl, hrif ▸ hok⟩
    exact (addL3HostEntry_mirrored hsafe hadd hm).2 rfl hmac

end

section
attribute [local instance] sampleOvs sampleBuild

/-- The bundle 1, whose interface 0 has been created. -/
def rifBundle : OfbundleSai :=
  { OfbundleSai.alloc 1 none with ports := [1], routerIntf := ⟨true, true, 1, 0, false⟩ }

def rifOfproto : OfprotoSai :=
  (OfprotoSai.new .vrf 0 samplePorts
    { Hw.reset with routerIntfs := AList.insert 0 ⟨0, .port, 1, true, none⟩ ∅ }).setBundle 1
      rifBundle

/-- The address 10.0.0.1. -/
def sampleIp : SxIpAddr := ⟨.ipv4, [0x0a000001]⟩

theorem rifOfproto_found : rifOfproto.FoundBy 1 1 rifBundle := by
  refine ⟨?_, rfl⟩
  rfl

/-- A neighbor that has been added is in the cache. -/
theorem neighbors_mirrored_of_safe_add :
    ∃ (o : OfprotoSai) (bundle : OfbundleSai),
      addL3HostEntry 1 "10.0.0.1" "00:00:00:00:00:01" rifOfproto = .ok (0, o) ∧
      o.hw.neighbors 0 sampleIp = some 1 ∧ o.bundles.lookup 1 = some bundle ∧
      ∃ e ∈ bundle.neighbors, e.macAddress ≠ "" ∧
        OvsLib.ethAddrFromString e.macAddress = some 1 := by
  obtain ⟨o, hrun⟩ := result_eq_some.mp (show result (do
    let st ← addL3HostEntry 1 "10.0.0.1" "00:00:00:00:00:01"
    let n ← gets fun o => o.hw.neighbors 0 sampleIp
    pure (st, n)) rifOfproto = some (0, some 1) by decide)
  obtain ⟨st, o₁, hadd, hend⟩ := bind_ok.mp hrun
  rw [gets_bind, pure_apply] at hend
  simp only [Except.ok.injEq, Prod.mk.injEq] at hend
  obtain ⟨⟨rfl, hn⟩, -⟩ := hend
  have hsafe : NeighborCall.Safe 1 rifOfproto (.add "10.0.0.1" "00:00:00:00:00:01") := by
    intro bundle addr eth hb _ _ _ _ e he
    obtain rfl : rifBundle = bundle := Option.some.inj (rifOfproto_found.2.symm.trans hb)
    cases he
  have H : Reaches (fun o c => NeighborCall.Safe 1 o c) (NeighborCall.run 1) rifOfproto o₁ :=
    .tail .refl ⟨_, 0, hsafe, hadd⟩
  obtain ⟨bundle, hb, hrif, -, -, hprogrammed, -⟩ :=
    neighbors_mirrored_of_safe rifOfproto_found rfl (fun _ => rfl) H
  rw [hrif] at hprogrammed
  obtain ⟨e, he, hmac, -, heth⟩ := hprogrammed sampleIp 1 hn
  exact ⟨o₁, bundle, hadd, hn, hb, e, he, hmac, heth⟩

/-- A neighbor moves to another MAC and back. The cache keeps the first MAC, so that the last add
returns 0 and leaves the other MAC programmed. -/
theorem addL3HostEntry_stale :
    ∃ o o' : OfprotoSai, Reaches (fun _ _ => True) (NeighborCall.run 1) rifOfproto o ∧
      o.bundlesBy (·.neighbors) 1 = some [⟨"10.0.0.1", "00:00:00:00:00:01"⟩] ∧
      o.hw.neighbors 0 sampleIp = some 2 ∧
      addL3HostEntry 1 "10.0.0.1" "00:00:00:00:00:01" o = .ok (0, o') ∧
      o'.hw.neighbors 0 sampleIp = some 2 := by
  obtain ⟨o, hrun⟩ := result_eq_some.mp (show result (do
    let _ ← NeighborCall.run 1 (.add "10.0.0.1" "00:00:00:00:00:01")
    let _ ← NeighborCall.run 1 (.add "10.0.0.1" "00:00:00:00:00:02")
    let l ← gets fun o => (o.bundlesBy (·.neighbors) 1, o.hw.neighbors 0 sampleIp)
    let st ← addL3HostEntry 1 "10.0.0.1" "00:00:00:00:00:01"
    let n ← gets fun o => o.hw.neighbors 0 sampleIp
    pure (l, st, n)) rifOfproto =
      some ((some [⟨"10.0.0.1", "00:00:00:00:00:01"⟩], some 2), 0, some 2) by decide)
  obtain ⟨st₁, o₁, h₁, hrun⟩ := bind_ok.mp hrun
  obtain ⟨st₂, o₂, h₂, hrun⟩ := bind_ok.mp hrun
  rw [gets_bind] at hrun
  obtain ⟨st₃, o₃, h₃, hend⟩ := bind_ok.mp hrun
  rw [gets_bind, pure_apply] at hend
  simp only [Except.ok.injEq, Prod.mk.injEq] at hend
  obtain ⟨⟨⟨hl, hn⟩, rfl, hn'⟩, -⟩ := hend
  have H : Reaches (fun _ _ => True) (NeighborCall.run 1) rifOfproto o₂ :=
    .tail (.tail .refl ⟨_, st₁, trivial, h₁⟩) ⟨_, st₂, trivial, h₂⟩
  exact ⟨o₂, o₃, H, hl, hn, h₃, hn'⟩

end

end SwitchdSai
