import SwitchdSai.Lib.Logged
import SwitchdSai.Verify.Eeprom

/-!
# The reads of the search for the base MAC address

The search is written down once more with its reads marked, whether they are in range or not. On
every image the loop stays inside the buffer, thanks to the byte behind the declared data, and ends
at the first record of the MAC, whole or not (`findMacTlv_ends`). What is copied from there is
inside exactly if this record is whole and long enough.
-/

namespace SwitchdSai

open Exec Exec.Logged Eeprom

/-- What is read from the buffer. -/
inductive EepromRead where
  | byte (offset : Nat)
  /-- The bytes copied by `memcpy`. -/
  | mac (offset : Nat)
  deriving DecidableEq, Repr

def EepromRead.offsets : EepromRead → List Nat
  | .byte offset => [offset]
  | .mac offset => List.range' offset FRU_BASE_MAC_ADDRESS_LEN

namespace Eeprom

variable {σ : Type}

/-- `findMacTlv` with its reads. -/
def findMacTlvReads (buffer : List UInt8) (len : Int) (idx buf : Nat) :
    Logged EepromRead σ (Option Nat) :=
  if idx < len then do
    let code ← mark (.byte buf) (readByte buffer buf)
    if code = FRU_BASE_MAC_ADDRESS_TYPE then
      pure (some buf)
    else do
      let length ← mark (.byte (buf + 1)) (readByte buffer (buf + 1))
      let skip := length.toNat + 1 + 1
      let _ ← quiet (.defined "signed overflow" (decide (idx + skip ≤ INT_MAX)))
      findMacTlvReads buffer len (idx + skip) (buf + skip)
  else
    pure none
termination_by (len - idx).toNat

end Eeprom

/-- `__eeprom_mac_get` with its reads. -/
def eepromMacGetReads (buffer : List UInt8) (len : Int) : Logged EepromRead SaiMac SaiStatus := do
  match ← findMacTlvReads buffer len 0 sizeofFruHeader with
  | some tlv => do
    let _ ← mark (.mac (tlv + 2)) (memcpyMac buffer (tlv + 2))
    pure .success
  | none => pure .failure

namespace Eeprom

variable {σ : Type} {buffer : List UInt8} {len : Int} {idx buf : Nat} {s : σ}

theorem findMacTlvReads_prog (buffer : List UInt8) (len : Int) (idx buf : Nat) :
    (findMacTlvReads buffer len idx buf : Logged EepromRead σ _).prog =
      findMacTlv buffer len idx buf := by
  induction idx, buf using findMacTlv.induct len with
  | case1 idx buf h ih =>
    unfold findMacTlvReads findMacTlv
    rw [if_pos h, if_pos h, prog_bind]
    refine bind_congr fun code => ?_
    rw [prog_ite]
    by_cases hcode : code = FRU_BASE_MAC_ADDRESS_TYPE
    · rw [if_pos hcode, if_pos hcode]
      rfl
    · rw [if_neg hcode, if_neg hcode]
      exact bind_congr fun length => bind_congr fun _ => ih length
  | case2 idx buf h =>
    unfold findMacTlvReads findMacTlv
    rw [if_neg h, if_neg h]
    rfl

theorem findMacTlvReads_end (h : ¬idx < len) : (findMacTlvReads buffer len idx buf).log s = [] := by
  unfold findMacTlvReads
  rw [if_neg h]
  rfl

theorem findMacTlvReads_found (hidx : idx < len)
    (hcode : buffer[buf]? = some FRU_BASE_MAC_ADDRESS_TYPE) :
    (findMacTlvReads buffer len idx buf).log s = [.byte buf] := by
  unfold findMacTlvReads
  rw [if_pos hidx, log_bind (readByte_of_some hcode), if_pos rfl]
  rfl

theorem findMacTlvReads_skip {code length : UInt8} (hidx : idx < len)
    (hcode : buffer[buf]? = some code) (hne : code ≠ FRU_BASE_MAC_ADDRESS_TYPE)
    (hlength : buffer[buf + 1]? = some length) (hmax : idx + (length.toNat + 1 + 1) ≤ INT_MAX) :
    (findMacTlvReads buffer len idx buf).log s = .byte buf :: .byte (buf + 1) ::
      (findMacTlvReads buffer len (idx + (length.toNat + 1 + 1))
        (buf + (length.toNat + 1 + 1))).log s := by
  conv => lhs; unfold findMacTlvReads
  have hdefined : (quiet (.defined "signed overflow" (decide (idx + (length.toNat + 1 + 1) ≤
      INT_MAX))) : Logged EepromRead σ Unit).prog s = .ok ((), s) :=
    require_ok.mpr ⟨decide_eq_true hmax, rfl⟩
  rw [if_pos hidx, log_bind (readByte_of_some hcode), if_neg hne,
    log_bind (readByte_of_some hlength)]
  exact congrArg _ (congrArg _ (log_bind hdefined))

/-- The loop stays in range, and ends at the first record of the MAC in the declared data that are
left, whole or not. -/
theorem findMacTlv_ends {n : Nat} (hsize : buffer.length = n + sizeofFruHeader + 1)
    (hn : n ≤ 65535) (hbuf : buf = idx + sizeofFruHeader) (s : σ) :
    ∃ r, findMacTlv buffer n idx buf s = .ok (r, s) ∧
      (∀ read ∈ (findMacTlvReads buffer n idx buf).log s,
        ∃ offset < buffer.length, read = .byte offset) ∧
      ∀ tlv, r = some tlv ↔ ∃ pos, Tlv.FirstAt FRU_BASE_MAC_ADDRESS_TYPE
        ((buffer.drop buf).take (n - idx)) pos ∧ tlv = buf + pos := by
  induction hm : n - idx using Nat.strong_induction_on generalizing idx buf with
  | h m ih =>
  subst hm
  by_cases hidx : (idx : Int) < n
  · have hin : buf < buffer.length := by omega
    have hin' : buf + 1 < buffer.length := by omega
    have hcode := List.getElem?_eq_getElem hin
    have hlength := List.getElem?_eq_getElem hin'
    have hdata : (buffer.drop buf).take (n - idx) =
        buffer[buf] :: (buffer.drop (buf + 1)).take (n - idx - 1) := by
      obtain ⟨m, hm⟩ : ∃ m, n - idx = m + 1 := ⟨n - idx - 1, by omega⟩
      rw [List.drop_eq_getElem_cons hin, hm, List.take_succ_cons, Nat.add_sub_cancel]
    by_cases hmac : buffer[buf] = FRU_BASE_MAC_ADDRESS_TYPE
    · rw [hmac] at hcode hdata
      refine ⟨some buf, findMacTlv_found hidx hcode, ?_, fun tlv => ?_⟩
      · rw [findMacTlvReads_found hidx hcode]
        exact fun read hread => ⟨buf, hin, List.mem_singleton.mp hread⟩
      · simp only [hdata, Tlv.firstAt_cons_self, exists_eq_left, Nat.add_zero, Option.some.injEq]
        exact eq_comm
    · have hmax : idx + (buffer[buf + 1].toNat + 1 + 1) ≤ INT_MAX := by
        have := buffer[buf + 1].toNat_lt
        unfold INT_MAX
        omega
      rw [findMacTlv_skip hidx hcode hmac hlength hmax,
        findMacTlvReads_skip hidx hcode hmac hlength hmax]
      have hbuf : buf + (buffer[buf + 1].toNat + 1 + 1) =
          idx + (buffer[buf + 1].toNat + 1 + 1) + sizeofFruHeader := by omega
      obtain ⟨r, hr, hreads, hfirst⟩ := ih _ (by omega) hbuf rfl
      refine ⟨r, hr, ?_, fun tlv => (hfirst tlv).trans ?_⟩
      · intro read hread
        rcases List.mem_cons.mp hread with rfl | hread
        · exact ⟨buf, hin, rfl⟩
        rcases List.mem_cons.mp hread with rfl | hread
        · exact ⟨buf + 1, hin', rfl⟩
        · exact hreads read hread
      · by_cases hfits : buffer[buf + 1].toNat + 1 + 1 ≤ n - idx
        · obtain ⟨tlv', hcode', hvalue, htake⟩ :=
            Tlv.exists_encode_take hcode hlength hfits (by omega)
          rw [htake, Nat.sub_add_eq]
          simp only [Tlv.firstAt_encode (hcode' ▸ hmac), Tlv.length_encode, hvalue]
          constructor
          · rintro ⟨pos, hpos, rfl⟩
            exact ⟨_, ⟨pos, hpos, rfl⟩, Nat.add_assoc ..⟩
          · rintro ⟨_, ⟨pos, hpos, rfl⟩, rfl⟩
            exact ⟨pos, hpos, (Nat.add_assoc ..).symm⟩
        · -- The record breaks off: nothing of the declared data is left behind it.
          have hnone : n - (idx + (buffer[buf + 1].toNat + 1 + 1)) = 0 := by omega
          rw [hnone, List.take_zero]
          have hhead : ((buffer.drop buf).take (n - idx)).head? ≠
              some FRU_BASE_MAC_ADDRESS_TYPE := by
            rw [hdata]
            exact fun h => hmac (Option.some.inj h)
          have hcut : ∀ (tlv : Tlv) rest, (buffer.drop buf).take (n - idx) ≠ tlv.encode ++ rest :=
            fun _ _ => Tlv.take_ne_encode hlength (Nat.lt_of_not_le hfits)
          apply iff_of_false
          · rintro ⟨pos, hpos, -⟩
            exact Tlv.not_firstAt_nil hpos
          · rintro ⟨pos, hpos, -⟩
            exact Tlv.not_firstAt_of_cut hhead hcut hpos
  · refine ⟨none, findMacTlv_end hidx, ?_, fun tlv => ?_⟩
    · rw [findMacTlvReads_end hidx]
      exact fun _ h => absurd h List.not_mem_nil
    · rw [show n - idx = 0 by omega, List.take_zero]
      apply iff_of_false
      · intro h
        cases h
      · rintro ⟨pos, hpos, -⟩
        exact Tlv.not_firstAt_nil hpos

end Eeprom

theorem eepromMacGetReads_prog (buffer : List UInt8) (len : Int) :
    (eepromMacGetReads buffer len).prog = eepromMacGet buffer len := by
  unfold eepromMacGetReads eepromMacGet
  rw [prog_bind, findMacTlvReads_prog]
  refine bind_congr fun r => ?_
  cases r <;> rfl

/-! ## Inside the buffer and the declared data -/

/-- The search stays inside the buffer, and when it succeeds what it has copied is inside the value
of a record of the `n` bytes behind the header that has at least six bytes. -/
structure EepromSafe (buffer : List UInt8) (n : Nat) (mac : SaiMac) : Prop where
  inRange : ∀ read ∈ (eepromMacGetReads buffer n).log mac, ∀ offset ∈ read.offsets,
    offset < buffer.length
  inValue : ∀ mac', eepromMacGet buffer n mac = .ok (.success, mac') →
    ∃ start, .mac start ∈ (eepromMacGetReads buffer n).log mac ∧
      mac'.toList = (buffer.drop start).take 6 ∧
      ∃ (tlvs : List Tlv) (tlv : Tlv) (rest : List UInt8),
        (buffer.drop sizeofFruHeader).take n = Tlv.encodeAll tlvs ++ (tlv.encode ++ rest) ∧
        6 ≤ tlv.value.length ∧ ∀ offset ∈ (EepromRead.mac start).offsets,
          sizeofFruHeader + (Tlv.encodeAll tlvs).length + 2 ≤ offset ∧
          offset < sizeofFruHeader + (Tlv.encodeAll tlvs).length + 2 + tlv.value.length

/-- What comes behind whole records of other codes with the code of the MAC is a whole record, of
at least six bytes. -/
def MacTlvWhole (data : List UInt8) : Prop :=
  ∀ pos, Tlv.FirstAt FRU_BASE_MAC_ADDRESS_TYPE data pos →
    ∃ tlv rest, data.drop pos = Tlv.encode tlv ++ rest ∧ 6 ≤ tlv.value.length

section

variable {buffer : List UInt8} {n tlv : Nat} {mac mac' : SaiMac}

theorem mem_offsets_mac {start offset : Nat} :
    offset ∈ (EepromRead.mac start).offsets ↔ start ≤ offset ∧ offset < start + 6 :=
  List.mem_range'_1

theorem memcpyMac_iff {offset : Nat} : memcpyMac buffer offset mac = .ok ((), mac') ↔
    offset + 6 ≤ buffer.length ∧ mac'.toList = (buffer.drop offset).take 6 := by
  have hlen : ((buffer.drop offset).take FRU_BASE_MAC_ADDRESS_LEN).length =
      FRU_BASE_MAC_ADDRESS_LEN ↔ offset + 6 ≤ buffer.length := by
    rw [List.length_take, List.length_drop]
    unfold FRU_BASE_MAC_ADDRESS_LEN
    omega
  unfold memcpyMac
  rw [← hlen]
  split
  next h =>
    refine Iff.trans ?_ (and_iff_right h).symm
    simp only [modify_apply, Except.ok.injEq, Prod.mk.injEq, true_and]
    constructor
    · rintro rfl
      rfl
    · intro hmac
      exact Vector.toList_inj.mp hmac.symm
  next h => exact iff_of_false (fun h => by cases h) fun hmac => h hmac.1

/-- No record of the MAC is in the declared data. -/
theorem eepromMacGet_none (h : findMacTlv buffer n 0 sizeofFruHeader mac = .ok (none, mac)) :
    eepromMacGet buffer n mac = .ok (.failure, mac) ∧ (eepromMacGetReads buffer n).log mac =
      (findMacTlvReads buffer n 0 sizeofFruHeader).log mac := by
  constructor
  · exact (bind_of_ok h).trans rfl
  · rw [← findMacTlvReads_prog] at h
    exact (log_bind h).trans (List.append_nil _)

/-- The loop ends at `tlv`. -/
theorem eepromMacGet_some (h : findMacTlv buffer n 0 sizeofFruHeader mac = .ok (some tlv, mac)) :
    eepromMacGet buffer n mac = .ok (.success, mac') ↔
      memcpyMac buffer (tlv + 2) mac = .ok ((), mac') := by
  unfold eepromMacGet
  rw [bind_of_ok h]
  show (memcpyMac buffer (tlv + 2) >>= fun _ => pure SaiStatus.success) mac = _ ↔ _
  rw [bind_ok]
  constructor
  · rintro ⟨_, _, hcopy, h⟩
    cases h
    exact hcopy
  · exact fun hcopy => ⟨(), mac', hcopy, rfl⟩

theorem eepromMacGetReads_some
    (h : findMacTlv buffer n 0 sizeofFruHeader mac = .ok (some tlv, mac)) :
    (eepromMacGetReads buffer n).log mac =
      (findMacTlvReads buffer n 0 sizeofFruHeader).log mac ++ [.mac (tlv + 2)] := by
  rw [← findMacTlvReads_prog] at h
  refine (log_bind h).trans (congrArg _ ?_)
  show [EepromRead.mac (tlv + 2)] ++ after _ (fun _ _ => []) mac = _
  unfold after
  split <;> rfl

/-- Where the loop ends is the only place that is copied from. -/
theorem mac_mem_reads (start : Nat)
    (h : findMacTlv buffer n 0 sizeofFruHeader mac = .ok (some tlv, mac))
    (hreads : ∀ read ∈ (findMacTlvReads buffer n 0 sizeofFruHeader).log mac,
      ∃ offset < buffer.length, read = .byte offset) :
    .mac start ∈ (eepromMacGetReads buffer n).log mac ↔ start = tlv + 2 := by
  rw [eepromMacGetReads_some h, List.mem_append, List.mem_singleton,
    EepromRead.mac.injEq]
  refine or_iff_right fun hread => ?_
  obtain ⟨_, -, h⟩ := hreads _ hread
  cases h

/-- The search stays inside the buffer and the declared data exactly if the first record of the MAC,
if there is one, is whole and has at least six bytes. -/
theorem eepromMacGet_safe (buffer : List UInt8) (n : Nat) (mac : SaiMac) (hn : n < 2 ^ 16)
    (hsize : buffer.length = n + sizeofFruHeader + 1) :
    EepromSafe buffer n mac ↔ MacTlvWhole ((buffer.drop sizeofFruHeader).take n) := by
  obtain ⟨r, hr, hreads, hfirst⟩ :=
    findMacTlv_ends hsize (Nat.le_of_lt_succ hn) (Nat.zero_add _).symm mac
  rw [Nat.sub_zero] at hfirst
  have hbytes : ∀ read ∈ (findMacTlvReads buffer n 0 sizeofFruHeader).log mac,
      ∀ offset ∈ read.offsets, offset < buffer.length := by
    intro read hread offset hoffset
    obtain ⟨_, hlt, rfl⟩ := hreads read hread
    exact List.mem_singleton.mp hoffset ▸ hlt
  cases r with
  | none =>
    obtain ⟨hrun, hlog⟩ := eepromMacGet_none hr
    apply iff_of_true
    · refine ⟨hlog ▸ hbytes, fun mac' h => ?_⟩
      rw [hrun] at h
      cases h
    · intro pos hpos
      cases (hfirst _).mpr ⟨pos, hpos, rfl⟩
  | some tlv =>
    obtain ⟨pos, hpos, rfl⟩ := (hfirst tlv).mp rfl
    have hmem := fun start => mac_mem_reads start hr hreads
    have honly : ∀ pos', Tlv.FirstAt FRU_BASE_MAC_ADDRESS_TYPE
        ((buffer.drop sizeofFruHeader).take n) pos' → pos' = pos := by
      intro pos' hpos'
      have heq := Option.some.inj ((hfirst _).mpr ⟨pos', hpos', rfl⟩)
      omega
    constructor
    · intro hsafe pos' hpos'
      obtain rfl := honly pos' hpos'
      have hlast := hsafe.inRange _ ((hmem _).mpr rfl) (sizeofFruHeader + pos' + 2 + 5)
        (mem_offsets_mac.2 ⟨Nat.le_add_right .., Nat.lt_succ_self _⟩)
      have hlong : 6 ≤ (buffer.drop (sizeofFruHeader + pos' + 2)).length := by
        rw [List.length_drop]
        omega
      obtain ⟨mac', hcopy, -⟩ := memcpyMac_of_drop mac (List.append_nil _).symm hlong
      obtain ⟨start, hstart, -, tlvs', tlv, rest', hdata', hvalue, hin⟩ :=
        hsafe.inValue mac' ((eepromMacGet_some hr).mpr hcopy)
      obtain rfl := (hmem start).mp hstart
      have hfirst := hin _ (mem_offsets_mac.2 ⟨Nat.le_refl _, by omega⟩)
      have hlast := hin _ (mem_offsets_mac.2 ⟨Nat.le_add_right _ 5, Nat.lt_succ_self _⟩)
      obtain ⟨tlvs, rest, hdata, -, -, rfl⟩ := hpos'
      have hcases := Tlv.encodeAll_append_cases (hdata.symm.trans hdata')
      rw [Tlv.length_encode] at hcases
      refine ⟨tlv, rest', ?_, hvalue⟩
      rw [hdata']
      exact List.drop_left' (by omega)
    · intro hwhole
      obtain ⟨tlv, rest, hdrop, hvalue⟩ := hwhole pos hpos
      obtain ⟨tlvs, rest', hdata, -, -, rfl⟩ := hpos
      rw [hdata, List.drop_left' rfl] at hdrop
      rw [hdrop] at hdata
      have hlen := congrArg List.length hdata
      rw [List.length_take, List.length_drop, List.length_append, List.length_append,
        Tlv.length_encode] at hlen
      refine ⟨fun read hread offset hoffset => ?_, fun mac' hrun => ?_⟩
      · rw [eepromMacGetReads_some hr] at hread
        rcases List.mem_append.mp hread with hread | hread
        · exact hbytes read hread offset hoffset
        · rw [List.mem_singleton.mp hread, mem_offsets_mac] at hoffset
          omega
      · have hcopy := memcpyMac_iff.1 ((eepromMacGet_some hr).mp hrun)
        refine ⟨_, (hmem _).mpr rfl, hcopy.2, tlvs, tlv, rest, hdata, hvalue, ?_⟩
        intro offset hoffset
        have hoffset := mem_offsets_mac.1 hoffset
        omega

end

/-- A record of another code, one of the MAC with a byte to spare, and one that breaks off. -/
theorem eepromMacGet_safe_whole :
    EepromSafe
      (List.replicate 11 0 ++ [0x21, 1, 0x24, 0x24, 7, 1, 2, 3, 4, 5, 6, 7, 0x24] ++ [0]) 13
      (Vector.replicate 6 0) := by
  refine (eepromMacGet_safe _ 13 _ (by decide) rfl).mpr fun pos hpos => ?_
  have hpos : Tlv.FirstAt FRU_BASE_MAC_ADDRESS_TYPE
    (Tlv.encode ⟨0x21, [0x24], by decide⟩ ++ FRU_BASE_MAC_ADDRESS_TYPE :: _) pos := hpos
  obtain ⟨k, hk, rfl⟩ := (Tlv.firstAt_encode (by decide)).mp hpos
  obtain rfl := Tlv.firstAt_cons_self.mp hk
  exact ⟨⟨0x24, [1, 2, 3, 4, 5, 6, 7], by decide⟩, [0x24], rfl, by decide⟩

/-- The declared data break off behind the length byte of the record of the MAC. -/
theorem eepromMacGet_cut :
    ¬EepromSafe (List.replicate 11 0 ++ [0x24, 6] ++ [0]) 2 (Vector.replicate 6 0) := by
  intro hsafe
  have hfound : findMacTlv (List.replicate 11 0 ++ [0x24, 6] ++ [0]) (2 : Nat) 0 sizeofFruHeader
      (Vector.replicate 6 0 : SaiMac) = .ok (some sizeofFruHeader, Vector.replicate 6 0) :=
    findMacTlv_found (by decide) rfl
  have hread : EepromRead.mac 13 ∈ (eepromMacGetReads (List.replicate 11 0 ++ [0x24, 6] ++ [0])
      (2 : Nat)).log (Vector.replicate 6 0) := by
    rw [eepromMacGetReads_some hfound]
    exact List.mem_append_right _ (List.mem_singleton_self _)
  exact absurd (hsafe.inRange _ hread 14 (by decide)) (by decide)

end SwitchdSai
