import SwitchdSai.Lib.Tlv
import SwitchdSai.Model.Eeprom

/-!
# The base MAC address of a well-formed image

An image is a header, records and any further bytes. The loop is at the start of a record whenever
it compares a code, so a code byte inside a value or behind the declared length is never taken for
the start of a record: `findMacTlv_encodeAll` carries this through the records that are left.
-/

namespace SwitchdSai

namespace Eeprom

variable {σ : Type} {buffer rest value : List UInt8} {len : Int} {idx buf : Nat} {s : σ}

theorem readByte_of_some {byte : UInt8} (h : buffer[buf]? = some byte) :
    readByte buffer buf s = .ok (byte, s) := by
  unfold readByte
  rw [h]
  rfl

/-- Enough bytes to copy. -/
theorem memcpyMac_of_drop (mac : SaiMac) (h : buffer.drop buf = value ++ rest)
    (hlen : 6 ≤ value.length) :
    ∃ mac', memcpyMac buffer buf mac = .ok ((), mac') ∧ mac'.toList = value.take 6 := by
  have htake : (buffer.drop buf).take FRU_BASE_MAC_ADDRESS_LEN = value.take 6 := by
    rw [h]
    exact List.take_append_of_le_length hlen
  have hlength : ((buffer.drop buf).take FRU_BASE_MAC_ADDRESS_LEN).length =
      FRU_BASE_MAC_ADDRESS_LEN := by
    rw [htake, List.length_take]
    exact Nat.min_eq_left hlen
  refine ⟨⟨_, hlength⟩, ?_, htake⟩
  unfold memcpyMac
  rw [dif_pos hlength]
  rfl

theorem findMacTlv_end (h : ¬idx < len) : findMacTlv buffer len idx buf s = .ok (none, s) := by
  unfold findMacTlv
  rw [if_neg h]
  rfl

/-- At a code of the MAC the loop breaks off. -/
theorem findMacTlv_found (hidx : idx < len)
    (hcode : buffer[buf]? = some FRU_BASE_MAC_ADDRESS_TYPE) :
    findMacTlv buffer len idx buf s = .ok (some buf, s) := by
  unfold findMacTlv
  rw [if_pos hidx, Exec.bind_of_ok (readByte_of_some hcode), if_pos rfl]
  rfl

/-- From any other code it goes on by the length behind it. -/
theorem findMacTlv_skip {code length : UInt8} (hidx : idx < len) (hcode : buffer[buf]? = some code)
    (hne : code ≠ FRU_BASE_MAC_ADDRESS_TYPE) (hlength : buffer[buf + 1]? = some length)
    (hmax : idx + (length.toNat + 1 + 1) ≤ INT_MAX) :
    findMacTlv buffer len idx buf s = findMacTlv buffer len
      (idx + (length.toNat + 1 + 1)) (buf + (length.toNat + 1 + 1)) s := by
  conv => lhs; unfold findMacTlv
  rw [if_pos hidx, Exec.bind_of_ok (readByte_of_some hcode), if_neg hne,
    Exec.bind_of_ok (readByte_of_some hlength)]
  simp only [hmax, decide_true]
  rfl

variable {tlvs : List Tlv}

/-- The loop, from the start of a record: it finds the first record with the code of the MAC. -/
theorem findMacTlv_encodeAll (h : buffer.drop buf = Tlv.encodeAll tlvs ++ rest)
    (hlen : len = idx + (Tlv.encodeAll tlvs).length) (hmax : len ≤ INT_MAX) :
    match tlvs.find? (·.code = FRU_BASE_MAC_ADDRESS_TYPE) with
    | some tlv => ∃ buf' rest', findMacTlv buffer len idx buf s = .ok (some buf', s) ∧
        buffer.drop buf' = tlv.encode ++ rest'
    | none => findMacTlv buffer len idx buf s = .ok (none, s) := by
  induction tlvs generalizing idx buf with
  | nil => exact findMacTlv_end (by simpa using hlen.le)
  | cons tlv tlvs ih =>
    rw [Tlv.encodeAll_cons, List.append_assoc] at h
    rw [Tlv.encodeAll_cons, List.length_append, tlv.length_encode] at hlen
    have hidx : idx < len := by omega
    by_cases hcode : tlv.code = FRU_BASE_MAC_ADDRESS_TYPE
    · rw [List.find?_cons_of_pos (by simpa using hcode)]
      exact ⟨buf, _, findMacTlv_found hidx (hcode ▸ Tlv.code_at h), h⟩
    · have hlength := tlv.toNat_ofNat_length
      rw [List.find?_cons_of_neg (by simpa using hcode),
        findMacTlv_skip hidx (Tlv.code_at h) hcode (Tlv.length_at h) (by omega), hlength]
      exact ih (Tlv.next_at h) (by omega)

end Eeprom

open Eeprom

/-- The search for the base MAC in a header, records and any further bytes, with the length of the
records as the declared length: it completes, it succeeds exactly when some record has the code of
the MAC, and then the MAC is the first six bytes of the value of the first such record. -/
theorem eepromMacGet_image (header rest : List UInt8) (tlvs : List Tlv) (mac : SaiMac)
    (hheader : header.length = sizeofFruHeader) (hlen : (Tlv.encodeAll tlvs).length ≤ 65535)
    (hvalue : ∀ tlv, tlvs.find? (·.code = FRU_BASE_MAC_ADDRESS_TYPE) = some tlv →
      6 ≤ tlv.value.length) :
    ∃ status mac', eepromMacGet (header ++ Tlv.encodeAll tlvs ++ rest)
        (Tlv.encodeAll tlvs).length mac = .ok (status, mac') ∧
      (status = .success ↔ ∃ tlv ∈ tlvs, tlv.code = FRU_BASE_MAC_ADDRESS_TYPE) ∧
      (∀ tlv, tlvs.find? (·.code = FRU_BASE_MAC_ADDRESS_TYPE) = some tlv →
        mac'.toList = tlv.value.take 6) ∧
      (status ≠ .success → mac' = mac) := by
  have hdrop : (header ++ Tlv.encodeAll tlvs ++ rest).drop sizeofFruHeader =
      Tlv.encodeAll tlvs ++ rest := by
    rw [List.append_assoc]
    exact List.drop_left' hheader
  have hlength : ((Tlv.encodeAll tlvs).length : Int) =
      (0 : Nat) + (Tlv.encodeAll tlvs).length := by simp
  have hmax : ((Tlv.encodeAll tlvs).length : Int) ≤ INT_MAX := by
    unfold INT_MAX
    omega
  have hloop := findMacTlv_encodeAll (s := mac) hdrop hlength hmax
  cases hfind : tlvs.find? (·.code = FRU_BASE_MAC_ADDRESS_TYPE) with
  | none =>
    rw [hfind] at hloop
    refine ⟨.failure, mac, (Exec.bind_of_ok hloop).trans rfl, ?_, ?_, fun _ => rfl⟩
    · have hnone := List.find?_eq_none.mp hfind
      apply iff_of_false
      · intro h
        cases h
      · rintro ⟨tlv, hmem, hcode⟩
        exact hnone tlv hmem (decide_eq_true hcode)
    · intro tlv h
      cases h
  | some tlv =>
    rw [hfind] at hloop
    obtain ⟨buf, rest', hloop, hat⟩ := hloop
    obtain ⟨mac', hcopy, hmac⟩ := memcpyMac_of_drop mac (Tlv.value_at hat)
      (hvalue tlv hfind)
    refine ⟨.success, mac', ?_, ?_, ?_, fun h => absurd rfl h⟩
    · exact (Exec.bind_of_ok hloop).trans ((Exec.bind_of_ok hcopy).trans rfl)
    · have hcode := List.find?_some hfind
      exact iff_of_true rfl ⟨tlv, List.mem_of_find?_eq_some hfind, of_decide_eq_true hcode⟩
    · intro tlv' h
      cases h
      exact hmac

/-- The code of the MAC inside a value, a record of the MAC and another record of its code. -/
def sampleTlvs : List Tlv :=
  [⟨0x21, [0x24, 6, 9, 9, 9, 9, 9, 9], by decide⟩, ⟨0x24, [1, 2, 3, 4, 5, 6, 7], by decide⟩,
    ⟨0x24, [], by decide⟩]

theorem eepromMacGet_sample :
    ∃ status mac', eepromMacGet (List.replicate 11 0 ++ Tlv.encodeAll sampleTlvs ++ [0x24, 6, 1])
        (Tlv.encodeAll sampleTlvs).length (Vector.replicate 6 0) = .ok (status, mac') ∧
      (status = .success ↔ ∃ tlv ∈ sampleTlvs, tlv.code = FRU_BASE_MAC_ADDRESS_TYPE) ∧
      (∀ tlv, sampleTlvs.find? (·.code = FRU_BASE_MAC_ADDRESS_TYPE) = some tlv →
        mac'.toList = tlv.value.take 6) ∧
      (status ≠ .success → mac' = Vector.replicate 6 0) := by
  refine eepromMacGet_image _ _ _ _ rfl (by decide) ?_
  intro tlv h
  cases h
  decide

end SwitchdSai
