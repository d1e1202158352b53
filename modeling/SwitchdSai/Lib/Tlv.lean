import Mathlib.Data.List.Basic

/-!
# Records of a code, a length and a value

`Tlv.encodeAll` lays records out one after the other: a code byte, a length byte and as many value
bytes as the length says. What a reader finds at the start of a record is stated in terms of the
bytes from its position on, so that it applies at any place of a longer image. Where bytes break off
inside a record, `Tlv.FirstAt` still says where the first record with a given code starts.
-/

/-- A record whose value is short enough for its length byte. -/
structure Tlv where
  code : UInt8
  value : List UInt8
  fits : value.length ≤ 255
  deriving DecidableEq

namespace Tlv

def encode (tlv : Tlv) : List UInt8 := tlv.code :: UInt8.ofNat tlv.value.length :: tlv.value

def encodeAll (tlvs : List Tlv) : List UInt8 := tlvs.flatMap encode

@[simp] theorem length_encode (tlv : Tlv) : tlv.encode.length = tlv.value.length + 1 + 1 := rfl

@[simp] theorem encodeAll_nil : encodeAll [] = [] := rfl

@[simp] theorem encodeAll_cons (tlv : Tlv) (tlvs : List Tlv) :
    encodeAll (tlv :: tlvs) = tlv.encode ++ encodeAll tlvs := rfl

/-- The length byte holds the length. -/
theorem toNat_ofNat_length (tlv : Tlv) :
    (UInt8.ofNat tlv.value.length).toNat = tlv.value.length := by
  have := tlv.fits
  exact UInt8.toNat_ofNat_of_lt (by show _ < 256; omega)

section

variable {bytes rest : List UInt8} {pos : Nat} {tlv : Tlv}

theorem code_at (h : bytes.drop pos = tlv.encode ++ rest) : bytes[pos]? = some tlv.code := by
  rw [← List.head?_drop, h]
  rfl

theorem length_at (h : bytes.drop pos = tlv.encode ++ rest) :
    bytes[pos + 1]? = some (UInt8.ofNat tlv.value.length) := by
  rw [← List.head?_drop, ← List.drop_drop, h]
  rfl

theorem value_at (h : bytes.drop pos = tlv.encode ++ rest) :
    bytes.drop (pos + 2) = tlv.value ++ rest := by
  rw [← List.drop_drop, h]
  rfl

/-- The next record starts behind the value. -/
theorem next_at (h : bytes.drop pos = tlv.encode ++ rest) :
    bytes.drop (pos + (tlv.value.length + 1 + 1)) = rest := by
  rw [← List.drop_drop, h]
  exact List.drop_left' tlv.length_encode

end

/-! ## Bytes that may break off inside a record -/

section

variable {bytes rest rest' : List UInt8} {tlv tlv' : Tlv} {tlvs tlvs' : List Tlv} {code : UInt8}

theorem length_encodeAll_cons (tlv : Tlv) (tlvs : List Tlv) :
    (encodeAll (tlv :: tlvs)).length = tlv.encode.length + (encodeAll tlvs).length :=
  List.length_append

theorem encode_append_inj (h : tlv.encode ++ rest = tlv'.encode ++ rest') :
    tlv = tlv' ∧ rest = rest' := by
  obtain ⟨hcode, h⟩ := List.cons.inj h
  obtain ⟨hlength, h⟩ := List.cons.inj h
  have hlength := congrArg UInt8.toNat hlength
  rw [toNat_ofNat_length, toNat_ofNat_length] at hlength
  obtain ⟨hvalue, hrest⟩ := List.append_inj h hlength
  obtain ⟨code, value, fits⟩ := tlv
  obtain ⟨code', value', fits'⟩ := tlv'
  cases hcode
  cases hvalue
  exact ⟨rfl, hrest⟩

/-- Two ways to take records off the same bytes: the record behind the second ones starts no later
than the first ones end, or ends no later. -/
theorem encodeAll_append_cases
    (h : encodeAll tlvs ++ rest = encodeAll tlvs' ++ (tlv.encode ++ rest')) :
    (encodeAll tlvs').length = (encodeAll tlvs).length ∨
      (encodeAll tlvs').length + tlv.encode.length ≤ (encodeAll tlvs).length ∨
      (encodeAll tlvs).length < (encodeAll tlvs').length := by
  induction tlvs generalizing tlvs' with
  | nil =>
    cases tlvs' with
    | nil => exact .inl rfl
    | cons tlv' tlvs' =>
      refine .inr (.inr ?_)
      rw [length_encodeAll_cons, length_encode]
      exact Nat.lt_of_lt_of_le (Nat.succ_pos _) (Nat.le_add_right ..)
  | cons first tlvs ih =>
    rw [encodeAll_cons, List.append_assoc] at h
    cases tlvs' with
    | nil =>
      obtain ⟨rfl, -⟩ := encode_append_inj h
      refine .inr (.inl ?_)
      rw [length_encodeAll_cons, encodeAll_nil, List.length_nil, Nat.zero_add]
      exact Nat.le_add_right ..
    | cons tlv' tlvs' =>
      rw [encodeAll_cons, List.append_assoc] at h
      obtain ⟨rfl, hrest⟩ := encode_append_inj h
      have := ih hrest
      rw [length_encodeAll_cons, length_encodeAll_cons]
      omega

/-- Behind a code and a length byte there are enough bytes for a value. -/
theorem exists_encode {length : UInt8} (code : UInt8) (h : length.toNat ≤ bytes.length) :
    ∃ tlv : Tlv, tlv.code = code ∧ tlv.value.length = length.toNat ∧
      code :: length :: bytes = tlv.encode ++ bytes.drop length.toNat := by
  have hvalue : (bytes.take length.toNat).length = length.toNat := List.length_take_of_le h
  have hfits := length.toNat_lt
  have hbyte : UInt8.ofNat (bytes.take length.toNat).length = length := by
    rw [hvalue, UInt8.ofNat_toNat]
  refine ⟨⟨code, bytes.take length.toNat, by omega⟩, rfl, hvalue, ?_⟩
  show _ = code :: UInt8.ofNat _ :: bytes.take length.toNat ++ _
  rw [hbyte, List.cons_append, List.cons_append, List.take_append_drop]

/-- The first `m` bytes from `pos` on start with a whole record if its length byte allows. -/
theorem exists_encode_take {pos m : Nat} {length : UInt8} (hcode : bytes[pos]? = some code)
    (hlength : bytes[pos + 1]? = some length) (hm : length.toNat + 1 + 1 ≤ m)
    (hbytes : pos + m ≤ bytes.length) :
    ∃ tlv : Tlv, tlv.code = code ∧ tlv.value.length = length.toNat ∧ (bytes.drop pos).take m =
      tlv.encode ++ (bytes.drop (pos + (length.toNat + 1 + 1))).take
        (m - (length.toNat + 1 + 1)) := by
  obtain ⟨hpos, rfl⟩ := List.getElem?_eq_some_iff.mp hcode
  obtain ⟨hpos', rfl⟩ := List.getElem?_eq_some_iff.mp hlength
  obtain ⟨m, rfl⟩ : ∃ k, m = k + 1 + 1 := ⟨m - 2, by omega⟩
  have hrest : bytes[pos + 1].toNat ≤ ((bytes.drop (pos + 1 + 1)).take m).length := by
    rw [List.length_take, List.length_drop]
    omega
  obtain ⟨tlv, hcode, hvalue, h⟩ := exists_encode bytes[pos] hrest
  refine ⟨tlv, hcode, hvalue, ?_⟩
  rw [List.drop_eq_getElem_cons hpos, List.drop_eq_getElem_cons hpos', List.take_succ_cons,
    List.take_succ_cons, h, List.drop_take, List.drop_drop,
    show m + 1 + 1 - (bytes[pos + 1].toNat + 1 + 1) = m - bytes[pos + 1].toNat by omega,
    show pos + (bytes[pos + 1].toNat + 1 + 1) = pos + 1 + 1 + bytes[pos + 1].toNat by omega]

/-- Otherwise they break off inside it. -/
theorem take_ne_encode {pos m : Nat} {length : UInt8} (hlength : bytes[pos + 1]? = some length)
    (hm : m < length.toNat + 1 + 1) : (bytes.drop pos).take m ≠ tlv.encode ++ rest := by
  intro h
  have hlen := congrArg List.length h
  rw [List.length_append, length_encode, List.length_take] at hlen
  have hdrop : bytes.drop pos = tlv.encode ++ (rest ++ (bytes.drop pos).drop m) := by
    rw [← List.append_assoc, ← h, List.take_append_drop]
  have hbyte := congrArg UInt8.toNat (Option.some.inj (hlength.symm.trans (length_at hdrop)))
  rw [toNat_ofNat_length] at hbyte
  omega

/-- Whole records of other codes take up the first `pos` of the `bytes`, and then comes `code`. -/
def FirstAt (code : UInt8) (bytes : List UInt8) (pos : Nat) : Prop :=
  ∃ tlvs rest, bytes = encodeAll tlvs ++ rest ∧ (∀ tlv ∈ tlvs, tlv.code ≠ code) ∧
    rest.head? = some code ∧ pos = (encodeAll tlvs).length

theorem not_firstAt_nil {pos : Nat} : ¬FirstAt code [] pos := by
  rintro ⟨tlvs, rest, h, -, hhead, -⟩
  obtain ⟨-, rfl⟩ := List.append_eq_nil_iff.mp h.symm
  cases hhead

theorem firstAt_cons_self {pos : Nat} : FirstAt code (code :: bytes) pos ↔ pos = 0 := by
  constructor
  · rintro ⟨tlvs, rest, h, hne, -, rfl⟩
    cases tlvs with
    | nil => rfl
    | cons tlv tlvs =>
      exact absurd (List.cons.inj h).1.symm (hne tlv (List.mem_cons_self ..))
  · rintro rfl
    exact ⟨[], code :: bytes, rfl, fun _ h => absurd h List.not_mem_nil, rfl, rfl⟩

/-- Behind a whole record of another code. -/
theorem firstAt_encode {pos : Nat} (hne : tlv.code ≠ code) :
    FirstAt code (tlv.encode ++ bytes) pos ↔
      ∃ k, FirstAt code bytes k ∧ pos = tlv.encode.length + k := by
  constructor
  · rintro ⟨tlvs, rest, h, hother, hhead, rfl⟩
    cases tlvs with
    | nil =>
      rw [encodeAll_nil, List.nil_append] at h
      rw [← h] at hhead
      exact absurd (Option.some.inj hhead) hne
    | cons first tlvs =>
      rw [encodeAll_cons, List.append_assoc] at h
      obtain ⟨rfl, hrest⟩ := encode_append_inj h
      have hother := fun tlv h => hother tlv (List.mem_cons_of_mem _ h)
      exact ⟨_, ⟨tlvs, rest, hrest, hother, hhead, rfl⟩, length_encodeAll_cons ..⟩
  · rintro ⟨_, ⟨tlvs, rest, rfl, hother, hhead, rfl⟩, rfl⟩
    refine ⟨tlv :: tlvs, rest, ?_, ?_, hhead, (length_encodeAll_cons ..).symm⟩
    · rw [encodeAll_cons, List.append_assoc]
    · intro tlv' h
      rcases List.mem_cons.mp h with rfl | h
      · exact hne
      · exact hother tlv' h

/-- Inside a record of another code. -/
theorem not_firstAt_of_cut {pos : Nat} (hhead : bytes.head? ≠ some code)
    (hcut : ∀ (tlv : Tlv) rest, bytes ≠ tlv.encode ++ rest) : ¬FirstAt code bytes pos := by
  rintro ⟨tlvs, rest, h, -, hcode, -⟩
  cases tlvs with
  | nil =>
    rw [encodeAll_nil, List.nil_append] at h
    exact hhead (h ▸ hcode)
  | cons tlv tlvs =>
    rw [encodeAll_cons, List.append_assoc] at h
    exact hcut tlv _ h

end

end Tlv
