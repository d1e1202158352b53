import Mathlib.Data.BitVec
import Mathlib.Data.Nat.Digits.Defs

/-!
# Strings of words, most significant word first

A string of words spells a number in base `2 ^ w` and a string of bits. Cutting it into groups of
`k` words and replacing each group by the word it spells keeps both, and so keeps the order of
strings of one length and every question about their first `n` bits.
-/

variable {w v k n : Nat} {l l' m a p : List (BitVec w)} {ws ws' : List (BitVec v)}

/-- The number that a string of words spells. -/
def beValue (l : List (BitVec w)) : Nat :=
  Nat.ofDigits (2 ^ w) (l.map BitVec.toNat).reverse

/-- Bit `i` of a string of words, counted from the most significant bit of the first word. -/
def bitAt (l : List (BitVec w)) (i : Nat) : Bool := (l.getD (i / w) 0).getMsbD (i % w)

/-! ## The number a string spells -/

@[simp] theorem beValue_nil : beValue ([] : List (BitVec w)) = 0 := rfl

theorem beValue_append : beValue (l ++ m) = 2 ^ (w * m.length) * beValue l + beValue m := by
  simp [beValue, Nat.ofDigits_append, ← pow_mul, Nat.add_comm]

theorem beValue_cons {x : BitVec w} :
    beValue (x :: l) = 2 ^ (w * l.length) * x.toNat + beValue l := by
  have h := beValue_append (l := [x]) (m := l)
  rwa [List.singleton_append, show beValue [x] = x.toNat by simp [beValue]] at h

theorem beValue_lt : beValue l < 2 ^ (w * l.length) := by
  induction l with
  | nil => simp
  | cons x l ih =>
    calc beValue (x :: l) = 2 ^ (w * l.length) * x.toNat + beValue l := beValue_cons
      _ < 2 ^ (w * l.length) * (x.toNat + 1) := by rw [Nat.mul_add_one]; omega
      _ ≤ 2 ^ (w * l.length) * 2 ^ w := Nat.mul_le_mul_left _ x.isLt
      _ = 2 ^ (w * (x :: l).length) := by rw [← pow_add, List.length_cons, Nat.mul_add_one]

/-- A leading digit decides, and behind equal ones the rest does. -/
private theorem digit_lt_iff {b x y r s : Nat} (hr : r < b) (hs : s < b) :
    b * x + r < b * y + s ↔ x < y ∨ x = y ∧ r < s := by
  rcases Nat.lt_trichotomy x y with h | rfl | h
  · have := Nat.mul_le_mul_left b (Nat.succ_le_of_lt h)
    rw [Nat.mul_succ] at this
    omega
  · omega
  · have := Nat.mul_le_mul_left b (Nat.succ_le_of_lt h)
    rw [Nat.mul_succ] at this
    omega

private theorem digit_inj {b x y r s : Nat} (hr : r < b) (hs : s < b)
    (h : b * x + r = b * y + s) : x = y ∧ r = s := by
  have hx : ¬ x < y := fun hlt => absurd h (Nat.ne_of_lt ((digit_lt_iff hr hs).mpr (.inl hlt)))
  have hy : ¬ y < x := fun hlt => absurd h (Nat.ne_of_gt ((digit_lt_iff hs hr).mpr (.inl hlt)))
  obtain rfl : x = y := by omega
  exact ⟨rfl, Nat.add_left_cancel h⟩

/-- Among strings of one length the lexicographic order is that of the numbers they spell. -/
theorem lt_iff_beValue_lt (h : l.length = l'.length) : l < l' ↔ beValue l < beValue l' := by
  induction l generalizing l' with
  | nil =>
    cases l' with
    | nil => simp
    | cons _ _ => cases h
  | cons x l ih =>
    cases l' with
    | nil => cases h
    | cons y l' =>
      have hlen : l.length = l'.length := Nat.succ.inj h
      rw [List.cons_lt_cons_iff, ih hlen, beValue_cons, beValue_cons, ← hlen,
        digit_lt_iff beValue_lt (hlen ▸ beValue_lt), BitVec.lt_def, BitVec.toNat_inj]

theorem beValue_inj (h : l.length = l'.length) (hv : beValue l = beValue l') : l = l' := by
  induction l generalizing l' with
  | nil =>
    cases l' with
    | nil => rfl
    | cons _ _ => cases h
  | cons x l ih =>
    cases l' with
    | nil => cases h
    | cons y l' =>
      have hlen : l.length = l'.length := Nat.succ.inj h
      rw [beValue_cons, beValue_cons, ← hlen] at hv
      obtain ⟨hx, hrest⟩ := digit_inj beValue_lt (hlen ▸ beValue_lt) hv
      rw [BitVec.toNat_inj.mp hx, ih hlen hrest]

/-! ## The bits of a string -/

theorem bitAt_cons {x : BitVec w} {i : Nat} :
    bitAt (x :: l) i = if i < w then x.getMsbD i else bitAt l (i - w) := by
  split
  next hi => simp [bitAt, Nat.div_eq_of_lt hi, Nat.mod_eq_of_lt hi]
  next hi =>
    rcases Nat.eq_zero_or_pos w with rfl | hw
    · simp [bitAt]
    · obtain ⟨j, rfl⟩ : ∃ j, i = j + w := ⟨i - w, by omega⟩
      simp [bitAt, Nat.add_div_right _ hw]

theorem bitAt_eq_testBit {i : Nat} (h : i < w * l.length) :
    bitAt l i = (beValue l).testBit (w * l.length - 1 - i) := by
  induction l generalizing i with
  | nil => simp at h
  | cons x l ih =>
    rw [List.length_cons, Nat.mul_add_one] at h ⊢
    rw [bitAt_cons, beValue_cons, Nat.testBit_two_pow_mul_add _ beValue_lt]
    split
    next hi =>
      rw [if_neg (by omega), BitVec.getMsbD_eq_getLsbD, decide_eq_true hi, Bool.true_and,
        BitVec.getLsbD, show w * l.length + w - 1 - i - w * l.length = w - 1 - i by omega]
    next hi =>
      rw [if_pos (by omega), ih (by omega),
        show w * l.length + w - 1 - i = w * l.length - 1 - (i - w) by omega]

theorem bitAt_of_ge {i : Nat} (h : w * l.length ≤ i) : bitAt l i = false := by
  induction l generalizing i with
  | nil => simp [bitAt]
  | cons x l ih =>
    rw [List.length_cons, Nat.mul_add_one] at h
    rw [bitAt_cons, if_neg (by omega)]
    exact ih (by omega)

/-- Strings of one length with the same bits are equal. -/
theorem ext_bitAt (h : l.length = l'.length) (hbits : ∀ i, bitAt l i = bitAt l' i) : l = l' := by
  apply beValue_inj h
  apply Nat.eq_of_testBit_eq
  intro j
  rcases Nat.lt_or_ge j (w * l.length) with hj | hj
  · have hi := hbits (w * l.length - 1 - j)
    rwa [bitAt_eq_testBit (by omega), bitAt_eq_testBit (by rw [← h]; omega), ← h,
      show w * l.length - 1 - (w * l.length - 1 - j) = j by omega] at hi
  · have hpow : 2 ^ (w * l.length) ≤ 2 ^ j := Nat.pow_le_pow_right (by omega) hj
    rw [Nat.testBit_lt_two_pow (Nat.lt_of_lt_of_le beValue_lt hpow),
      Nat.testBit_lt_two_pow (Nat.lt_of_lt_of_le (h ▸ beValue_lt) hpow)]

theorem bitAt_zipWith_and (h : l.length = m.length) (i : Nat) :
    bitAt (List.zipWith (· &&& ·) l m) i = (bitAt l i && bitAt m i) := by
  induction l generalizing m i with
  | nil => simp [bitAt]
  | cons x l ih =>
    cases m with
    | nil => cases h
    | cons y m =>
      rw [List.zipWith_cons_cons, bitAt_cons, bitAt_cons, bitAt_cons, ih (Nat.succ.inj h)]
      split
      · exact BitVec.getMsbD_and
      · rfl

/-- Strings agree under a mask if they agree in the bits set there. -/
theorem zipWith_and_eq_iff (ha : a.length = m.length) (hp : p.length = m.length) :
    List.zipWith (· &&& ·) a m = List.zipWith (· &&& ·) p m ↔
      ∀ i, bitAt m i = true → bitAt a i = bitAt p i := by
  constructor
  · intro h i hi
    have hbit := congrArg (bitAt · i) h
    simpa only [bitAt_zipWith_and ha, bitAt_zipWith_and hp, hi, Bool.and_true] using hbit
  · intro h
    apply ext_bitAt (by simp [ha, hp])
    intro i
    rw [bitAt_zipWith_and ha, bitAt_zipWith_and hp]
    cases hi : bitAt m i with
    | false => rw [Bool.and_false, Bool.and_false]
    | true => rw [h i hi]

/-- The mask of a prefix of `n` bits. -/
def IsPrefixMask (n : Nat) (m : List (BitVec w)) : Prop :=
  n ≤ w * m.length ∧ ∀ i < w * m.length, bitAt m i = decide (i < n)

theorem IsPrefixMask.bitAt_iff {i : Nat} (h : IsPrefixMask n m) : bitAt m i = true ↔ i < n := by
  rcases Nat.lt_or_ge i (w * m.length) with hi | hi
  · rw [h.2 i hi, decide_eq_true_iff]
  · have := h.1
    rw [bitAt_of_ge hi]
    simp only [Bool.false_eq_true, false_iff]
    omega

/-! ## Groups of words -/

/-- `Packs k l ws`: the words `ws` are spelled by the successive groups of `k` words of `l`. -/
inductive Packs (k : Nat) : List (BitVec w) → List (BitVec v) → Prop where
  | nil : Packs k [] []
  | cons {g l : List (BitVec w)} {x : BitVec v} {ws : List (BitVec v)} :
      g.length = k → x.toNat = beValue g → Packs k l ws → Packs k (g ++ l) (x :: ws)

namespace Packs

theorem length (h : Packs k l ws) : l.length = k * ws.length := by
  induction h with
  | nil => simp
  | cons hg _ _ ih =>
    rw [List.length_append, hg, ih, List.length_cons, Nat.mul_add_one, Nat.add_comm]

theorem length_bits (hv : v = w * k) (h : Packs k l ws) : v * ws.length = w * l.length := by
  calc v * ws.length = w * k * ws.length := congrArg (· * ws.length) hv
    _ = w * l.length := by rw [h.length, Nat.mul_assoc]

/-- Groups keep the number. -/
theorem beValue_eq (hv : v = w * k) (h : Packs k l ws) : beValue ws = beValue l := by
  induction h with
  | nil => rfl
  | cons hg hx h ih => rw [beValue_cons, beValue_append, ih, hx, h.length_bits hv]

/-- Groups keep the bits. -/
theorem bitAt_eq (hv : v = w * k) (h : Packs k l ws) (i : Nat) : bitAt ws i = bitAt l i := by
  have hbits := h.length_bits hv
  rcases Nat.lt_or_ge i (w * l.length) with hi | hi
  · rw [bitAt_eq_testBit hi, bitAt_eq_testBit (hbits ▸ hi), h.beValue_eq hv, hbits]
  · rw [bitAt_of_ge hi, bitAt_of_ge (hbits ▸ hi)]

theorem length_congr (hk : 0 < k) (hl : l.length = l'.length) (h : Packs k l ws)
    (h' : Packs k l' ws') : ws.length = ws'.length := by
  apply Nat.eq_of_mul_eq_mul_left hk
  rw [← h.length, ← h'.length, hl]

theorem eq_iff (hk : 0 < k) (hv : v = w * k) (h : Packs k l ws) (h' : Packs k l' ws') :
    ws = ws' ↔ l = l' := by
  constructor
  · rintro rfl
    apply beValue_inj (h.length.trans h'.length.symm)
    exact (h.beValue_eq hv).symm.trans (h'.beValue_eq hv)
  · rintro rfl
    apply beValue_inj (length_congr hk rfl h h')
    exact (h.beValue_eq hv).trans (h'.beValue_eq hv).symm

theorem lt_iff (hk : 0 < k) (hv : v = w * k) (hl : l.length = l'.length) (h : Packs k l ws)
    (h' : Packs k l' ws') : ws < ws' ↔ beValue l < beValue l' := by
  rw [lt_iff_beValue_lt (length_congr hk hl h h'), h.beValue_eq hv, h'.beValue_eq hv]

/-- Groups agree under the groups of the mask of a prefix exactly if the prefixes agree. -/
theorem masked_eq_iff {wa wp wm : List (BitVec v)} (hk : 0 < k) (hv : v = w * k)
    (ha : Packs k a wa) (hp : Packs k p wp) (hm : Packs k m wm) (hla : a.length = m.length)
    (hlp : p.length = m.length) (hmask : IsPrefixMask n m) :
    List.zipWith (· &&& ·) wa wm = List.zipWith (· &&& ·) wp wm ↔
      ∀ i < n, bitAt a i = bitAt p i := by
  rw [zipWith_and_eq_iff (length_congr hk hla ha hm) (length_congr hk hlp hp hm)]
  simp only [ha.bitAt_eq hv, hp.bitAt_eq hv, hm.bitAt_eq hv, hmask.bitAt_iff]

end Packs
