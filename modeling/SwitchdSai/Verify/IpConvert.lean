import SwitchdSai.Lib.BigEndian
import SwitchdSai.Verify.Ofproto

/-!
# Conversion of addresses and prefixes

The SDK takes an address as words in host order, of which the first is the most significant one.
The libraries leave it in memory in network byte order, where a little-endian host reads each word
with its bytes reversed. `ntohl` on every word then gives the words that successive groups of four
bytes spell, whichever function and family it is written for.
-/

namespace SwitchdSai

open OvsLib

/-- Bytes of an address. -/
def SxIpVersion.size : SxIpVersion → Nat
  | .ipv4 => 4
  | .ipv6 => 16

theorem SxIpVersion.dvd_size : ∀ v : SxIpVersion, 4 ∣ v.size
  | .ipv4 => ⟨1, rfl⟩
  | .ipv6 => ⟨4, rfl⟩

/-- The words that a little-endian host reads from successive bytes. -/
def hostWords : List (BitVec 8) → List (BitVec 32)
  | b₀ :: b₁ :: b₂ :: b₃ :: l => (b₃ ++ b₂ ++ b₁ ++ b₀) :: hostWords l
  | _ => []

/-- `ntohl` undoes the reversal. -/
theorem ntohl_hostWord (b₀ b₁ b₂ b₃ : BitVec 8) :
    ntohl (b₃ ++ b₂ ++ b₁ ++ b₀) = b₀ ++ b₁ ++ b₂ ++ b₃ := by
  have h₀ : (b₃ ++ b₂ ++ b₁ ++ b₀).extractLsb' 0 8 = b₀ := BitVec.extractLsb'_append_eq_right
  have h₁ : (b₃ ++ b₂ ++ b₁ ++ b₀).extractLsb' 8 8 = b₁ := by
    rw [BitVec.extractLsb'_append_eq_of_le (by decide)]
    exact BitVec.extractLsb'_append_eq_right
  have h₂ : (b₃ ++ b₂ ++ b₁ ++ b₀).extractLsb' 16 8 = b₂ := by
    rw [BitVec.extractLsb'_append_eq_of_le (by decide),
      BitVec.extractLsb'_append_eq_of_le (by decide)]
    exact BitVec.extractLsb'_append_eq_right
  have h₃ : (b₃ ++ b₂ ++ b₁ ++ b₀).extractLsb' 24 8 = b₃ := by
    rw [BitVec.extractLsb'_append_eq_of_le (by decide),
      BitVec.extractLsb'_append_eq_of_le (by decide)]
    exact BitVec.extractLsb'_append_eq_left
  rw [ntohl, h₀, h₁, h₂, h₃]

theorem toNat_append_bytes {n m : Nat} (x : BitVec n) (y : BitVec m) :
    (x ++ y).toNat = 2 ^ m * x.toNat + y.toNat := by
  rw [BitVec.toNat_append, ← Nat.shiftLeft_add_eq_or_of_lt y.isLt, Nat.shiftLeft_eq, Nat.mul_comm]

theorem toNat_ntohl_hostWord (b₀ b₁ b₂ b₃ : BitVec 8) :
    (ntohl (b₃ ++ b₂ ++ b₁ ++ b₀)).toNat = beValue [b₀, b₁, b₂, b₃] := by
  rw [ntohl_hostWord]
  simp only [beValue_cons, beValue_nil, toNat_append_bytes, List.length_cons, List.length_nil]
  omega

theorem packs_ntohl_hostWords {l : List (BitVec 8)} (h : 4 ∣ l.length) :
    Packs 4 l ((hostWords l).map ntohl) := by
  induction l using hostWords.induct with
  | case1 b₀ b₁ b₂ b₃ l ih =>
    rw [hostWords, List.map_cons]
    apply Packs.cons (g := [b₀, b₁, b₂, b₃]) rfl (toNat_ntohl_hostWord b₀ b₁ b₂ b₃)
    exact ih ((Nat.dvd_add_left (Nat.dvd_refl 4)).mp h)
  | case2 l hl =>
    rcases l with _ | ⟨b₀, _ | ⟨b₁, _ | ⟨b₂, _ | ⟨b₃, l⟩⟩⟩⟩
    · exact Packs.nil
    · simp at h
    · simp at h
    · simp at h
    · exact absurd rfl (hl b₀ b₁ b₂ b₃ l)

section

variable [OvsLib]

/-- What `inet_pton` leaves in memory for an address of the family, as the host reads it. -/
def readAddr (ip : String) : SxIpVersion → Option (List (BitVec 32))
  | .ipv4 => (inetPton4 ip).map fun addr => [addr]
  | .ipv6 => (inetPton6 ip).map In6Addr.words

/-- What the parser of masked addresses of the family leaves in memory for address and mask. -/
def readMasked (pfx : String) : SxIpVersion → Option (List (BitVec 32) × List (BitVec 32))
  | .ipv4 => (ipParseMasked pfx).map fun (addr, mask) => ([addr], [mask])
  | .ipv6 => (ipv6ParseMasked pfx).map fun (addr, mask) => (addr.words, mask.words)

/-- The text is an address of family `v`, and `inet_pton` delivers its bytes `a` in network
order. -/
structure DeliversAddr (ip : String) (v : SxIpVersion) (a : List (BitVec 8)) : Prop where
  family : addrIsIpv6 ip = decide (v = .ipv6)
  length : a.length = v.size
  read : readAddr ip v = some (hostWords a)

/-- The text is a prefix of family `v`, and its parser delivers the bytes `p` of the address and
the bytes `m` of a mask with the first `n` bits set, in network order. -/
structure DeliversPrefix (pfx : String) (v : SxIpVersion) (p m : List (BitVec 8)) (n : Nat) :
    Prop where
  family : addrIsIpv6 pfx = decide (v = .ipv6)
  length : p.length = v.size
  maskLength : m.length = v.size
  mask : IsPrefixMask n m
  read : readMasked pfx v = some (hostWords p, hostWords m)

namespace DeliversAddr

variable {ip : String} {v : SxIpVersion} {a : List (BitVec 8)}

theorem packs (h : DeliversAddr ip v a) : Packs 4 a ((hostWords a).map ntohl) :=
  packs_ntohl_hostWords (h.length ▸ v.dvd_size)

/-- The conversion, whatever the family. -/
theorem convert (h : DeliversAddr ip v a) :
    opsSaiCommonIpToSxIp ip = some ⟨v, (hostWords a).map ntohl⟩ := by
  have hread := h.read
  unfold opsSaiCommonIpToSxIp
  cases v with
  | ipv4 =>
    rw [if_neg (by simp [h.family])]
    obtain ⟨w, hw, hwords⟩ := Option.map_eq_some_iff.mp hread
    rw [hw, ← hwords]
    rfl
  | ipv6 =>
    rw [if_pos (by simp [h.family])]
    obtain ⟨w, hw, hwords⟩ := Option.map_eq_some_iff.mp hread
    rw [hw, ← hwords]
    rfl

end DeliversAddr

namespace DeliversPrefix

variable {pfx : String} {v : SxIpVersion} {p m : List (BitVec 8)} {n : Nat}

theorem convert (h : DeliversPrefix pfx v p m n) :
    opsSaiCommonIpPrefixToSxIpPrefix pfx =
      some ⟨v, (hostWords p).map ntohl, (hostWords m).map ntohl⟩ := by
  have hread := h.read
  unfold opsSaiCommonIpPrefixToSxIpPrefix
  cases v with
  | ipv4 =>
    rw [if_neg (by simp [h.family])]
    obtain ⟨w, hw, hwords⟩ := Option.map_eq_some_iff.mp hread
    obtain ⟨haddr, hmask⟩ := Prod.mk.inj hwords
    rw [hw, ← haddr, ← hmask]
    rfl
  | ipv6 =>
    rw [if_pos (by simp [h.family])]
    obtain ⟨w, hw, hwords⟩ := Option.map_eq_some_iff.mp hread
    obtain ⟨haddr, hmask⟩ := Prod.mk.inj hwords
    rw [hw, ← haddr, ← hmask]
    rfl

theorem packs (h : DeliversPrefix pfx v p m n) : Packs 4 p ((hostWords p).map ntohl) :=
  packs_ntohl_hostWords (h.length ▸ v.dvd_size)

theorem packs_mask (h : DeliversPrefix pfx v p m n) : Packs 4 m ((hostWords m).map ntohl) :=
  packs_ntohl_hostWords (h.maskLength ▸ v.dvd_size)

/-- A converted address agrees with the converted prefix under the mask exactly if its first bits
are those of the prefix. -/
theorem agree_iff {ip : String} {a : List (BitVec 8)} (h : DeliversPrefix pfx v p m n)
    (ha : DeliversAddr ip v a) :
    List.zipWith (· &&& ·) ((hostWords a).map ntohl) ((hostWords m).map ntohl) =
        List.zipWith (· &&& ·) ((hostWords p).map ntohl) ((hostWords m).map ntohl) ↔
      ∀ i < n, bitAt a i = bitAt p i := by
  apply Packs.masked_eq_iff (by decide) rfl ha.packs h.packs h.packs_mask ?_ ?_ h.mask
  · rw [ha.length, h.maskLength]
  · rw [h.length, h.maskLength]

end DeliversPrefix

/-- The words of a converted address are those that groups of four of its bytes spell, so that they
tell addresses apart and order them as numbers. A prefix is converted to the words of its address,
and an address agrees with it under the mask exactly if the first bits do. -/
theorem ipConversion_exact :
    (∀ ip v a, DeliversAddr ip v a →
      ∃ wa, opsSaiCommonIpToSxIp ip = some ⟨v, wa⟩ ∧ Packs 4 a wa) ∧
    (∀ ip ip' v v' a a' wa wa', DeliversAddr ip v a → DeliversAddr ip' v' a' →
      opsSaiCommonIpToSxIp ip = some ⟨v, wa⟩ → opsSaiCommonIpToSxIp ip' = some ⟨v', wa'⟩ →
        (wa = wa' ↔ a = a') ∧ (v = v' → (wa < wa' ↔ beValue a < beValue a'))) ∧
    ∀ pfx v p m n, DeliversPrefix pfx v p m n →
      ∃ wp wm, opsSaiCommonIpPrefixToSxIpPrefix pfx = some ⟨v, wp, wm⟩ ∧ Packs 4 p wp ∧
        (∀ ip, DeliversAddr ip v p → opsSaiCommonIpToSxIp ip = some ⟨v, wp⟩) ∧
        ∀ ip a wa, DeliversAddr ip v a → opsSaiCommonIpToSxIp ip = some ⟨v, wa⟩ →
          (List.zipWith (· &&& ·) wa wm = List.zipWith (· &&& ·) wp wm ↔
            ∀ i < n, bitAt a i = bitAt p i) := by
  refine ⟨?_, ?_, ?_⟩
  · intro ip v a ha
    exact ⟨_, ha.convert, ha.packs⟩
  · intro ip ip' v v' a a' wa wa' ha ha' hwa hwa'
    obtain ⟨-, rfl⟩ := SxIpAddr.mk.inj (Option.some.inj (hwa.symm.trans ha.convert))
    obtain ⟨-, rfl⟩ := SxIpAddr.mk.inj (Option.some.inj (hwa'.symm.trans ha'.convert))
    refine ⟨Packs.eq_iff (by decide) rfl ha.packs ha'.packs, ?_⟩
    rintro rfl
    exact Packs.lt_iff (by decide) rfl (ha.length.trans ha'.length.symm) ha.packs ha'.packs
  · intro pfx v p m n hp
    refine ⟨_, _, hp.convert, hp.packs, fun ip h => h.convert, ?_⟩
    intro ip a wa ha hwa
    obtain ⟨-, rfl⟩ := SxIpAddr.mk.inj (Option.some.inj (hwa.symm.trans ha.convert))
    exact hp.agree_iff ha

end

/-! ## A prefix that ends inside a word -/

section

/-- Reads `2001:db8::1` and `2001:db8::/33`. -/
@[reducible] def prefix33Ovs : OvsLib where
  __ := sampleOvs
  inetPton6 s := if s = "2001:db8::1" then some ⟨0xb80d0120, 0, 0, 0x01000000⟩ else none
  ipv6ParseMasked s :=
    if s = "2001:db8::/33" then some (⟨0xb80d0120, 0, 0, 0⟩, ⟨0xffffffff, 0x80, 0, 0⟩) else none

attribute [local instance] prefix33Ovs

/-- The addresses of `2001:db8::/120`, by their last byte. -/
def ip6Bytes (last : BitVec 8) : List (BitVec 8) :=
  [0x20, 0x01, 0x0d, 0xb8, 0, 0, 0, 0, 0, 0, 0, 0, 0, 0, 0, last]

def ip6Mask33 : List (BitVec 8) := [255, 255, 255, 255, 128, 0, 0, 0, 0, 0, 0, 0, 0, 0, 0, 0]

theorem prefix33_addr : DeliversAddr "2001:db8::1" .ipv6 (ip6Bytes 1) :=
  ⟨by decide, rfl, by decide⟩

theorem prefix33_delivers : DeliversPrefix "2001:db8::/33" .ipv6 (ip6Bytes 0) ip6Mask33 33 :=
  ⟨by decide, rfl, rfl, by unfold IsPrefixMask; decide, by decide⟩

theorem ipConversion_exact_ip6 :
    ∃ wa wp wm, opsSaiCommonIpToSxIp "2001:db8::1" = some ⟨.ipv6, wa⟩ ∧
      Packs 4 (ip6Bytes 1) wa ∧
      opsSaiCommonIpPrefixToSxIpPrefix "2001:db8::/33" = some ⟨.ipv6, wp, wm⟩ ∧
      List.zipWith (· &&& ·) wa wm = List.zipWith (· &&& ·) wp wm := by
  obtain ⟨haddr, -, hprefix⟩ := ipConversion_exact
  obtain ⟨wa, hwa, hpacks⟩ := haddr _ _ _ prefix33_addr
  obtain ⟨wp, wm, hwp, -, -, hagree⟩ := hprefix _ _ _ _ _ prefix33_delivers
  refine ⟨wa, wp, wm, hwa, hpacks, hwp, (hagree _ _ _ prefix33_addr hwa).mpr ?_⟩
  decide

end

end SwitchdSai
