import Mathlib.Data.BitVec

/-!
# Status codes, addresses and library functions

Conversion of SAI status codes to errno values (`sai-log.h`), of textual IP addresses and prefixes
to the SDK format (`sai-vendor-util.c`), and VLAN bitmaps. The parsing functions of the OVS and C
libraries are not part of the repository: they are the fields of `OvsLib`, over which the whole
development is stated.
-/

namespace SwitchdSai

/-- What the build decides. -/
class Build where
  /-- Whether `MLNX_SAI` is defined. -/
  mlnxSai : Bool
  /-- `RM_API_ROUTER_NEXT_HOP_MAX` of the SDK. -/
  routerNextHopMax : Nat

/-! ## Status codes -/

/-- The classes of `sai_status_t` that `sai_error_2_errno` distinguishes. The SDK status
`sx_status_t` is only compared with success and shares the type. -/
inductive SaiStatus where
  | success
  | invalidParameter
  | noMemory
  | bufferOverflow
  | failure
  deriving DecidableEq, Repr

def EINVAL : Int := 22
def ENOMEM : Int := 12
def EOVERFLOW : Int := 75

def saiError2Errno : SaiStatus → Int
  | .success => 0
  | .invalidParameter => EINVAL
  | .noMemory => ENOMEM
  | .bufferOverflow => EOVERFLOW
  | .failure => -1

/-- `SX_ERROR_2_ERRNO`. -/
def sxError2Errno (status : SaiStatus) : Int := if status = .success then 0 else -1

@[simp] theorem saiError2Errno_eq_zero {status : SaiStatus} :
    saiError2Errno status = 0 ↔ status = .success := by
  cases status <;> decide

@[simp] theorem sxError2Errno_eq_zero {status : SaiStatus} :
    sxError2Errno status = 0 ↔ status = .success := by
  cases status <;> decide

/-! ## VLAN bitmaps -/

def VLAN_BITMAP_SIZE : Nat := 4096

/-- An array of `BITMAP_N_LONGS(VLAN_BITMAP_SIZE)` words. -/
abbrev VlanBitmap := BitVec 4096

namespace VlanBitmap

/-- `bitmap_set1`, for an index in range. -/
def set1 (b : VlanBitmap) (i : Nat) : VlanBitmap := b ||| BitVec.twoPow 4096 i

/-- `bitmap_set0`, for an index in range. -/
def set0 (b : VlanBitmap) (i : Nat) : VlanBitmap := b &&& ~~~ BitVec.twoPow 4096 i

/-- The indices visited by `BITMAP_FOR_EACH_1`. -/
def ones (b : VlanBitmap) : List Nat := (List.range VLAN_BITMAP_SIZE).filter b.getLsbD

@[simp] theorem mem_ones {b : VlanBitmap} {v : Nat} : v ∈ ones b ↔ b.getLsbD v = true := by
  simp only [ones, List.mem_filter, List.mem_range, and_iff_right_iff_imp]
  exact fun h => BitVec.lt_of_getLsbD h

@[simp] theorem getLsbD_set1 {b : VlanBitmap} {i v : Nat} :
    (b.set1 i).getLsbD v = (b.getLsbD v || (decide (v < 4096) && decide (v = i))) := by
  by_cases h : v = i
  · subst h; simp [set1, BitVec.getLsbD_twoPow]
  · simp [set1, BitVec.getLsbD_twoPow, h, Ne.symm h]

@[simp] theorem getLsbD_set0 {b : VlanBitmap} {i v : Nat} :
    (b.set0 i).getLsbD v = (b.getLsbD v && !decide (v = i)) := by
  by_cases hv : v < 4096
  · by_cases h : v = i
    · subst h; simp [set0, hv]
    · simp [set0, h, hv]
  · simp [BitVec.getLsbD_of_ge _ v (by omega : 4096 ≤ v)]

attribute [irreducible] ones

end VlanBitmap

/-! ## Addresses in the SDK format -/

inductive SxIpVersion where
  | ipv4
  | ipv6
  deriving DecidableEq, Repr

/-- `sx_ip_addr_t`: one word for IPv4, four for IPv6. -/
structure SxIpAddr where
  version : SxIpVersion
  addr : List (BitVec 32)
  deriving DecidableEq, Repr

/-- `sx_ip_prefix_t`. -/
structure SxIpPrefix where
  version : SxIpVersion
  addr : List (BitVec 32)
  mask : List (BitVec 32)
  deriving DecidableEq, Repr

/-- `struct eth_addr`. -/
abbrev EthAddr := BitVec 48

/-- `struct in6_addr`, as the four words a little-endian host reads from it. -/
structure In6Addr where
  w0 : BitVec 32
  w1 : BitVec 32
  w2 : BitVec 32
  w3 : BitVec 32
  deriving DecidableEq, Repr

def In6Addr.words (a : In6Addr) : List (BitVec 32) := [a.w0, a.w1, a.w2, a.w3]

/-- The functions of the OVS and C libraries that read text. A word in network byte order is the
word a little-endian host reads from memory. -/
class OvsLib where
  addrIsIpv6 : String → Bool
  /-- `ip_parse_masked`: address and mask in network byte order. -/
  ipParseMasked : String → Option (BitVec 32 × BitVec 32)
  ipv6ParseMasked : String → Option (In6Addr × In6Addr)
  /-- `inet_pton` with `AF_INET`. -/
  inetPton4 : String → Option (BitVec 32)
  /-- `inet_pton` with `AF_INET6`. -/
  inetPton6 : String → Option In6Addr
  ethAddrFromString : String → Option EthAddr
  /-- `atoi`, on which `smap_get_int` rests. -/
  atoi : String → BitVec 32
  /-- `strcasecmp(a, b) == 0`, on which `smap_get_bool` rests. -/
  strcaseEq : String → String → Bool
  /-- `strtol` with base 0. -/
  strtol : String → Int

open OvsLib

/-- The bytes of a word in reverse order. -/
def ntohl (w : BitVec 32) : BitVec 32 :=
  w.extractLsb' 0 8 ++ w.extractLsb' 8 8 ++ w.extractLsb' 16 8 ++ w.extractLsb' 24 8

variable [OvsLib]

def opsSaiCommonIpPrefixToSxIpPrefix (pfx : String) : Option SxIpPrefix :=
  if addrIsIpv6 pfx then
    (ipv6ParseMasked pfx).map fun (addr, mask) =>
      ⟨.ipv6, addr.words.map ntohl, mask.words.map ntohl⟩
  else
    (ipParseMasked pfx).map fun (addr, mask) => ⟨.ipv4, [ntohl addr], [ntohl mask]⟩

def opsSaiCommonIpToSxIp (ip : String) : Option SxIpAddr :=
  if addrIsIpv6 ip then
    (inetPton6 ip).map fun addr => ⟨.ipv6, addr.words.map ntohl⟩
  else
    (inetPton4 ip).map fun addr => ⟨.ipv4, [ntohl addr]⟩

end SwitchdSai
