import SwitchdSai.Lib.Exec
import SwitchdSai.Model.Base

/-!
# The FRU EEPROM

The search for the base MAC address in the image of the FRU EEPROM (`sai-vendor-util.c`). A program
over a `SaiMac` writes the output parameter; reading a byte behind the end of the buffer has no
defined meaning.
-/

namespace SwitchdSai

/-- `sai_mac_t`. -/
abbrev SaiMac := Vector UInt8 6

def FRU_BASE_MAC_ADDRESS_TYPE : UInt8 := 0x24
def FRU_BASE_MAC_ADDRESS_LEN : Nat := 6

/-- The largest value of an `int`. -/
def INT_MAX : Nat := 2 ^ 31 - 1

/-- `sizeof(struct fru_header)`: the fields `id`, `header_version` and `total_length`. -/
def sizeofFruHeader : Nat := 8 + 1 + 2

namespace Eeprom

/-- Read the byte at `offset`. -/
def readByte {σ : Type} (buffer : List UInt8) (offset : Nat) : Exec σ UInt8 :=
  .need (.undefined "read behind the end of the buffer") buffer[offset]?

/-- `memcpy(mac, buffer + offset, FRU_BASE_MAC_ADDRESS_LEN)`. -/
def memcpyMac (buffer : List UInt8) (offset : Nat) : Exec SaiMac Unit :=
  if h : ((buffer.drop offset).take FRU_BASE_MAC_ADDRESS_LEN).length = FRU_BASE_MAC_ADDRESS_LEN then
    .modify fun _ => ⟨((buffer.drop offset).take FRU_BASE_MAC_ADDRESS_LEN).toArray, h⟩
  else
    .halt (.undefined "read behind the end of the buffer")

/-- The loop of `__eeprom_mac_get`: `idx` counts the bytes done, `buf` is an offset into `buffer`.
It ends with the offset of the TLV at which it breaks off. -/
def findMacTlv {σ : Type} (buffer : List UInt8) (len : Int) (idx buf : Nat) :
    Exec σ (Option Nat) :=
  if idx < len then do
    let code ← readByte buffer buf
    if code = FRU_BASE_MAC_ADDRESS_TYPE then
      pure (some buf)
    else
      let length ← readByte buffer (buf + 1)
      let skip := length.toNat + 1 + 1
      .defined "signed overflow" (decide (idx + skip ≤ INT_MAX))
      findMacTlv buffer len (idx + skip) (buf + skip)
  else
    pure none
termination_by (len - idx).toNat

end Eeprom

open Eeprom

/-- `__eeprom_mac_get`. -/
def eepromMacGet (buffer : List UInt8) (len : Int) : Exec SaiMac SaiStatus := do
  -- Skip the FRU header.
  match ← findMacTlv buffer len 0 sizeofFruHeader with
  | some tlv =>
    memcpyMac buffer (tlv + 2)
    pure .success
  | none => pure .failure

end SwitchdSai
