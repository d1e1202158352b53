import SwitchdSai.Model.Port

/-!
# VLAN membership of a port

The SAI VLAN functions (`sai-vlan.c`) and `__native_tagged_vlan_set`. Adding a port to a VLAN
overwrites its tagging mode; removing it does not depend on the mode.
-/

namespace SwitchdSai

open Exec

/-- The conversion of an `int` to `sai_vlan_id_t`. -/
def saiVlanId (vlan : Int) : Nat := (vlan % 65536).toNat

def HwPort.setVlan (vid : Nat) (mode : Option SaiVlanTaggingMode) (p : HwPort) : HwPort :=
  { p with vlans := Function.update p.vlans vid mode }

/-- SAI `add_ports_to_vlan` and `remove_ports_from_vlan` for one port. -/
def setPortsOfVlan (vid portId : Nat) (mode : SaiVlanTaggingMode) (add : Bool) :
    Exec Hw SaiStatus :=
  Hw.call (Hw.setPort portId (HwPort.setVlan vid (if add then some mode else none)))

def vlanPortSet (vid hwId : Nat) (mode : SaiVlanTaggingMode) (add : Bool) : Exec Hw Int := do
  let portId ← gets fun hw => hw.opsSaiApiHwId2PortId hwId
  let status ← setPortsOfVlan vid portId mode add
  if status ≠ .success then return saiError2Errno status
  if add && mode ≠ .untagged then return 0
  opsSaiPortPvidSet hwId vid

def trunksPortSet (trunks : VlanBitmap) (hwId : Nat) (add : Bool) : Exec Hw Int :=
  forEach trunks.ones fun vid => vlanPortSet vid hwId .tagged add

def opsSaiVlanAccessPortAdd (vid hwId : Nat) : Exec Hw Int := vlanPortSet vid hwId .untagged true

def opsSaiVlanAccessPortDel (vid hwId : Nat) : Exec Hw Int :=
  (vlanPortSet vid hwId .untagged false).thenOk <|
  opsSaiPortPvidSet hwId OPS_SAI_PORT_DEFAULT_PVID

def opsSaiVlanTrunksPortAdd (trunks : VlanBitmap) (hwId : Nat) : Exec Hw Int :=
  trunksPortSet trunks hwId true

def opsSaiVlanTrunksPortDel (trunks : VlanBitmap) (hwId : Nat) : Exec Hw Int :=
  trunksPortSet trunks hwId false

/-- `__native_tagged_vlan_set`. An index outside the bitmap has no defined meaning. -/
def nativeTaggedVlanSet (vid : Int) (hwId : Nat) (add : Bool) : Exec Hw Int :=
  if 0 ≤ vid ∧ vid < VLAN_BITMAP_SIZE then
    let trunks := VlanBitmap.set1 0 vid.toNat
    (if add then opsSaiVlanTrunksPortAdd trunks hwId
      else opsSaiVlanTrunksPortDel trunks hwId).thenOk <|
    opsSaiPortPvidSet hwId (if add then saiVlanId vid else OPS_SAI_PORT_DEFAULT_PVID)
  else halt (.undefined "bitmap index out of range")

end SwitchdSai
