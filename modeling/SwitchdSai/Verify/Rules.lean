import SwitchdSai.Model.Bundle
import SwitchdSai.Verify.Ofproto

/-!
# How a relation passes through the operations on bundles

The functions that change a bundle are put together from a few parts. One rule for each of them says
that it relates the states before and after by `R` when its parts do. The functions that change the
VLANs of a port are sequences of two calls: they have every property that composes and that the two
calls have (`VlanParts`).
-/

namespace SwitchdSai

open Exec OfprotoSai

/-! ## The VLANs of a port -/

section
variable {C : Exec Hw Int → Prop} {hwId vid : Nat} {vlan : Int} {add changed : Bool}
  {trunks : VlanBitmap} {bundle : OfbundleSai} {s : OfprotoBundleSettings}

/-- `C` composes, and the calls that change the members of a VLAN as `add` says and the attributes
of the port `hwId` have it. -/
structure VlanParts (C : Exec Hw Int → Prop) (hwId : Nat) (add : Bool) : Prop
    extends Composes C where
  member : ∀ vid mode, C (vlanPortSet vid hwId mode add)
  attr : ∀ attr, C (setHwIdAttr hwId attr)

/-- A native VLAN that is no index of a bitmap stops the program, which `C` may allow. -/
abbrev NativeOk (C : Exec Hw Int → Prop) (mode : PortVlanMode) (vlan : Int) : Prop :=
  nativeInRange mode vlan = true ∨ C (halt (.undefined "bitmap index out of range"))

namespace VlanParts

theorem trunksSet (hC : VlanParts C hwId add) : C (trunksPortSet trunks hwId add) :=
  hC.forEach fun _ _ => hC.member ..

theorem accessDel (hC : VlanParts C hwId false) : C (opsSaiVlanAccessPortDel vid hwId) :=
  hC.thenOk (hC.member ..) (hC.attr _)

theorem nativeSet (hC : VlanParts C hwId add) (hnative : NativeOk C .nativeTagged vlan) :
    C (nativeTaggedVlanSet vlan hwId add) := by
  refine iteInduction (fun _ => hC.thenOk ?_ (hC.attr _)) fun hrange =>
    hnative.resolve_left fun h => hrange (of_decide_eq_true h)
  cases add with
  | true => exact trunksSet hC
  | false => exact trunksSet hC

theorem leave (hC : VlanParts C hwId false) (hnative : NativeOk C bundle.vlanMode bundle.vlan) :
    C (vlanPortLeave bundle changed trunks hwId) := by
  unfold vlanPortLeave
  cases hm : bundle.vlanMode with
  | access => exact hC.ite (accessDel hC)
  | trunk => exact trunksSet hC
  | nativeUntagged => exact hC.thenOk (hC.ite (accessDel hC)) (trunksSet hC)
  | nativeTagged =>
    rw [hm] at hnative
    exact hC.thenOk (hC.ite (nativeSet hC hnative)) (trunksSet hC)

theorem join (hC : VlanParts C hwId true) (hnative : NativeOk C s.vlanMode s.vlan) :
    C (vlanPortJoin s changed trunks hwId) := by
  unfold vlanPortJoin
  cases hm : s.vlanMode with
  | access => exact hC.ite (hC.member ..)
  | trunk => exact trunksSet hC
  | nativeUntagged => exact hC.thenOk (hC.ite (hC.member ..)) (trunksSet hC)
  | nativeTagged =>
    rw [hm] at hnative
    exact hC.thenOk (hC.ite (nativeSet hC hnative)) (trunksSet hC)

theorem joinAll (hC : VlanParts C hwId true) : C (portVlansJoin bundle hwId) := by
  refine hC.thenOk (hC.ite (hC.member ..)) ?_
  cases bundle.trunks with
  | none => exact hC.zero
  | some trunks => exact trunksSet hC

theorem leaveAll (hC : VlanParts C hwId false) : C (portVlansLeave bundle hwId) := by
  refine hC.thenOk (hC.ite (accessDel hC)) ?_
  cases bundle.trunks with
  | none => exact hC.zero
  | some trunks => exact trunksSet hC

end VlanParts

end

variable {R : OfprotoSai → OfprotoSai → Prop} [IsPreorder OfprotoSai R] {b : BundlePtr}
  {p : OfpPort} {s : OfprotoBundleSettings} {isIpv6 ipv6Prefix : Bool} {ip : String}

/-! ## The configuration of a bundle -/

theorem routerIntfEnable_rel {enable : Bool}
    (hstate : ∀ rif, Rel R (onHw (opsSaiRouterIntfSetState rif enable)))
    (hrecord : Rel R (modifyBundle b fun bundle =>
      { bundle with routerIntf := { bundle.routerIntf with enabled := enable } })) :
    Rel R (routerIntfEnable b enable) :=
  (ofbundle_rel b).bind fun _ =>
    ((hstate _).thenOk (hrecord.bind fun _ => Rel.pure _)).ite (Rel.pure _)

theorem ofprotoIpPrefix_rel : Rel R (ofprotoIpPrefix ip isIpv6) := by
  refine Rel.bind (Rel.require _ _) fun _ => ?_
  refine Rel.bind (Rel.require _ _) fun _ => ?_
  exact Rel.bind (Rel.require _ _) fun _ => Rel.pure _

section
variable [OvsLib] [Build]

theorem routerIntfApply_rel {rifType : RouterIntfType} {handle : Nat} {enable : Bool}
    (hremove : Rel R (ofbundleRouterIntfRemove b))
    (hcreate : Rel R (routerIntfCreate b rifType handle))
    (henable : Rel R (routerIntfEnable b enable)) :
    Rel R (routerIntfApply b rifType handle enable) := by
  refine (ofbundle_rel b).bind fun _ => (hremove.ite (Rel.pure _)).thenOk ?_
  exact (ofbundle_rel b).bind fun _ => ((Rel.pure _).ite hcreate).thenOk henable

theorem ofbundleRouterIntfReconfigure_rel
    (happly : ∀ rifType handle, Rel R (routerIntfApply b rifType handle s.enable))
    (hloopback : Rel R (modifyBundle b fun bundle =>
      { bundle with routerIntf := { bundle.routerIntf with isLoopback := true } })) :
    Rel R (ofbundleRouterIntfReconfigure b s) := by
  refine (Rel.gets _).bind fun _ => (Rel.require _ _).bind fun _ => (Rel.need _ _).bind fun _ =>
    (Rel.gets _).bind fun sPort => ?_
  cases sPort with
  | none => exact Rel.pure _
  | some p =>
    refine (ofport_rel p).bind fun port => ?_
    cases port.netdev.type with
    | system | internal => exact happly _ _
    | vlansubint => exact Rel.pure _
    | loopback => exact hloopback.bind fun _ => Rel.pure _

theorem ofbundleIpReconfigure_rel
    (hprimary : ∀ isIpv6 new, Rel R (ipPrimaryReconfigure b isIpv6 new))
    (hsecondary : ∀ isIpv6, Rel R (ofbundleIpSecondaryReconfigure b s isIpv6)) :
    Rel R (ofbundleIpReconfigure b s) :=
  ((hprimary _ _).ite (Rel.pure _)).thenOk <|
  ((hprimary _ _).ite (Rel.pure _)).thenOk <|
  ((hsecondary _).ite (Rel.pure _)).thenOk <|
  (hsecondary _).ite (Rel.pure _)

/-! ## Ports and the life of a bundle -/

omit [OvsLib] [Build] in
theorem portsRemove_rel (hdel : ∀ p, Rel R (ofbundlePortDel p)) : Rel R (portsRemove b s) :=
  (ofbundle_rel b).bind fun _ => Rel.forEach fun p => (Rel.gets _).bind fun _ =>
    (Rel.pure _).ite (hdel p)

theorem portsAdd_rel (hadd : ∀ sPort, Rel R (ofbundlePortAdd b sPort)) : Rel R (portsAdd b s) :=
  Rel.forEach fun _ => (Rel.gets _).bind fun sPort => (ofbundle_rel b).bind fun _ =>
    (Rel.pure _).ite (hadd sPort)

theorem ofbundlePortsReconfigure_rel (hdel : ∀ p, Rel R (ofbundlePortDel p))
    (hvlan : Rel R (vlanReconfigure b s)) (hadd : ∀ sPort, Rel R (ofbundlePortAdd b sPort)) :
    Rel R (ofbundlePortsReconfigure b s) :=
  (portsRemove_rel hdel).thenOk (hvlan.thenOk (portsAdd_rel hadd))

theorem ofbundleDestroy_rel (hip : Rel R (ofbundleIpRemove b))
    (hrif : Rel R (ofbundleRouterIntfRemove b)) (hdel : ∀ p, Rel R (ofbundlePortDel p))
    (herase : ∀ o : OfprotoSai, R o { o with bundles := o.bundles.erase b }) :
    Rel R (ofbundleDestroy b) := by
  refine hip.bind fun _ => hrif.bind fun _ => (ofbundle_rel b).bind fun _ => Rel.bind ?_ fun _ => ?_
  · exact Rel.forAll fun p => (hdel p).bind fun _ => Rel.pure _
  · exact Rel.modify herase

theorem bundleRemove_rel (hdel : ∀ p, Rel R (ofbundlePortDel p))
    (hdestroy : ∀ b, Rel R (ofbundleDestroy b)) : Rel R (bundleRemove p) := by
  refine (ofport_rel p).bind fun port => ?_
  cases port.bundle with
  | none => exact Rel.pure _
  | some b =>
    refine (hdel p).bind fun _ => (ofbundle_rel b).bind fun _ => ?_
    exact (hdestroy b).ite (Rel.pure _)

theorem bundleApply_rel (hports : Rel R (ofbundlePortsReconfigure b s))
    (hrif : Rel R (ofbundleRouterIntfReconfigure b s)) (hip : Rel R (ofbundleIpReconfigure b s)) :
    Rel R (bundleApply b s) := by
  refine hports.thenOk ((Rel.pure _).ite ((Rel.gets _).bind fun _ => Rel.ite ?_ (Rel.pure _)))
  exact hrif.bind fun _ => hip.bind fun _ => Rel.pure _

end

end SwitchdSai
