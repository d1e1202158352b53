import SwitchdSai.Verify.Bundle

/-!
# When every call into the hardware succeeds

From a state in which no failing outcome is left, the functions that program the VLANs of ports
succeed, and so does the reconfiguration of the ports of a bundle.
-/

namespace SwitchdSai

open Exec OfprotoSai

/-! ## VLANs -/

section
variable {vid hwId : Nat} {mode : SaiVlanTaggingMode} {add changed : Bool} {trunks : VlanBitmap}

theorem setHwIdAttr_succeeds {attr : SaiPortAttr} :
    Succeeds Hw.Willing (setHwIdAttr hwId attr) := by
  intro hw st hw' hwill h
  refine ⟨?_, Hw.same_willing setHwIdAttr_l3 _ _ _ h hwill⟩
  rw [setHwIdAttr, gets_bind] at h
  obtain ⟨status, hw₁, h₁, hend⟩ := bind_ok.mp h
  obtain ⟨rfl, -⟩ := hwill.call h₁
  cases hend
  rfl

theorem vlanPortSet_succeeds : Succeeds Hw.Willing (vlanPortSet vid hwId mode add) := by
  intro hw st hw' hwill h
  rw [vlanPortSet, gets_bind] at h
  obtain ⟨status, hw₁, h₁, hend⟩ := bind_ok.mp h
  obtain ⟨rfl, rfl⟩ := hwill.call h₁
  have hwill₁ : (Hw.setPort (hw.opsSaiApiHwId2PortId hwId)
      (HwPort.setVlan vid (if add then some mode else none)) hw.tick).Willing :=
    hwill.of_suffix (List.tail_suffix _)
  simp only [ne_eq, not_true, if_false] at hend
  exact (Succeeds.pure.ite setHwIdAttr_succeeds) _ _ _ hwill₁ hend

theorem vlanParts_succeeds : VlanParts (Succeeds Hw.Willing) hwId add :=
  ⟨Succeeds.composes, fun _ _ => vlanPortSet_succeeds, fun _ => setHwIdAttr_succeeds⟩

theorem vlanPortLeave_succeeds {bundle : OfbundleSai} :
    Succeeds Hw.Willing (vlanPortLeave bundle changed trunks hwId) :=
  VlanParts.leave vlanParts_succeeds (.inr Succeeds.halt)

theorem vlanPortJoin_succeeds {s : OfprotoBundleSettings} :
    Succeeds Hw.Willing (vlanPortJoin s changed trunks hwId) :=
  VlanParts.join vlanParts_succeeds (.inr Succeeds.halt)

theorem portVlansJoin_succeeds {bundle : OfbundleSai} :
    Succeeds Hw.Willing (portVlansJoin bundle hwId) := VlanParts.joinAll vlanParts_succeeds

theorem portVlansLeave_succeeds {bundle : OfbundleSai} :
    Succeeds Hw.Willing (portVlansLeave bundle hwId) := VlanParts.leaveAll vlanParts_succeeds

end

/-! ## The ports of a bundle -/

/-- Every call into the hardware succeeds from here on. -/
def OfprotoSai.Willing (o : OfprotoSai) : Prop := o.hw.Willing

section
variable {o o' : OfprotoSai} {b : BundlePtr} {p : OfpPort} {s : OfprotoBundleSettings} {α : Type}

theorem Evolves.willing (h : Evolves o o') (hw : o.Willing) : o'.Willing :=
  Hw.Willing.of_suffix hw h.outcomes

theorem onHw_succeeds {m : Exec Hw Int} (hm : Succeeds Hw.Willing m) :
    Succeeds OfprotoSai.Willing (onHw m) := by
  intro o st o' hwill h
  obtain ⟨hw, h₁, rfl⟩ := onHw_ok.mp h
  exact hm _ _ _ hwill h₁

theorem forEachPort_succeeds {ports : List OfpPort} {f : Nat → Exec Hw Int}
    (hf : ∀ hwId, Succeeds Hw.Willing (f hwId)) :
    Succeeds OfprotoSai.Willing (forEachPort ports f) :=
  Succeeds.forEach fun p => Succeeds.bind (ofport_rel p) fun _ => onHw_succeeds (hf _)

theorem vlanReconfigure_succeeds : Succeeds OfprotoSai.Willing (vlanReconfigure b s) := by
  refine Succeeds.bind (ofbundle_rel b) fun bundle => Succeeds.bind (Rel.require _ _) fun _ => ?_
  refine (forEachPort_succeeds fun _ => vlanPortLeave_succeeds).thenOk ?_
  refine (forEachPort_succeeds fun _ => vlanPortJoin_succeeds).thenOk ?_
  exact Succeeds.bind (modifyBundle_rel fun _ _ _ h => h) fun _ => Succeeds.pure

theorem ofbundlePortDel_succeeds : Succeeds OfprotoSai.Willing (ofbundlePortDel p) := by
  intro o st o' hwill h
  have hwill' := (ofbundlePortDel_evolves _ _ _ h).willing hwill
  obtain ⟨port, b, bundle, hw, -, -, -, hvlans, -⟩ := ofbundlePortDel_ok h
  exact ⟨((Succeeds.ite portVlansLeave_succeeds Succeeds.pure) _ _ _ hwill hvlans).1, hwill'⟩

theorem portsRemove_succeeds : Succeeds OfprotoSai.Willing (portsRemove b s) :=
  Succeeds.bind (ofbundle_rel b) fun _ => Succeeds.forEach fun _ =>
    Succeeds.bind (Rel.gets _) fun _ => Succeeds.pure.ite ofbundlePortDel_succeeds

variable [OvsLib] [Build]

theorem ofbundlePortAdd_succeeds {sPort : Option OfpPort} :
    Succeeds OfprotoSai.Willing (ofbundlePortAdd b sPort) := by
  intro o st o' hwill h
  have hwill' := (ofbundlePortAdd_evolves _ _ _ h).willing hwill
  obtain ⟨p, port, o₁, port₁, bundle, hw, -, -, hremove, -, -, hvlans, -⟩ := ofbundlePortAdd_ok h
  have hwill₁ := (bundleRemove_evolves _ _ _ hremove).willing hwill
  exact ⟨((Succeeds.ite portVlansJoin_succeeds Succeeds.pure) _ _ _ hwill₁ hvlans).1, hwill'⟩

theorem portsAdd_succeeds : Succeeds OfprotoSai.Willing (portsAdd b s) :=
  Succeeds.forEach fun _ => Succeeds.bind (Rel.gets _) fun _ =>
    Succeeds.bind (ofbundle_rel b) fun _ => Succeeds.pure.ite ofbundlePortAdd_succeeds

theorem ofbundlePortsReconfigure_succeeds :
    Succeeds OfprotoSai.Willing (ofbundlePortsReconfigure b s) :=
  Succeeds.thenOk portsRemove_succeeds (Succeeds.thenOk vlanReconfigure_succeeds portsAdd_succeeds)

end

end SwitchdSai
