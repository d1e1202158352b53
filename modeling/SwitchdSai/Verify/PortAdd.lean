import SwitchdSai.Verify.Bundle
import SwitchdSai.Verify.VlanReconfigure

/-!
# Adding a port to a configured bundle

`__ofbundle_port_add` programs the VLANs of a port from the VLAN and the trunks of the bundle alone:
its row becomes `portJoinRow`. That is the row the settings ask for, and the row a reconfiguration
makes, exactly when the mode of the native VLAN agrees with its place among the trunks
(`NativeAgrees`).
-/

namespace SwitchdSai

open Exec OfprotoSai

/-! ## Leaving a bundle takes a port out of VLANs only -/

/-- Every membership of `hw'` is one of `hw`. -/
def Hw.VlansShrink (hw hw' : Hw) : Prop :=
  ∀ oid v, (hw'.ports oid).vlans v = (hw.ports oid).vlans v ∨ (hw'.ports oid).vlans v = none

instance : IsPreorder Hw Hw.VlansShrink where
  refl _ _ _ := .inl rfl
  trans _ _ _ h h' oid v := by
    rcases h' oid v with h₂ | h₂
    · rw [h₂]
      exact h oid v
    · exact .inr h₂

section
variable {vid hwId : Nat} {mode : SaiVlanTaggingMode}

theorem vlansShrink_of_ports {hw hw' : Hw} (h : hw'.ports = hw.ports) : Hw.VlansShrink hw hw' :=
  fun oid v => .inl (by rw [h])

theorem setHwIdAttr_shrinks {attr : SaiPortAttr} : Rel Hw.VlansShrink (setHwIdAttr hwId attr) := by
  intro hw st hw' h oid v
  have hrows := congrArg VlanTable.rows (setHwIdAttr_vlanTable _ _ _ _ _ h)
  exact .inl (congrFun (congrFun hrows oid) v)

theorem setPortsOfVlan_shrinks {portId : Nat} :
    Rel Hw.VlansShrink (setPortsOfVlan vid portId mode false) := by
  refine Hw.callIf_rel (fun hw => vlansShrink_of_ports rfl) fun hw oid v => ?_
  by_cases ho : oid = portId
  · subst ho
    by_cases hv : v = vid
    · subst hv
      exact .inr (by simp [Hw.setPort, HwPort.setVlan])
    · exact .inl (by simp [Hw.setPort, HwPort.setVlan, Hw.tick, hv])
  · exact .inl (by simp [Hw.setPort, Hw.tick, ho])

theorem vlanPortSet_shrinks : Rel Hw.VlansShrink (vlanPortSet vid hwId mode false) :=
  (Rel.gets _).bind fun _ => Rel.bind setPortsOfVlan_shrinks fun _ =>
    (Rel.pure _).ite ((Rel.pure _).ite setHwIdAttr_shrinks)

theorem portVlansLeave_shrinks {bundle : OfbundleSai} :
    Rel Hw.VlansShrink (portVlansLeave bundle hwId) :=
  VlanParts.leaveAll ⟨Rel.composes, fun _ _ => vlanPortSet_shrinks, fun _ => setHwIdAttr_shrinks⟩

end

/-- No port has joined a VLAN, and the bundles that remain have kept their VLAN settings. -/
structure VlansShrink (o o' : OfprotoSai) : Prop where
  hw : Hw.VlansShrink o.hw o'.hw
  settings : ∀ b vs, o'.bundlesBy (·.vlanSettings) b = some vs →
    o.bundlesBy (·.vlanSettings) b = some vs

instance : IsPreorder OfprotoSai VlansShrink where
  refl _ := ⟨refl_of _ _, fun _ _ => id⟩
  trans _ _ _ h h' := ⟨trans_of _ h.hw h'.hw, fun b vs hb => h.settings b vs (h'.settings b vs hb)⟩

section
variable {o o' : OfprotoSai} {p : OfpPort} {b : BundlePtr}

theorem SameButIp.vlansShrink (h : SameButIp o o') : VlansShrink o o' := by
  have hset : o'.bundlesBy (·.vlanSettings) = o.bundlesBy (·.vlanSettings) :=
    bundlesBy_of (k := (·.vlanSettings)) h.bundles fun _ => rfl
  exact ⟨vlansShrink_of_ports (congrArg Hw.ButRoutes.ports h.hw.same.1), fun b vs hb => hset ▸ hb⟩

theorem SameButRif.vlansShrink (h : SameButRif o o') : VlansShrink o o' := by
  have hset : o'.bundlesBy (·.vlanSettings) = o.bundlesBy (·.vlanSettings) :=
    bundlesBy_of (k := (·.vlanSettings)) h.bundles fun _ => rfl
  exact ⟨vlansShrink_of_ports (congrArg Hw.L2.ports h.hw.1), fun b vs hb => hset ▸ hb⟩

theorem ofbundlePortDel_shrinks : Rel VlansShrink (ofbundlePortDel p) := by
  intro o st o' h
  obtain ⟨port, b, bundle, hw, -, -, hb, hvlans, rfl⟩ := ofbundlePortDel_ok h
  have hset : (OfprotoSai.detachPort p port b bundle { o with hw := hw }).bundlesBy
      (·.vlanSettings) = o.bundlesBy (·.vlanSettings) := setBundle_bundlesBy hb rfl
  refine ⟨?_, fun b vs hb => hset ▸ hb⟩
  exact Rel.ite portVlansLeave_shrinks (Rel.pure 0) _ _ _ hvlans

variable [OvsLib] [Build]

theorem ofbundleDestroy_shrinks : Rel VlansShrink (ofbundleDestroy b) := by
  refine ofbundleDestroy_rel (ofbundleIpRemove_sameButIp.mono fun _ _ => SameButIp.vlansShrink)
    (ofbundleRouterIntfRemove_sameButRif.mono fun _ _ => SameButRif.vlansShrink)
    (fun _ => ofbundlePortDel_shrinks) fun o => ⟨vlansShrink_of_ports rfl, fun b' vs hb => ?_⟩
  simp only [bundlesBy, lookup_erase] at hb ⊢
  split at hb
  next => cases hb
  next => exact hb

theorem bundleRemove_shrinks : Rel VlansShrink (bundleRemove p) :=
  bundleRemove_rel (fun _ => ofbundlePortDel_shrinks) fun _ => ofbundleDestroy_shrinks

end

/-! ## The VLANs of an added port -/

/-- What `portVlansJoin` does to the row of a port. -/
def portJoinRow (s : VlanSettings) (row : VlanRow) : VlanRow :=
  (if s.vlan ≠ -1 then row.set (saiVlanId s.vlan) (some .untagged) else row).setTrunks
    (s.trunks.getD 0) (some .tagged)

/-- A change of the VLAN of a bundle, if it has one, and then of its trunks. -/
theorem vlanTrunks_does {hwId : Nat} {vlan : Int} {trunks : Option VlanBitmap}
    {access : Exec Hw Int} {trunk : VlanBitmap → Exec Hw Int}
    {mode mode' : Option SaiVlanTaggingMode}
    (haccess : DoesRow hwId access (VlanRow.set (saiVlanId vlan) mode))
    (htrunk : ∀ trunks, DoesRow hwId (trunk trunks) (VlanRow.setTrunks trunks mode')) :
    DoesRow hwId ((if vlan ≠ -1 then access else pure 0).thenOk <|
        match trunks with
        | some trunks => trunk trunks
        | none => pure 0)
      fun row => (if vlan ≠ -1 then row.set (saiVlanId vlan) mode else row).setTrunks
        (trunks.getD 0) mode' := by
  have hfirst : DoesRow hwId (if vlan ≠ -1 then access else pure 0)
      (if vlan ≠ -1 then VlanRow.set (saiVlanId vlan) mode else id) := haccess.ite DoesRow.pure
  have hsecond : DoesRow hwId (match trunks with | some trunks => trunk trunks | none => pure 0)
      (VlanRow.setTrunks (trunks.getD 0) mode') := by
    cases trunks with
    | some trunks => exact htrunk trunks
    | none =>
      have hid : VlanRow.setTrunks (Option.getD none 0) mode' = id := by
        funext row v
        simp [VlanRow.setTrunks]
      rw [hid]
      exact DoesRow.pure
  have heq : (fun row : VlanRow => (if vlan ≠ -1 then row.set (saiVlanId vlan) mode
      else row).setTrunks (trunks.getD 0) mode') = VlanRow.setTrunks (trunks.getD 0) mode' ∘
        if vlan ≠ -1 then VlanRow.set (saiVlanId vlan) mode else id := by
    funext row
    by_cases hv : vlan = -1 <;> simp [hv]
  rw [heq]
  exact hfirst.thenOk hsecond

theorem portVlansJoin_does (bundle : OfbundleSai) (hwId : Nat) :
    DoesRow hwId (portVlansJoin bundle hwId) (portJoinRow bundle.vlanSettings) :=
  vlanTrunks_does (accessPortAdd_does _ hwId) fun trunks => trunksPortSet_does trunks hwId true

namespace VlanSettings

/-- The trunks say the same of the native VLAN as the mode. -/
def NativeAgrees (s : VlanSettings) : Prop :=
  match s.vlanMode with
  | .access | .trunk => True
  | .nativeUntagged => s.hasTrunk s.vlan.toNat = false
  | .nativeTagged => s.hasTrunk s.vlan.toNat = true

/-- Setting the VLAN of a bundle that has one sets the VLAN of the settings. -/
theorem WF.set_vlan {s : VlanSettings} (h : s.WF) (mode : Option SaiVlanTaggingMode)
    (row : VlanRow) (v : Nat) :
    (if s.vlan ≠ -1 then row.set (saiVlanId s.vlan) mode else row) v =
      if s.Own v then mode else row v := by
  have hown : s.vlan ≠ -1 ∧ v = saiVlanId s.vlan ↔ s.Own v := by
    unfold Own saiVlanId
    cases hm : s.vlanMode <;> simp only [WF, hm] at h <;> simp only [ne_eq, reduceCtorEq,
      not_false_iff, not_true, true_and, false_and, iff_false] <;> omega
  by_cases hv : s.vlan ≠ -1
  · rw [if_pos hv, VlanRow.set, Function.update_apply]
    exact if_congr ((and_iff_right hv).symm.trans hown) rfl rfl
  · rw [if_neg hv, if_neg fun h => hv (hown.mpr h).1]

/-- The row of an added port that was in no VLAN. -/
theorem WF.portJoinRow_apply {s : VlanSettings} (h : s.WF) (v : Nat) :
    portJoinRow s (fun _ => none) v =
      if s.hasTrunk v then some .tagged else if s.Own v then some .untagged else none := by
  unfold portJoinRow VlanRow.setTrunks hasTrunk
  rw [h.set_vlan]

/-- An added port gets the row its settings ask for exactly when the settings agree. -/
theorem WF.portJoinRow_eq_spec {s : VlanSettings} (h : s.WF) :
    portJoinRow s (fun _ => none) = s.spec ↔ s.NativeAgrees := by
  have hrow := h.portJoinRow_apply
  constructor
  · intro heq
    have hv : ∀ v, s.Own v → (if s.hasTrunk v then some .tagged else some .untagged) =
        some s.ownMode := by
      intro v hown
      have := congrFun heq v
      rwa [hrow, if_pos hown, spec_own hown] at this
    unfold NativeAgrees
    cases hm : s.vlanMode with
    | access | trunk => trivial
    | nativeUntagged | nativeTagged =>
      have hr := h.range (by simp [hm])
      have := hv s.vlan.toNat ⟨by simp [hm], by omega⟩
      cases ht : s.hasTrunk s.vlan.toNat <;> simp [ht, ownMode, hm] at this ⊢
  · intro hagree
    funext v
    rw [hrow]
    by_cases hown : s.Own v
    · rw [if_pos hown, spec_own hown, ownMode]
      have hvlan : s.vlan.toNat = v := by rw [← hown.2, Int.toNat_natCast]
      unfold NativeAgrees at hagree
      cases hm : s.vlanMode <;> simp only [hm, hvlan] at hagree
      case access => simp [h.hasTrunk_access hm]
      case trunk => exact absurd hm hown.1
      case nativeUntagged | nativeTagged => simp [hagree]
    · rw [if_neg hown, h.spec_other hown]

end VlanSettings

section
variable [OvsLib] [Build] {o o' : OfprotoSai} {p : OfpPort} {b : BundlePtr}

/-- The row of a system port that was in no VLAN, after it has been added to a bundle. -/
theorem ofbundlePortAdd_row {port : OfportSai} {bundle : OfbundleSai} {oid : Nat}
    (hp : o.ofports p = some port) (htype : port.netdev.type = .system)
    (hb : o.bundles.lookup b = some bundle) (hoid : o.portOid p = some oid)
    (hrow : o.vlanRow oid = fun _ => none)
    (hrun : ofbundlePortAdd b (some p) o = .ok (0, o')) :
    o'.vlanRow oid = portJoinRow bundle.vlanSettings fun _ => none := by
  obtain ⟨q, port', o₁, port₁, bundle₁, hw, hq, hp', hremove, -, hb₁, hvlans, rfl⟩ :=
    ofbundlePortAdd_ok hrun
  cases hq
  obtain rfl : port' = port := Option.some.inj (hp'.symm.trans hp)
  rw [if_pos htype] at hvlans
  have hevolves := bundleRemove_evolves _ _ _ hremove
  have hshrinks := bundleRemove_shrinks _ _ _ hremove
  have hset : bundle₁.vlanSettings = bundle.vlanSettings := by
    have := hshrinks.settings b bundle₁.vlanSettings (by simp [bundlesBy, hb₁])
    simpa [bundlesBy, hb, eq_comm] using this
  have hrow₁ : o₁.vlanRow oid = fun _ => none := by
    funext v
    rcases hshrinks.hw oid v with h | h
    · exact h.trans (congrFun hrow v)
    · exact h
  have hoid₁ : o₁.hw.opsSaiApiHwId2PortId port'.netdev.netdevSaiHwIdGet = oid := by
    rw [hevolves.oid]
    simpa [OfprotoSai.portOid, hp] using hoid
  have htable := portVlansJoin_does _ _ _ _ hvlans
  have hrow' := congrFun (congrArg VlanTable.rows htable) oid
  refine hrow'.trans ?_
  simp only [VlanTable.onPort, Hw.vlanTable, hoid₁, applyAt_self]
  rw [show (o₁.hw.ports oid).vlans = _ from hrow₁]
  exact congrArg (fun vs => portJoinRow vs fun _ => none) hset

/-- **When adding a port agrees with reconfiguring.** A system port that was in no VLAN and has been
added to a bundle with well-formed settings has the row that the settings ask for, and the row that
any reconfiguration to the same settings leaves, exactly when the trunks contain the native VLAN of
a bundle in native-tagged mode and do not contain that of one in native-untagged mode. -/
theorem ofbundlePortAdd_spec_iff {port : OfportSai} {bundle : OfbundleSai} {oid : Nat}
    (hp : o.ofports p = some port) (htype : port.netdev.type = .system)
    (hb : o.bundles.lookup b = some bundle) (hwf : bundle.vlanSettings.WF)
    (hoid : o.portOid p = some oid) (hrow : o.vlanRow oid = fun _ => none)
    (hrun : ofbundlePortAdd b (some p) o = .ok (0, o')) :
    (o'.vlanRow oid = bundle.vlanSettings.spec ↔ bundle.vlanSettings.NativeAgrees) ∧
      ∀ (o₁ o₂ : OfprotoSai) (b₁ : BundlePtr) (bundle₁ : OfbundleSai)
        (s : OfprotoBundleSettings) (oid₁ : Nat), o₁.bundles.lookup b₁ = some bundle₁ →
        bundle₁.vlanSettings.WF → s.vlanSettings = bundle.vlanSettings →
        (bundle₁.ports.map o₁.portOid).Nodup →
        (∀ oid, some oid ∈ bundle₁.ports.map o₁.portOid →
          o₁.vlanRow oid = bundle₁.vlanSettings.spec) →
        vlanReconfigure b₁ s o₁ = .ok (0, o₂) → some oid₁ ∈ bundle₁.ports.map o₁.portOid →
        (o'.vlanRow oid = o₂.vlanRow oid₁ ↔ bundle.vlanSettings.NativeAgrees) := by
  have hadded := ofbundlePortAdd_row hp htype hb hoid hrow hrun
  have hiff : o'.vlanRow oid = bundle.vlanSettings.spec ↔ bundle.vlanSettings.NativeAgrees := by
    rw [hadded]
    exact hwf.portJoinRow_eq_spec
  refine ⟨hiff, fun o₁ o₂ b₁ bundle₁ s oid₁ hb₁ hwf₁ hs hd hrows hrun₁ hin => ?_⟩
  rw [vlanReconfigure_rows hb₁ hwf₁ (hs ▸ hwf) hd hrows hrun₁, if_pos hin, hs]
  exact hiff

end

/-! ### Examples -/

section
attribute [local instance] sampleOvs sampleBuild

/-- An ofproto with the ports 1 and 2 and one empty bundle. -/
def bundleOfproto (bundle : OfbundleSai) : OfprotoSai :=
  (OfprotoSai.new .system 0 samplePorts .reset).setBundle 1 bundle

/-- An empty bundle in native-tagged mode for VLAN 5 without trunks. -/
def nativeBundle : OfbundleSai :=
  { OfbundleSai.alloc 1 none with vlanMode := .nativeTagged, vlan := 5 }

/-- Port 1 is added to a bundle in access mode. -/
theorem ofbundlePortAdd_spec_iff_access :
    ∃ o', ofbundlePortAdd 1 (some 1) (bundleOfproto (.alloc 1 none)) = .ok (0, o') ∧
      o'.vlanRow 1 = (OfbundleSai.alloc 1 none).vlanSettings.spec := by
  obtain ⟨o', hrun⟩ := result_eq_some.mp (show result (ofbundlePortAdd 1 (some 1))
    (bundleOfproto (.alloc 1 none)) = some 0 by decide)
  have hwf : (OfbundleSai.alloc 1 none).vlanSettings.WF := ⟨by decide, by decide, rfl⟩
  have hport : (bundleOfproto (.alloc 1 none)).ofports 1 = some (samplePort .system 1) := rfl
  have hoid : (bundleOfproto (.alloc 1 none)).portOid 1 = some 1 := rfl
  have h := ofbundlePortAdd_spec_iff hport rfl rfl hwf hoid rfl hrun
  exact ⟨o', hrun, h.1.mpr trivial⟩

/-- Port 1 is added to a bundle in native-tagged mode and becomes an untagged member of its VLAN. -/
theorem ofbundlePortAdd_native :
    (samplePort .system 1).netdev.type = .system ∧ nativeBundle.vlanSettings.WF ∧
      (bundleOfproto nativeBundle).vlanRow 1 = (fun _ => none) ∧
      ∃ o', ofbundlePortAdd 1 (some 1) (bundleOfproto nativeBundle) = .ok (0, o') ∧
        o'.vlanRow 1 5 = some .untagged ∧ o'.vlanRow 1 ≠ nativeBundle.vlanSettings.spec := by
  obtain ⟨o', hrun⟩ := result_eq_some.mp (show result (do
    let st ← ofbundlePortAdd 1 (some 1)
    let mode ← gets fun o => o.vlanRow 1 5
    pure (st, mode)) (bundleOfproto nativeBundle) = some (0, some .untagged) by decide)
  obtain ⟨st, o₁, hadd, hend⟩ := bind_ok.mp hrun
  rw [gets_bind, pure_apply] at hend
  simp only [Except.ok.injEq, Prod.mk.injEq] at hend
  obtain ⟨⟨rfl, hmode⟩, rfl⟩ := hend
  refine ⟨rfl, ⟨by decide, by decide⟩, rfl, o₁, hadd, hmode, fun hspec => ?_⟩
  rw [hspec] at hmode
  exact absurd hmode (by decide)

end

end SwitchdSai
