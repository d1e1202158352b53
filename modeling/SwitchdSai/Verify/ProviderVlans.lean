import SwitchdSai.Verify.Provider
import SwitchdSai.Verify.VlanRows

/-!
# The VLAN table of the hardware

The ofprotos of a provider share the port objects of the hardware. When every call into the hardware
succeeds and no two ofprotos have ports with the object of a system port, the VLANs of a system port
are those of the bundle it is in, in every state of a run of the provider (`vlans_exact`).
-/

namespace SwitchdSai

open Exec Provider OfprotoSai

variable {r : RowRule} {s s' : Provider} {p q : OfprotoPtr} {record : OfprotoRecord}
  {o o' : OfprotoSai} {hw hw' : Hw} {st : Int}

/-! ## One ofproto on shared hardware -/

theorem setHw_portOid (hoid : hw.opsSaiApiHwId2PortId = o.hw.opsSaiApiHwId2PortId) :
    OfprotoSai.portOid { o with hw := hw } = o.portOid := by
  funext i
  simp only [OfprotoSai.portOid, hoid]

theorem setHw_systemOid (hoid : hw.opsSaiApiHwId2PortId = o.hw.opsSaiApiHwId2PortId) :
    OfprotoSai.systemOid { o with hw := hw } = o.systemOid := by
  funext i
  simp only [OfprotoSai.systemOid, OfprotoSai.netdevs, hoid]

/-- Other hardware in which the rows of the system ports of the ofproto are as before. -/
theorem VlansFit.setHw (hF : VlansFit r o) (hwill : hw.Willing)
    (hoid : hw.opsSaiApiHwId2PortId = o.hw.opsSaiApiHwId2PortId)
    (hrows : ∀ i oid, o.systemOid i = some oid → (hw.ports oid).vlans = o.vlanRow oid) :
    VlansFit r { o with hw := hw } := by
  have hsys := setHw_systemOid hoid
  refine ⟨⟨hwill, hF.links, ?_, hF.settings, fun i oid v hi hrow => ?_⟩,
    fun i oid b vs hi hown hvs => ?_⟩
  · unfold OfprotoSai.OwnObjects
    rw [hsys, setHw_portOid hoid]
    exact hF.own
  · rw [hsys] at hi
    exact hF.rows i oid v hi (hrows i oid hi ▸ hrow)
  · rw [hsys] at hi
    rw [show OfprotoSai.vlanRow { o with hw := hw } oid = o.vlanRow oid from hrows i oid hi]
    exact hF.fits i oid b vs hi hown hvs

/-- No port of `o'` has the object of a system port of `o`. -/
def OfprotoSai.Apart (o o' : OfprotoSai) : Prop :=
  ∀ i j oid, o.systemOid i = some oid → o'.portOid j ≠ some oid

/-- The ports of a new ofproto are in no bundle and in no VLAN, and the objects of system ports are
those of no other port, here or in another ofproto. -/
structure Provider.NewPorts (s : Provider) (ofports : OfpPort → Option OfportSai) : Prop where
  unbundled : Unbundled ofports
  own : (OfprotoSai.new .system 0 ofports s.hw).OwnObjects
  rows : ∀ i oid, (OfprotoSai.new .system 0 ofports s.hw).systemOid i = some oid →
    (s.hw.ports oid).vlans = fun _ => none
  apart : ∀ p record, s.ofprotos.lookup p = some record →
    (record.on s.hw).Apart (.new .system 0 ofports s.hw) ∧
      (OfprotoSai.new .system 0 ofports s.hw).Apart (record.on s.hw)

theorem new_vlansFit {type : OfprotoType} {vrid : Nat} {ofports : OfpPort → Option OfportSai}
    (hnew : s.NewPorts ofports) (hwill : s.hw.Willing) :
    VlansFit r (.new type vrid ofports s.hw) := by
  have hl : (OfprotoSai.new type vrid ofports s.hw).links.WF := (new_inv hnew.unbundled).1
  refine ⟨⟨hwill, hl, hnew.own, fun _ b vs _ hvs => ?_, fun i oid v hi hrow => ?_⟩,
    fun i oid b vs _ _ hvs => ?_⟩
  · cases hvs
  · exact absurd (congrFun (hnew.rows i oid hi) v) hrow
  · cases hvs

/-! ## The invariant -/

/-- The VLANs of the system ports of all ofprotos fit, and their objects are their own. -/
structure VlansKept (r : RowRule) (s : Provider) : Prop where
  willing : s.hw.Willing
  fits : ∀ p record, s.ofprotos.lookup p = some record → VlansFit r (record.on s.hw)
  apart : ∀ p q record other, s.ofprotos.lookup p = some record →
    s.ofprotos.lookup q = some other → q ≠ p → (record.on s.hw).Apart (other.on s.hw)

/-- The ofprotos of `s'` are among those of `s`, and the rows of ports are as they were. -/
theorem VlansKept.of_same (hI : VlansKept r s) (hwill : s'.hw.Willing)
    (hoid : s'.hw.opsSaiApiHwId2PortId = s.hw.opsSaiApiHwId2PortId)
    (hports : s'.hw.ports = s.hw.ports)
    (hlookup : ∀ p record, s'.ofprotos.lookup p = some record →
      s.ofprotos.lookup p = some record) : VlansKept r s' := by
  refine ⟨hwill, fun p record hp => ?_, fun p q record other hp hq hne => ?_⟩
  · exact (hI.fits p record (hlookup p record hp)).setHw hwill hoid fun i oid _ => by
      rw [hports]
      rfl
  · have hapart := hI.apart p q record other (hlookup p record hp) (hlookup q other hq) hne
    unfold OfprotoSai.Apart at hapart ⊢
    rw [show (record.on s'.hw).systemOid = _ from setHw_systemOid (o := record.on s.hw) hoid,
      show (other.on s'.hw).portOid = _ from setHw_portOid (o := other.on s.hw) hoid]
    exact hapart

/-- The new ofproto has the ports that were asked for. -/
theorem VlansKept.create {name : String} {type : OfprotoType} {vrid : Nat}
    {ofports : OfpPort → Option OfportSai} (hI : VlansKept r s) (hnew : s.NewPorts ofports)
    (hwill : s'.hw.Willing) (hidle : s.hw.Idle s'.hw)
    (hlookup : ∀ q, s'.ofprotos.lookup q =
      if q = p then some ⟨name, type, vrid, ofports, ∅⟩ else s.ofprotos.lookup q) :
    VlansKept r s' := by
  have hoid : s'.hw.opsSaiApiHwId2PortId = s.hw.opsSaiApiHwId2PortId :=
    congrArg Hw.L3.oid hidle.1
  have hrows : s'.hw.ports = s.hw.ports := hidle.2
  -- what an ofproto of the new state is on the hardware of the old one
  have hcases : ∀ q record, s'.ofprotos.lookup q = some record →
      (q = p ∧ record = ⟨name, type, vrid, ofports, ∅⟩) ∨
        q ≠ p ∧ s.ofprotos.lookup q = some record := by
    intro q record hq
    rw [hlookup] at hq
    split at hq
    next h => exact .inl ⟨h, (Option.some.inj hq).symm⟩
    next h => exact .inr ⟨h, hq⟩
  have hfits : ∀ q record, s'.ofprotos.lookup q = some record → VlansFit r (record.on s.hw) := by
    intro q record hq
    rcases hcases q record hq with ⟨-, rfl⟩ | ⟨-, hq⟩
    · exact new_vlansFit hnew hI.willing
    · exact hI.fits q record hq
  refine ⟨hwill, fun q record hq => ?_, fun q q' record other hq hq' hne => ?_⟩
  · exact (hfits q record hq).setHw hwill hoid fun i oid _ => by
      rw [hrows]
      rfl
  · have hapart : (record.on s.hw).Apart (other.on s.hw) := by
      rcases hcases q record hq with ⟨rfl, rfl⟩ | ⟨-, hq⟩ <;>
        rcases hcases q' other hq' with ⟨rfl, rfl⟩ | ⟨-, hq'⟩
      · exact absurd rfl hne
      · exact (hnew.apart q' other hq').2
      · exact (hnew.apart q record hq).1
      · exact hI.apart q q' record other hq hq' hne
    unfold OfprotoSai.Apart at hapart ⊢
    rw [show (record.on s'.hw).systemOid = _ from setHw_systemOid (o := record.on s.hw) hoid,
      show (other.on s'.hw).portOid = _ from setHw_portOid (o := other.on s.hw) hoid]
    exact hapart

/-- A call on one ofproto leaves the rows of the others as they were. -/
theorem VlansKept.onOfproto (hI : VlansKept r s) (hp : s.ofprotos.lookup p = some record)
    (hF : VlansFit r o') (hwithin : Within (record.on s.hw) o')
    (hafter : OnOfproto p record o' s s') : VlansKept r s' := by
  have hoid : s'.hw.opsSaiApiHwId2PortId = s.hw.opsSaiApiHwId2PortId :=
    hafter.hw ▸ hwithin.setup.oid
  have hwill : s'.hw.Willing := hafter.hw ▸ hF.willing
  have hsys : (record.after o').on s'.hw = o' := by
    rw [hafter.hw]
    rfl
  have hcases : ∀ q other, s'.ofprotos.lookup q = some other →
      (q = p ∧ other = record.after o') ∨ q ≠ p ∧ s.ofprotos.lookup q = some other := by
    intro q other hq
    rw [hafter.lookup] at hq
    split at hq
    next h => exact .inl ⟨h, (Option.some.inj hq).symm⟩
    next h => exact .inr ⟨h, hq⟩
  refine ⟨hwill, fun q other hq => ?_, fun q q' other other' hq hq' hne => ?_⟩
  · rcases hcases q other hq with ⟨rfl, rfl⟩ | ⟨hqp, hq⟩
    · rw [hsys]
      exact hF
    · refine (hI.fits q other hq).setHw hwill hoid fun i oid hi => ?_
      rw [hafter.hw]
      exact congrArg HwPort.vlans (hwithin.ports oid fun j =>
        hI.apart q p other record hq hp (Ne.symm hqp) i j oid hi)
  · -- the objects of ports are those they were
    have hobjects : ∀ q other, s'.ofprotos.lookup q = some other → ∃ old,
        s.ofprotos.lookup q = some old ∧ (other.on s'.hw).systemOid = (old.on s.hw).systemOid ∧
          (other.on s'.hw).portOid = (old.on s.hw).portOid := by
      intro q other hq
      rcases hcases q other hq with ⟨rfl, rfl⟩ | ⟨-, hq⟩
      · rw [hsys]
        exact ⟨record, hp, hwithin.setup.systemOid, hwithin.setup.portOid⟩
      · exact ⟨other, hq, setHw_systemOid (o := other.on s.hw) hoid,
          setHw_portOid (o := other.on s.hw) hoid⟩
    obtain ⟨old, hold, hsystem, -⟩ := hobjects q other hq
    obtain ⟨old', hold', -, hport⟩ := hobjects q' other' hq'
    unfold OfprotoSai.Apart
    rw [hsystem, hport]
    exact hI.apart q q' old old' hold hold' hne

/-! ## Runs -/

section
variable [OvsLib] [Build] [OpenswitchIdl]

omit [OvsLib] [Build] [OpenswitchIdl] in
/-- The settings of bundles are well-formed and admissible, and the ports of a new ofproto are
new. -/
def ProviderCall.VlansOk (ok : VlanSettings → Prop) (s : Provider) : ProviderCall → Prop
  | .create _ _ ofports => s.NewPorts ofports
  | .destroy _ => True
  | .on _ c => c.SettingsOk ok

theorem ProviderCall.run_vlansKept {c : ProviderCall} (hok : c.VlansOk r.ok s)
    (hI : VlansKept r s) (h : c.run s = .ok (st, s')) : VlansKept r s' := by
  cases c with
  | create name type ofports =>
    have hwill : s'.hw.Willing := hI.willing.of_suffix (ofprotoCreate_takes _ _ _ h)
    obtain ⟨p, -, hidle, ⟨-, -, hlookup⟩ | ⟨-, vrid, -, -, hlookup⟩⟩ := ofprotoCreate_ok h
    · exact hI.of_same hwill (congrArg Hw.L3.oid hidle.1) hidle.2 fun q record hq =>
        hlookup q ▸ hq
    · exact hI.create hok hwill hidle hlookup
  | destroy p =>
    obtain ⟨_, s₁, hdestroy, hend⟩ := bind_ok.mp h
    cases hend
    have hwill : s'.hw.Willing := hI.willing.of_suffix (ofprotoDestroy_takes _ _ _ hdestroy)
    obtain ⟨record, hw, -, hidle, hlookup, hend⟩ := ofprotoDestroy_ok hdestroy
    have hhw : s'.hw.opsSaiApiHwId2PortId = hw.opsSaiApiHwId2PortId ∧ s'.hw.ports = hw.ports := by
      rcases hend with ⟨-, hhw⟩ | ⟨-, -, -, hhw⟩ <;> rw [hhw] <;> exact ⟨rfl, rfl⟩
    refine hI.of_same hwill (hhw.1.trans (congrArg Hw.L3.oid hidle.1)) (hhw.2.trans hidle.2)
      fun q record hq => ?_
    rw [hlookup] at hq
    split at hq
    next => cases hq
    next => exact hq
  | on p c =>
    obtain ⟨record, o', hp, hrun, hafter⟩ := onOfproto_after h
    exact hI.onOfproto hp (HostCall.run_vlansFit hok _ _ _ hrun (hI.fits p record hp))
      (HostCall.run_within _ _ _ hrun) hafter

theorem Reaches.vlansKept {hw : Hw} (hwill : hw.Willing)
    (H : Reaches (fun s c => c.VlansOk r.ok s) ProviderCall.run (.new hw) s) : VlansKept r s := by
  refine H.invariant (fun c s hok st s' hrun hI => ProviderCall.run_vlansKept hok hI hrun) ?_
  exact ⟨hwill, fun p record hp => (by cases hp), fun p q record other hp => (by cases hp)⟩

/-- **The VLANs of a system port are those of its bundle**, in every state of a run of the provider
in which the hardware takes every call: the port is a member of the VLANs that the settings of its
bundle ask for, and of none when it is in no bundle. If moreover the trunks of all settings agree
with the mode about the native VLAN, the port has the tagging modes that the settings ask for. -/
theorem vlans_exact {hw : Hw} (hwill : hw.Willing)
    (H : Reaches (fun s c => c.VlansOk (fun _ => True) s) ProviderCall.run (.new hw) s)
    (hp : s.ofprotos.lookup p = some record) {i : OfpPort} {oid : Nat}
    (hi : (record.on s.hw).systemOid i = some oid) :
    (∀ v, (s.hw.ports oid).vlans v ≠ none ↔ ∃ b bundle,
      (record.ofports i).bind (·.bundle) = some b ∧ record.bundles.lookup b = some bundle ∧
        bundle.vlanSettings.spec v ≠ none) ∧
    (Reaches (fun s c => c.VlansOk VlanSettings.NativeAgrees s) ProviderCall.run (.new hw) s →
      ∀ b bundle, (record.ofports i).bind (·.bundle) = some b →
        record.bundles.lookup b = some bundle →
        (s.hw.ports oid).vlans = bundle.vlanSettings.spec) := by
  have hset : ∀ {b vs}, (record.on s.hw).bundlesBy (·.vlanSettings) b = some vs ↔
      ∃ bundle, record.bundles.lookup b = some bundle ∧ bundle.vlanSettings = vs := by
    intro b vs
    exact Option.map_eq_some_iff
  refine ⟨fun v => ?_, fun H b bundle hown hb => ?_⟩
  · have hI := Reaches.vlansKept (r := .members) hwill H
    have hF := hI.fits p record hp
    constructor
    · intro hrow
      obtain ⟨b, vs, hown, hvs, hspec⟩ := hF.rows i oid v hi hrow
      obtain ⟨bundle, hb, rfl⟩ := hset.mp hvs
      exact ⟨b, bundle, hown, hb, hspec⟩
    · rintro ⟨b, bundle, hown, hb, hspec⟩ hrow
      exact hspec ((hF.fits i oid b _ hi hown (hset.mpr ⟨bundle, hb, rfl⟩) v).mp hrow)
  · have hF := (Reaches.vlansKept (r := .exact) hwill H).fits p record hp
    exact hF.fits i oid b _ hi hown (hset.mpr ⟨bundle, hb, rfl⟩)

end

section
attribute [local instance] sampleOvs sampleBuild sampleIdl

theorem onePort_newPorts (i : OfpPort) : (Provider.new .reset).NewPorts (onePort i) := by
  have hport : ∀ j port, onePort i j = some port → j = i ∧ port = samplePort .system i := by
    intro j port h
    unfold onePort at h
    split at h
    next hj => exact ⟨hj, (Option.some.inj h).symm⟩
    next => cases h
  have hown : ∀ j oid, (OfprotoSai.new .system 0 (onePort i) .reset).portOid j = some oid →
      j = i := by
    intro j oid h
    obtain ⟨port, hj, -⟩ := Option.map_eq_some_iff.mp h
    exact (hport j port hj).1
  refine ⟨fun j port h => ?_, fun j k oid hj hk => ?_, fun _ _ _ => rfl,
    fun p record hp => by cases hp⟩
  · rw [(hport j port h).2]
    rfl
  · rw [hown j oid (systemOid_portOid hj), hown k oid hk]

/-- The port of a bundle in access mode is in the VLAN of the bundle. -/
theorem vlans_exact_access : ∃ s record b bundle,
    Reaches (fun s c => c.VlansOk (fun _ => True) s) ProviderCall.run (.new .reset) s ∧
    s.ofprotos.lookup 0 = some record ∧ (record.ofports 1).bind (·.bundle) = some b ∧
    record.bundles.lookup b = some bundle ∧ bundle.vlanSettings.spec 2 ≠ none := by
  obtain ⟨s', hrun⟩ := result_eq_some.mp (show result (do
    let _ ← ProviderCall.run (.create "bridge" .system (onePort 1))
    let _ ← (sampleBundle 0 (accessSettings 2)).run
    let oid ← gets fun s => (s.ofprotos.lookup 0).map fun record => (record.on s.hw).systemOid 1
    let v ← gets fun s => (s.hw.ports 1).vlans 2
    pure (oid, v)) (.new .reset) = some (some (some 1), some .untagged) by decide)
  obtain ⟨a, s₁, hcreate, hrun⟩ := bind_ok.mp hrun
  obtain ⟨c, s₂, hset, hend⟩ := bind_ok.mp hrun
  rw [gets_bind, gets_bind, pure_apply] at hend
  simp only [Except.ok.injEq, Prod.mk.injEq] at hend
  obtain ⟨⟨hoid, hv⟩, rfl⟩ := hend
  obtain ⟨record, hp, hi⟩ := Option.map_eq_some_iff.mp hoid
  have hwill : Hw.reset.Willing := rfl
  have hwf : (accessSettings 2).vlanSettings.WF := ⟨by decide, by decide, rfl⟩
  have H : Reaches (fun s c => c.VlansOk (fun _ => True) s) ProviderCall.run (.new .reset) s₂ :=
    .tail (.tail .refl ⟨.create "bridge" .system (onePort 1), a, onePort_newPorts 1, hcreate⟩)
      ⟨sampleBundle 0 (accessSettings 2), c, ⟨hwf, trivial⟩, hset⟩
  obtain ⟨b, bundle, hown, hb, hspec⟩ := ((vlans_exact hwill H hp hi).1 2).mp (hv ▸ nofun)
  exact ⟨s₂, record, b, bundle, H, hp, hown, hb, hspec⟩

end

end SwitchdSai
