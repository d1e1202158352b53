import SwitchdSai.Verify.Idempotent
import SwitchdSai.Verify.Success

/-!
# Settings that are rejected

`__bundle_set` refuses settings with more than one slave, but only after it has created the bundle
and given it the ports and the VLANs of the settings. So a refused call changes nothing exactly if
there was nothing to change.
-/

namespace SwitchdSai

open Exec OfprotoSai

/-- `o'` has the bundles of `o`, with the same ports and VLAN settings, and the ports are members of
the same VLANs and have the same PVID. -/
structure OfprotoSai.SameVlans (o o' : OfprotoSai) : Prop where
  ports : o'.bundlesBy (·.ports) = o.bundlesBy (·.ports)
  settings : o'.bundlesBy (·.vlanSettings) = o.bundlesBy (·.vlanSettings)
  hw : o'.portVlans = o.portVlans

variable {o o' : OfprotoSai} {b : BundlePtr} {aux : Nat} {s : OfprotoBundleSettings}

theorem Alike.sameVlans (h : Alike o o') : o.SameVlans o' := by
  obtain ⟨cs, hcs⟩ := h.hw
  refine ⟨h.bundlesBy, h.bundlesBy, funext fun oid => ?_⟩
  rw [OfprotoSai.portVlans, hcs]
  rfl

theorem ofbundleLookupOrCreate_willing :
    Keeps OfprotoSai.Willing (ofbundleLookupOrCreate aux s) :=
  ofbundleLookupOrCreate_rel fun _ _ _ _ => id

theorem ofbundleLookupOrCreate_aux (h : ofbundleLookupOrCreate aux s o = .ok (b, o')) :
    o'.bundlesBy (·.aux) b = some aux := by
  rcases ofbundleLookupOrCreate_ok h with ⟨rfl, haux⟩ | ⟨-, hcreate⟩
  · exact haux
  · obtain ⟨cs, -, rfl⟩ := ofbundleCreate_ok hcreate
    rw [bundlesBy, setBundle_lookup, if_pos rfl]
    rfl

section
variable [OvsLib] [Build]

/-- If the call leaves every bundle as it was, it has found the bundle as it leaves it. -/
theorem portsSet_of_sameVlans {o₁ : OfprotoSai} (hl : o.links.WF) (ha : o.AuxInj)
    (hlookup : ofbundleLookupOrCreate aux s o = .ok (b, o₁))
    (hports : ofbundlePortsReconfigure b s o₁ = .ok (0, o')) (hsame : o.SameVlans o') :
    ∃ bundle, PortsSet o b aux s bundle := by
  obtain ⟨hl₁, -, hnet₁⟩ := ofbundleLookupOrCreate_inv hl ha hlookup
  obtain ⟨bundle, hset⟩ :=
    ofbundlePortsReconfigure_portsSet hl₁ (ofbundleLookupOrCreate_aux hlookup) hports
  have hnet := (ofbundlePortsReconfigure_evolves _ _ _ hports).netdevs.trans hnet₁
  have hports₀ := congrFun hsame.ports b
  have hsettings₀ := congrFun hsame.settings b
  rw [bundlesBy, bundlesBy, hset.lookup] at hports₀ hsettings₀
  obtain ⟨bundle₀, hb₀, hp₀⟩ := Option.map_eq_some_iff.mp hports₀.symm
  rw [hb₀, Option.map_some, Option.map_some, Option.some.injEq] at hsettings₀
  have haux₀ : bundle₀.aux = aux := by
    rcases ofbundleLookupOrCreate_ok hlookup with ⟨rfl, haux⟩ | ⟨-, hcreate⟩
    · rw [bundlesBy, hb₀] at haux
      exact Option.some.inj haux
    · obtain ⟨cs, hnone, -⟩ := ofbundleCreate_ok hcreate
      cases hnone.symm.trans hb₀
  refine ⟨bundle₀, hb₀, haux₀, hsettings₀.symm.trans hset.vlanSettings, fun p => ?_⟩
  rw [hp₀, hset.ports p, isSlave_of_netdevs hnet]

variable [OpenswitchIdl]

/-- A refused call has reconfigured the ports of the bundle. -/
theorem bundleSet_refused {st : Int} (hwill : o.Willing) (hmany : 1 < s.slaves.length)
    (h : bundleSet aux (some s) o = .ok (st, o')) (h0 : st ≠ 0) :
    s.name ≠ OpenswitchIdl.DEFAULT_BRIDGE_NAME ∧
      ∃ b o₁, ofbundleLookupOrCreate aux s o = .ok (b, o₁) ∧
        ofbundlePortsReconfigure b s o₁ = .ok (0, o') := by
  rw [bundleSet] at h
  split at h
  next =>
    cases h
    exact absurd rfl h0
  next hname =>
    obtain ⟨b, o₁, hlookup, h⟩ := bind_ok.mp h
    have hwill₁ := ofbundleLookupOrCreate_willing _ _ _ hlookup hwill
    rcases thenOk_ok.mp h with ⟨hfail, -⟩ | ⟨o₂, hports, h⟩
    · exact absurd (ofbundlePortsReconfigure_succeeds _ _ _ hwill₁ hfail).1 h0
    · rw [if_pos hmany] at h
      cases h
      exact ⟨hname, b, o₁, hlookup, hports⟩

/-- **A refused call changes nothing** exactly if the settings are not named after the default
bridge and the bundle exists, has the slaves as its ports and has the VLAN settings that are asked
for. -/
theorem bundleSet_rejected_iff {type : OfprotoType} {vrid : Nat}
    {ofports : OfpPort → Option OfportSai} {hw : Hw} (hnew : Unbundled ofports)
    (H : Reaches (fun _ _ => True) HostCall.run (.new type vrid ofports hw) o)
    (hwill : o.Willing) (haux : aux ≠ 0) (hmany : 1 < s.slaves.length)
    (hslaves : ∀ p ∈ s.slaves, ∃ port, o.ofports p = some port)
    (hrange : nativeInRange s.vlanMode s.vlan = true) :
    (∃ st o', bundleSet aux (some s) o = .ok (st, o') ∧ st ≠ 0 ∧ o.SameVlans o') ↔
      s.name ≠ OpenswitchIdl.DEFAULT_BRIDGE_NAME ∧ ∃ b bundle, PortsSet o b aux s bundle := by
  obtain ⟨hl, ha⟩ := H.invariant (I := fun o => o.links.WF ∧ o.AuxInj)
    (fun _ _ _ _ _ => HostCall.run_inv) (new_inv hnew)
  constructor
  · rintro ⟨st, o', h, h0, hsame⟩
    obtain ⟨hname, b, o₁, hlookup, hports⟩ := bundleSet_refused hwill hmany h h0
    exact ⟨hname, b, portsSet_of_sameVlans hl ha hlookup hports hsame⟩
  · rintro ⟨hname, b, bundle, hset⟩
    have hfound : o.bundlesBy (·.aux) b = some aux := by
      rw [bundlesBy, hset.lookup, Option.map_some, hset.aux]
    obtain ⟨st, o', hports, rfl, halike⟩ := ofbundlePortsReconfigure_idles hset.lookup
      hset.vlanSettings hrange hset.ports hslaves o (refl_of Alike o)
    refine ⟨-1, o', ?_, by decide, halike.sameVlans⟩
    rw [bundleSet, if_neg hname, bind_of_ok (ofbundleLookupOrCreate_found haux ha hfound),
      bundleApply]
    refine thenOk_ok.mpr (.inr ⟨o', hports, ?_⟩)
    rw [if_pos hmany]
    rfl

end

/-! ### Examples -/

section
attribute [local instance] sampleOvs sampleBuild sampleIdl

/-- The ports 1 and 2 in access mode for VLAN 2. -/
def lagSettings : OfprotoBundleSettings := { accessSettings 2 with slaves := [1, 2] }

theorem samplePorts_slaves :
    ∀ p ∈ lagSettings.slaves, ∃ port, samplePorts p = some port := by
  intro p hp
  have hp' : p = 1 ∨ p = 2 := by simpa [lagSettings] using hp
  exact ⟨samplePort .system p, if_pos hp'⟩

/-- The settings are asked for again, and the second call changes nothing. -/
theorem bundleSet_rejected_iff_again :
    ∃ o₁ st o₂, bundleSet 1 (some lagSettings) (.new .vrf 0 samplePorts .reset) = .ok (-1, o₁) ∧
      bundleSet 1 (some lagSettings) o₁ = .ok (st, o₂) ∧ st ≠ 0 ∧ o₁.SameVlans o₂ := by
  obtain ⟨o₁, hset⟩ := result_eq_some.mp (show result (bundleSet 1 (some lagSettings))
    (.new .vrf 0 samplePorts .reset) = some (-1) by decide)
  have hwill : (OfprotoSai.new .vrf 0 samplePorts .reset).Willing := rfl
  have hmany : 1 < lagSettings.slaves.length := by decide
  have hinv : (OfprotoSai.new .vrf 0 samplePorts .reset).links.WF ∧
      (OfprotoSai.new .vrf 0 samplePorts .reset).AuxInj := new_inv samplePorts_unbundled
  obtain ⟨hname, b, o₂, hlookup, hports⟩ := bundleSet_refused hwill hmany hset (by decide)
  obtain ⟨hl₂, -, hnet₂⟩ := ofbundleLookupOrCreate_inv hinv.1 hinv.2 hlookup
  obtain ⟨bundle, hportsSet⟩ :=
    ofbundlePortsReconfigure_portsSet hl₂ (ofbundleLookupOrCreate_aux hlookup) hports
  have hevolves := ofbundlePortsReconfigure_evolves _ _ _ hports
  have hlive : ∀ p ∈ lagSettings.slaves, ∃ port, o₁.ofports p = some port := by
    intro p hp
    obtain ⟨port, hport⟩ := samplePorts_slaves p hp
    exact exists_port_of_netdevs (hevolves.netdevs.trans hnet₂) hport
  have hwill₁ := hevolves.willing (ofbundleLookupOrCreate_willing _ _ _ hlookup hwill)
  have H : Reaches (fun _ _ => True) HostCall.run (.new .vrf 0 samplePorts .reset) o₁ :=
    .tail .refl ⟨.vrf (.bundle (.set 1 (some lagSettings))), -1, trivial, hset⟩
  obtain ⟨st, o₃, hagain, h0, hsame⟩ := (bundleSet_rejected_iff samplePorts_unbundled H hwill₁
    Nat.one_ne_zero hmany hlive rfl).mpr ⟨hname, b, bundle, hportsSet⟩
  exact ⟨o₁, st, o₃, hset, hagain, h0, hsame⟩

/-- The settings are refused, but the bundle has been created and its ports have joined VLAN 2. -/
theorem bundleSet_rejected_changes :
    (∀ p ∈ lagSettings.slaves, ∃ port, samplePorts p = some port) ∧
      lagSettings.slaves.length = 2 ∧
      ∃ o₁, bundleSet 1 (some lagSettings) (.new .vrf 0 samplePorts .reset) = .ok (-1, o₁) ∧
        o₁.bundlesBy (·.ports) 0 = some [1, 2] ∧ o₁.vlanRow 1 2 = some .untagged ∧
        ¬(OfprotoSai.new .vrf 0 samplePorts .reset).SameVlans o₁ := by
  obtain ⟨o', hrun⟩ := result_eq_some.mp (show result (do
    let st ← bundleSet 1 (some lagSettings)
    let ports ← gets fun o => o.bundlesBy (·.ports) 0
    let mode ← gets fun o => o.vlanRow 1 2
    pure (st, ports, mode)) (.new .vrf 0 samplePorts .reset) =
      some (-1, some [1, 2], some .untagged) by decide)
  obtain ⟨st, o₁, hset, hrun⟩ := bind_ok.mp hrun
  simp only [gets_bind, pure_apply, Except.ok.injEq, Prod.mk.injEq] at hrun
  obtain ⟨⟨rfl, hports, hmode⟩, rfl⟩ := hrun
  refine ⟨samplePorts_slaves, rfl, o₁, hset, hports, hmode, fun hsame => ?_⟩
  have hnone := (congrFun hsame.ports 0).symm.trans hports
  cases hnone

end

end SwitchdSai
