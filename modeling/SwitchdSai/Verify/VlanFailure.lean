import SwitchdSai.Verify.Frames
import SwitchdSai.Verify.VlanScript

/-!
# After a reconfiguration that has failed

A call of `__vlan_reconfigure` that fails has made the first calls of its script and has recorded
nothing. The next call finds what to change from the settings that are still recorded, so it leaves
each VLAN that the recorded and the new settings treat alike as the failed call has left it. Asking
for the same settings again completes the failed call.
-/

namespace SwitchdSai

open Exec OfprotoSai

/-! ## What a script sets -/

namespace VlanSettings

variable {old new : VlanSettings} {v : Nat} {mode : Option SaiVlanTaggingMode}

theorem not_changed_own (h : ¬old.Changed new) : old.Own v ↔ new.Own v := by
  simp only [Changed, not_or, not_not] at h
  unfold Own
  rw [h.1, h.2]

theorem leaveCalls_touches (hold : old.WF) (hnew : new.WF)
    (h : .member v mode ∈ old.leaveCalls new) : old.Touches new v := by
  rcases List.mem_append.mp h with h | h
  · split at h
    next hown =>
      have hv : v = old.vlan.toNat ∧ mode = none := by simpa [ownLeaveCalls] using h
      have hr := hold.range hown.1
      exact .inr ⟨hown.2, .inl ⟨hown.1, by omega⟩⟩
    next => cases h
  · obtain ⟨vid, hvid, h⟩ := List.mem_flatMap.mp h
    obtain ⟨rfl, -⟩ := mem_portSetCalls.mp h
    obtain ⟨htrunk, hnone, hown⟩ := mem_leftTrunks.mp hvid
    by_cases hown' : new.Own v
    · have hchanged : old.Changed new := by
        refine not_not.mp fun h => hown ((not_changed_own h).mpr hown')
      exact .inr ⟨hchanged, .inr hown'⟩
    · refine .inl ?_
      rw [hold.spec_other hown, hnew.spec_other hown', htrunk, hnone]
      decide

theorem joinCalls_touches (hold : old.WF) (hnew : new.WF)
    (h : .member v mode ∈ old.joinCalls new) : old.Touches new v := by
  rcases List.mem_append.mp h with h | h
  · split at h
    next hown =>
      have hv : v = new.vlan.toNat ∧ mode = some new.ownMode := by simpa using h
      have hr := hnew.range hown.1
      exact .inr ⟨hown.2, .inr ⟨hown.1, by omega⟩⟩
    next => cases h
  · obtain ⟨vid, hvid, h⟩ := List.mem_flatMap.mp h
    obtain ⟨rfl, -⟩ := mem_portSetCalls.mp h
    obtain ⟨htrunk, hnone, hown⟩ := mem_joinedTrunks.mp hvid
    by_cases hown' : old.Own v
    · have hchanged : old.Changed new := by
        refine not_not.mp fun h => hown ((not_changed_own h).mp hown')
      exact .inr ⟨hchanged, .inl hown'⟩
    · refine .inl ?_
      rw [hold.spec_other hown', hnew.spec_other hown, htrunk, hnone.resolve_right hown']
      decide

theorem script_touches (hold : old.WF) (hnew : new.WF) {ports : List OfpPort} {p : OfpPort}
    (h : (p, .member v mode) ∈ old.script ports new) : old.Touches new v := by
  rcases List.mem_append.mp h with h | h <;> obtain ⟨q, -, h⟩ := List.mem_flatMap.mp h <;>
    obtain ⟨c, hc, heq⟩ := List.mem_map.mp h <;> cases heq
  · exact leaveCalls_touches hold hnew hc
  · exact joinCalls_touches hold hnew hc

/-- The row of port `p` after the first `k` calls of a reconfiguration of a bundle with `ports`. -/
def rowAfter (ports : List OfpPort) (old new : VlanSettings) (k : Nat) (p : OfpPort) : VlanRow :=
  (callsFor p ((old.script ports new).take k)).foldl (fun row c => c.setRow row) old.spec

/-- Wherever a reconfiguration stops, it has set nothing but what the change of settings touches. -/
theorem rowAfter_of_not_touches (hold : old.WF) (hnew : new.WF) (h : ¬old.Touches new v)
    (ports : List OfpPort) (k : Nat) (p : OfpPort) :
    rowAfter ports old new k p v = old.spec v := by
  refine VlanCall.foldl_setRow_apply fun mode hmem => h ?_
  obtain ⟨⟨q, c⟩, hc, heq⟩ := List.mem_map.mp hmem
  obtain ⟨hc, -⟩ := List.mem_filter.mp hc
  obtain rfl : c = .member v mode := heq
  exact script_touches hold hnew (List.mem_of_mem_take hc)

end VlanSettings

/-! ## The call after a call that has failed -/

section
variable {o o₁ o₂ : OfprotoSai} {b : BundlePtr} {bundle : OfbundleSai}
  {s s₁ s₂ : OfprotoBundleSettings} {st : Int}

/-- A reconfiguration that fails records nothing. -/
theorem vlanReconfigure_failed (h : vlanReconfigure b s o = .ok (st, o₁)) (h0 : st ≠ 0) :
    o₁.bundles = o.bundles := by
  refine congrArg (·.2.2.2) (show o₁.tables = o.tables from ?_)
  obtain ⟨bundle, -, h⟩ := ofbundle_bind.mp h
  obtain ⟨-, h⟩ := require_bind.mp h
  rcases thenOk_ok.mp h with ⟨h₁, -⟩ | ⟨o₂, h₁, h⟩
  · exact forEachPort_tables _ _ _ _ _ h₁
  rcases thenOk_ok.mp h with ⟨h₂, -⟩ | ⟨o₃, h₂, h⟩
  · exact (forEachPort_tables _ _ _ _ _ h₂).trans (forEachPort_tables _ _ _ _ _ h₁)
  · obtain ⟨bundle₂, -, hend⟩ := modifyBundle_bind.mp h
    cases hend
    exact absurd rfl h0

theorem vlanReconfigure_portOid (h : vlanReconfigure b s o = .ok (st, o₁)) :
    o₁.portOid = o.portOid := by
  have hsame := vlanReconfigure_sameButVlan _ _ _ h
  have hoid : o₁.hw.opsSaiApiHwId2PortId = o.hw.opsSaiApiHwId2PortId :=
    congrArg Hw.L3.oid hsame.hw.1
  funext p
  simp only [OfprotoSai.portOid, hsame.ofports, hoid]

/-- The number of the first hardware call that fails. -/
def Hw.firstFailure (hw : Hw) : Nat := hw.outcomes.findIdx (· != .success)

/-- The rows of the ports after a call that has failed. -/
theorem vlanReconfigure_stopped {p : OfpPort} {oid : Nat} (hb : o.bundles.lookup b = some bundle)
    (hold : bundle.vlanSettings.WF) (hnew : s.vlanSettings.WF)
    (hd : (bundle.ports.map o.portOid).Nodup) (hp : p ∈ bundle.ports)
    (hoid : o.portOid p = some oid) (hrow : o.vlanRow oid = bundle.vlanSettings.spec)
    (h : vlanReconfigure b s o = .ok (st, o₁)) (h0 : st ≠ 0) :
    o₁.vlanRow oid =
      bundle.vlanSettings.rowAfter bundle.ports s.vlanSettings o.hw.firstFailure p := by
  obtain ⟨k, hstop⟩ := ((vlanReconfigure_plays hb hold hnew h).resolve_left fun h => h0 h.1).2
  obtain rfl : o.hw.firstFailure = k := Hw.firstRefused hstop.granted hstop.refused
  have hplay := ofprotoApi_play_port hd hp hoid
    (l := (bundle.vlanSettings.script bundle.ports s.vlanSettings).take o.hw.firstFailure)
    fun c hc => script_ports c (List.mem_of_mem_take hc)
  have hview : o₁.portVlans oid = _ :=
    (congrArg (fun t => t.2.ports oid) hstop.view).trans hplay
  rw [VlanCall.foldl_act] at hview
  rw [VlanSettings.rowAfter, ← hrow]
  exact congrArg PortVlans.row hview

/-- The rows of the ports after a call that has failed and one that has succeeded. -/
theorem vlanReconfigure_afterFailure {p : OfpPort} {oid : Nat}
    (hb : o.bundles.lookup b = some bundle) (hold : bundle.vlanSettings.WF)
    (hnew₁ : s₁.vlanSettings.WF) (hnew₂ : s₂.vlanSettings.WF)
    (hd : (bundle.ports.map o.portOid).Nodup) (hp : p ∈ bundle.ports)
    (hoid : o.portOid p = some oid) (hrow : o.vlanRow oid = bundle.vlanSettings.spec)
    (hfail : vlanReconfigure b s₁ o = .ok (st, o₁)) (h0 : st ≠ 0)
    (hrun : vlanReconfigure b s₂ o₁ = .ok (0, o₂)) (v : Nat) :
    o₂.vlanRow oid v = if bundle.vlanSettings.Touches s₂.vlanSettings v
      then s₂.vlanSettings.spec v
      else bundle.vlanSettings.rowAfter bundle.ports s₁.vlanSettings o.hw.firstFailure p v := by
  have hportOid := vlanReconfigure_portOid hfail
  have hb₁ : o₁.bundles.lookup b = some bundle := by
    rw [vlanReconfigure_failed hfail h0, hb]
  have hin : some oid ∈ bundle.ports.map o₁.portOid := by
    rw [hportOid]
    exact List.mem_map.mpr ⟨p, hp, hoid⟩
  rw [vlanReconfigure_row hb₁ hold hnew₂ (List.nodup_iff_count_le_one.mp (hportOid ▸ hd) _) hrun,
    vlanReconfigure_stopped hb hold hnew₁ hd hp hoid hrow hfail h0]
  simp only [hin, true_and]

/-- **What a reconfiguration that has failed leaves behind.** After a call that has failed, a call
that succeeds gives the ports the rows that its settings ask for exactly if it touches every VLAN
that the first calls of the one that failed have changed on some port. -/
theorem vlanReconfigure_recovers_iff (hb : o.bundles.lookup b = some bundle)
    (hold : bundle.vlanSettings.WF) (hnew₁ : s₁.vlanSettings.WF) (hnew₂ : s₂.vlanSettings.WF)
    (hd : (bundle.ports.map o.portOid).Nodup)
    (hrows : ∀ oid, some oid ∈ bundle.ports.map o.portOid →
      o.vlanRow oid = bundle.vlanSettings.spec)
    (hfail : vlanReconfigure b s₁ o = .ok (st, o₁)) (h0 : st ≠ 0)
    (hrun : vlanReconfigure b s₂ o₁ = .ok (0, o₂)) :
    (∀ oid, some oid ∈ bundle.ports.map o.portOid → o₂.vlanRow oid = s₂.vlanSettings.spec) ↔
      ∀ p ∈ bundle.ports, ∀ v,
        bundle.vlanSettings.rowAfter bundle.ports s₁.vlanSettings o.hw.firstFailure p v ≠
          bundle.vlanSettings.spec v →
        bundle.vlanSettings.Touches s₂.vlanSettings v := by
  have hafter := fun {p oid} (hp : p ∈ bundle.ports) (hoid : o.portOid p = some oid) =>
    vlanReconfigure_afterFailure hb hold hnew₁ hnew₂ hd hp hoid
      (hrows oid (List.mem_map.mpr ⟨p, hp, hoid⟩)) hfail h0 hrun
  constructor
  · intro hspec p hp v hne
    obtain ⟨oid, hoid⟩ := vlanReconfigure_found (vlanReconfigure_failed hfail h0 ▸ hb) hrun hp
    rw [vlanReconfigure_portOid hfail] at hoid
    by_contra ht
    have hv := hafter hp hoid v
    rw [if_neg ht, hspec oid (List.mem_map.mpr ⟨p, hp, hoid⟩)] at hv
    rw [← hv, VlanSettings.spec_of_not_touches ht] at hne
    exact hne rfl
  · intro htouches oid hin
    obtain ⟨p, hp, hoid⟩ := List.mem_map.mp hin
    funext v
    rw [hafter hp hoid v]
    by_cases ht : bundle.vlanSettings.Touches s₂.vlanSettings v
    · rw [if_pos ht]
    · rw [if_neg ht, not_not.mp fun hne => ht (htouches p hp v hne),
        VlanSettings.spec_of_not_touches ht]

/-- Asking for the same settings again completes a reconfiguration that has failed. -/
theorem vlanReconfigure_retry (hb : o.bundles.lookup b = some bundle)
    (hold : bundle.vlanSettings.WF) (hnew : s.vlanSettings.WF)
    (hd : (bundle.ports.map o.portOid).Nodup)
    (hrows : ∀ oid, some oid ∈ bundle.ports.map o.portOid →
      o.vlanRow oid = bundle.vlanSettings.spec)
    (hfail : vlanReconfigure b s o = .ok (st, o₁)) (h0 : st ≠ 0)
    (hrun : vlanReconfigure b s o₁ = .ok (0, o₂)) {oid : Nat}
    (hin : some oid ∈ bundle.ports.map o.portOid) : o₂.vlanRow oid = s.vlanSettings.spec := by
  obtain ⟨p, hp, hoid⟩ := List.mem_map.mp hin
  funext v
  rw [vlanReconfigure_afterFailure hb hold hnew hnew hd hp hoid (hrows oid hin) hfail h0 hrun]
  by_cases ht : bundle.vlanSettings.Touches s.vlanSettings v
  · rw [if_pos ht]
  · rw [if_neg ht, VlanSettings.rowAfter_of_not_touches hold hnew ht,
      VlanSettings.spec_of_not_touches ht]

end

/-! ### Examples -/

/-- Trunks for port 1. -/
def trunkSettings (trunks : Option VlanBitmap) : OfprotoBundleSettings :=
  { accessSettings (-1) with vlanMode := .trunk, trunks := trunks }

/-- A bundle of port 1 without trunks. -/
def trunkBundle : OfbundleSai :=
  { OfbundleSai.alloc 1 none with vlanMode := .trunk, vlan := -1, ports := [1] }

/-- An ofproto with that bundle; the second hardware call to come fails. -/
def trunkOfproto : OfprotoSai :=
  (OfprotoSai.new .system 0 samplePorts
    { Hw.reset with outcomes := [.success, .failure] }).setBundle 1 trunkBundle

def trunks56 : Option VlanBitmap := some ((VlanBitmap.set1 0 5).set1 6)

theorem trunkOfproto_rows : ∀ oid, some oid ∈ trunkBundle.ports.map trunkOfproto.portOid →
    trunkOfproto.vlanRow oid = trunkBundle.vlanSettings.spec := by
  intro oid _
  funext v
  have hnone : trunkBundle.vlanSettings.spec v = none := by
    simp [VlanSettings.spec, VlanSettings.hasTrunk, OfbundleSai.vlanSettings, trunkBundle,
      OfbundleSai.alloc]
  rw [hnone]
  rfl

/-- A call with the trunks fails, and one that asks for them again or for none succeeds. -/
theorem trunkOfproto_runs :
    ∃ o₁ o₂ o₃, vlanReconfigure 1 (trunkSettings trunks56) trunkOfproto = .ok (-1, o₁) ∧
      vlanReconfigure 1 (trunkSettings trunks56) o₁ = .ok (0, o₂) ∧
      vlanReconfigure 1 (trunkSettings none) o₁ = .ok (0, o₃) ∧
      o₃.vlanRow 1 5 = some .tagged := by
  -- both calls are evaluated on the state that the failed one leaves
  obtain ⟨o, hrun⟩ := result_eq_some.mp (show result (do
    let st ← vlanReconfigure 1 (trunkSettings trunks56)
    let again ← gets (result (vlanReconfigure 1 (trunkSettings trunks56)))
    let back ← gets (result (do
      let st ← vlanReconfigure 1 (trunkSettings none)
      let mode ← gets fun o => o.vlanRow 1 5
      pure (st, mode)))
    pure (st, again, back)) trunkOfproto =
      some (-1, some 0, some (0, some .tagged)) by decide +kernel)
  obtain ⟨st, o₁, hfail, hrun⟩ := bind_ok.mp hrun
  rw [gets_bind, gets_bind, pure_apply] at hrun
  simp only [Except.ok.injEq, Prod.mk.injEq] at hrun
  obtain ⟨⟨rfl, hagain, hback⟩, rfl⟩ := hrun
  obtain ⟨o₂, hagain⟩ := result_eq_some.mp hagain
  obtain ⟨o', hback⟩ := result_eq_some.mp hback
  obtain ⟨st₂, o₃, hnone, hend⟩ := bind_ok.mp hback
  rw [gets_bind, pure_apply] at hend
  simp only [Except.ok.injEq, Prod.mk.injEq] at hend
  obtain ⟨⟨rfl, hmode⟩, rfl⟩ := hend
  exact ⟨_, o₂, _, hfail, hagain, hnone, hmode⟩

/-- Port 1 joins VLAN 5 and not VLAN 6, and the next call joins it to both. -/
theorem vlanReconfigure_recovers_iff_retry :
    ∃ st o₁ o₂, vlanReconfigure 1 (trunkSettings trunks56) trunkOfproto = .ok (st, o₁) ∧ st ≠ 0 ∧
      vlanReconfigure 1 (trunkSettings trunks56) o₁ = .ok (0, o₂) ∧
      o₂.vlanRow 1 = (trunkSettings trunks56).vlanSettings.spec := by
  obtain ⟨o₁, o₂, -, hfail, hagain, -⟩ := trunkOfproto_runs
  have hold : trunkBundle.vlanSettings.WF := rfl
  have hnew : (trunkSettings trunks56).vlanSettings.WF := rfl
  have hb : trunkOfproto.bundles.lookup 1 = some trunkBundle := rfl
  have h := vlanReconfigure_recovers_iff hb hold hnew hnew (by decide) trunkOfproto_rows hfail
    (by decide) hagain
  refine ⟨-1, o₁, o₂, hfail, by decide, hagain, h.mpr ?_ 1 (by decide)⟩
  intro p _ v hne
  exact not_not.mp fun ht => hne (VlanSettings.rowAfter_of_not_touches hold hnew ht _ _ _)

/-- The settings that are recorded are asked for again, and port 1 stays in VLAN 5. -/
theorem vlanReconfigure_leaks :
    trunkOfproto.bundles.lookup 1 = some trunkBundle ∧ trunkBundle.vlanSettings.WF ∧
      (trunkSettings trunks56).vlanSettings.WF ∧
      (trunkSettings none).vlanSettings = trunkBundle.vlanSettings ∧
      trunkBundle.ports.map trunkOfproto.portOid = [some 1] ∧
      trunkOfproto.vlanRow 1 = trunkBundle.vlanSettings.spec ∧
      ∃ st o₁ o₂, vlanReconfigure 1 (trunkSettings trunks56) trunkOfproto = .ok (st, o₁) ∧ st ≠ 0 ∧
        vlanReconfigure 1 (trunkSettings none) o₁ = .ok (0, o₂) ∧
        o₂.vlanRow 1 5 = some .tagged ∧ (trunkSettings none).vlanSettings.spec 5 = none := by
  obtain ⟨o₁, -, o₃, hfail, -, hback, hmode⟩ := trunkOfproto_runs
  have hnone : (trunkSettings none).vlanSettings.spec 5 = none := by
    simp [VlanSettings.spec, VlanSettings.hasTrunk, OfprotoBundleSettings.vlanSettings,
      trunkSettings]
  exact ⟨rfl, rfl, rfl, rfl, by decide, trunkOfproto_rows 1 (by decide), -1, o₁, o₃, hfail,
    by decide, hback, hmode, hnone⟩

end SwitchdSai
