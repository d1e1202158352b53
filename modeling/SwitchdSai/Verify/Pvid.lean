import SwitchdSai.Verify.Links
import SwitchdSai.Verify.PortAdd
import SwitchdSai.Verify.VlanFailure

/-!
# The PVID of the ports of a bundle

Only the last call that writes the PVID of a port counts. A port that leaves a trunk gets the trunk
as its PVID, so that a reconfiguration leaves the PVID of the new settings when their own VLAN is
joined afterwards or no trunk is left, and a port that is removed from a bundle with trunks gets the
greatest of them.
-/

namespace SwitchdSai

open Exec OfprotoSai

/-- The PVID that the settings ask for. -/
def VlanSettings.pvid (s : VlanSettings) : Nat :=
  if s.vlanMode = .trunk then OPS_SAI_PORT_DEFAULT_PVID else s.vlan.toNat

namespace VlanCall

theorem foldl_setPvid_leave (trunks : List Nat) (n : Nat) :
    (trunks.flatMap fun v => portSetCalls v .tagged false).foldl (fun n c => c.setPvid n) n =
      trunks.getLast?.getD n := by
  induction trunks generalizing n with
  | nil => rfl
  | cons v trunks ih =>
    rw [List.flatMap_cons, List.foldl_append, ih, List.getLast?_cons]
    rfl

theorem foldl_setPvid_join (trunks : List Nat) (n : Nat) :
    (trunks.flatMap fun v => portSetCalls v .tagged true).foldl (fun n c => c.setPvid n) n = n := by
  induction trunks generalizing n with
  | nil => rfl
  | cons v trunks ih =>
    rw [List.flatMap_cons, List.foldl_append, ih]
    rfl

end VlanCall

/-! ## Reconfiguring -/

namespace VlanSettings

variable {old new : VlanSettings}

/-- The PVID of a port after a reconfiguration. -/
theorem foldl_setPvid (old new : VlanSettings) (n : Nat) :
    (old.leaveCalls new ++ old.joinCalls new).foldl (fun n c => c.setPvid n) n =
      if new.vlanMode ≠ .trunk ∧ old.Changed new then new.vlan.toNat
      else (old.leftTrunks new).getLast?.getD
        (if old.vlanMode ≠ .trunk ∧ old.Changed new then OPS_SAI_PORT_DEFAULT_PVID else n) := by
  have hleave : (old.leaveCalls new).foldl (fun n c => c.setPvid n) n =
      (old.leftTrunks new).getLast?.getD
        (if old.vlanMode ≠ .trunk ∧ old.Changed new then OPS_SAI_PORT_DEFAULT_PVID else n) := by
    rw [leaveCalls, List.foldl_append, VlanCall.foldl_setPvid_leave]
    split <;> rfl
  rw [List.foldl_append, hleave, joinCalls, List.foldl_append, VlanCall.foldl_setPvid_join]
  by_cases hown : new.vlanMode ≠ .trunk ∧ old.Changed new
  · rw [if_pos hown, if_pos hown]
    rfl
  · rw [if_neg hown, if_neg hown]
    rfl

/-- The last call that writes the PVID writes that of the new settings: no trunk is left, or the
VLAN of the new settings is joined afterwards, or there is none and the last trunk that is left is
the default PVID. -/
def PvidKept (old new : VlanSettings) : Prop :=
  old.leftTrunks new = [] ∨
    if new.vlanMode = .trunk then
      (old.leftTrunks new).getLast? = some OPS_SAI_PORT_DEFAULT_PVID
    else old.Changed new

theorem foldl_setPvid_iff (hold : old.WF) :
    (old.leaveCalls new ++ old.joinCalls new).foldl (fun n c => c.setPvid n) old.pvid = new.pvid ↔
      old.PvidKept new := by
  rw [foldl_setPvid]
  unfold PvidKept
  by_cases hm : new.vlanMode = .trunk
  · have hstart : (if old.vlanMode ≠ .trunk ∧ old.Changed new then OPS_SAI_PORT_DEFAULT_PVID
        else old.pvid) = OPS_SAI_PORT_DEFAULT_PVID := by
      by_cases ho : old.vlanMode = .trunk
      · rw [if_neg fun h => h.1 ho, pvid, if_pos ho]
      · have hchanged : old.Changed new := .inr fun h => ho (h.trans hm)
        rw [if_pos ⟨ho, hchanged⟩]
    rw [if_neg fun h => h.1 hm, if_pos hm, hstart, pvid, if_pos hm]
    cases hlast : (old.leftTrunks new).getLast? with
    | none => simp [List.getLast?_eq_none_iff.mp hlast]
    | some v =>
      have hne : old.leftTrunks new ≠ [] := by
        rintro h
        rw [h] at hlast
        cases hlast
      simp [hne]
  · rw [if_neg hm]
    by_cases hchanged : old.Changed new
    · rw [if_pos ⟨hm, hchanged⟩, pvid, if_neg hm]
      exact iff_of_true rfl (.inr hchanged)
    · -- no other write follows the trunks that are left, and none of them is the VLAN of the mode
      have hsame : old.vlan = new.vlan ∧ old.vlanMode = new.vlanMode := by
        simpa only [Changed, not_or, not_not] using hchanged
      have hmo : old.vlanMode ≠ .trunk := hsame.2 ▸ hm
      rw [if_neg fun h => hchanged h.2, if_neg fun h => hchanged h.2, pvid, if_neg hmo, pvid,
        if_neg hm, hsame.1, or_iff_left hchanged]
      cases hlast : (old.leftTrunks new).getLast? with
      | none => simp [List.getLast?_eq_none_iff.mp hlast]
      | some v =>
        obtain ⟨-, -, hown⟩ := mem_leftTrunks.mp (List.mem_of_getLast? hlast)
        have hr := hold.range hmo
        have hv : v ≠ new.vlan.toNat := fun hv => hown ⟨hmo, by omega⟩
        have hne : old.leftTrunks new ≠ [] := by
          rintro h
          rw [h] at hlast
          cases hlast
        simp [hne, hv]

end VlanSettings

section
variable {o o' : OfprotoSai} {b : BundlePtr} {bundle : OfbundleSai} {s : OfprotoBundleSettings}

/-- **The PVID after a reconfiguration.** If the ports of a bundle have the PVID that its settings
ask for and `__vlan_reconfigure` succeeds, they have the one that the new settings ask for exactly
if there are no ports or the last write is right. -/
theorem vlanReconfigure_pvid_iff (hb : o.bundles.lookup b = some bundle)
    (hold : bundle.vlanSettings.WF) (hnew : s.vlanSettings.WF)
    (hd : (bundle.ports.map o.portOid).Nodup)
    (hpvids : ∀ oid, some oid ∈ bundle.ports.map o.portOid →
      (o.hw.ports oid).portVlanId = bundle.vlanSettings.pvid)
    (hrun : vlanReconfigure b s o = .ok (0, o')) :
    (∀ oid, some oid ∈ bundle.ports.map o.portOid →
      (o'.hw.ports oid).portVlanId = s.vlanSettings.pvid) ↔
      bundle.ports = [] ∨ bundle.vlanSettings.PvidKept s.vlanSettings := by
  have hafter : ∀ {p oid}, p ∈ bundle.ports → o.portOid p = some oid →
      ((o'.hw.ports oid).portVlanId = s.vlanSettings.pvid ↔
        bundle.vlanSettings.PvidKept s.vlanSettings) := by
    intro p oid hp hoid
    have hport := vlanReconfigure_portVlans hb hold hnew hd hp hoid hrun
    rw [VlanCall.foldl_act] at hport
    have hpvid : (o'.hw.ports oid).portVlanId = _ := congrArg PortVlans.pvid hport
    rw [hpvid, show (o.portVlans oid).pvid = bundle.vlanSettings.pvid from
      hpvids oid (List.mem_map.mpr ⟨p, hp, hoid⟩)]
    exact VlanSettings.foldl_setPvid_iff hold
  constructor
  · intro hspec
    cases hports : bundle.ports with
    | nil => exact .inl rfl
    | cons p ports =>
      have hp : p ∈ bundle.ports := hports ▸ List.mem_cons_self
      obtain ⟨oid, hoid⟩ := vlanReconfigure_found hb hrun hp
      exact .inr ((hafter hp hoid).mp (hspec oid (List.mem_map.mpr ⟨p, hp, hoid⟩)))
  · rintro (hnone | hkept) oid hin
    · rw [hnone] at hin
      cases hin
    · obtain ⟨p, hp, hoid⟩ := List.mem_map.mp hin
      exact (hafter hp hoid).mpr hkept

end

/-! ## Adding and removing a port -/

/-- The calls of `__ofbundle_port_add`. -/
def VlanSettings.addCalls (s : VlanSettings) : List VlanCall :=
  (if s.vlan ≠ -1 then portSetCalls (saiVlanId s.vlan) .untagged true else []) ++
    (s.trunks.getD 0).ones.flatMap fun v => portSetCalls v .tagged true

/-- The calls of `__ofbundle_port_del`. -/
def VlanSettings.delCalls (s : VlanSettings) : List VlanCall :=
  (if s.vlan ≠ -1 then ownLeaveCalls (saiVlanId s.vlan) else []) ++
    (s.trunks.getD 0).ones.flatMap fun v => portSetCalls v .tagged false

section
variable {hwId : Nat}

theorem trunks_plays (trunks : Option VlanBitmap) (hwId : Nat) (add : Bool) :
    (portApi hwId).Plays ((trunks.getD 0).ones.flatMap fun v => portSetCalls v .tagged add)
      (match trunks with
        | some trunks => trunksPortSet trunks hwId add
        | none => pure 0) := by
  cases trunks with
  | some trunks => exact trunksPortSet_plays trunks hwId add
  | none =>
    rw [show (none : Option VlanBitmap).getD 0 = 0 from rfl, ones_zero]
    exact .pure

theorem portVlansJoin_plays (bundle : OfbundleSai) (hwId : Nat) :
    (portApi hwId).Plays bundle.vlanSettings.addCalls (portVlansJoin bundle hwId) := by
  have hown := accessPortAdd_plays (saiVlanId bundle.vlan) hwId
  exact (hown.ite .pure).thenOk (trunks_plays bundle.trunks hwId true)

theorem portVlansLeave_plays (bundle : OfbundleSai) (hwId : Nat) :
    (portApi hwId).Plays bundle.vlanSettings.delCalls (portVlansLeave bundle hwId) := by
  have hown := accessPortDel_plays (saiVlanId bundle.vlan) hwId
  exact (hown.ite .pure).thenOk (trunks_plays bundle.trunks hwId false)

end

namespace VlanSettings

variable {s : VlanSettings}

/-- A port that is added and removed is in no VLAN. -/
theorem foldl_setRow_addDel (s : VlanSettings) :
    (s.addCalls ++ s.delCalls).foldl (fun row c => c.setRow row) (fun _ => none) =
      fun _ => none := by
  have hdel : ∀ {v mode}, .member v mode ∈ s.delCalls → mode = none := by
    intro v mode h
    rcases List.mem_append.mp h with h | h
    · split at h
      · have hown : v = saiVlanId s.vlan ∧ mode = none := by simpa [ownLeaveCalls] using h
        exact hown.2
      · cases h
    · obtain ⟨vid, -, h⟩ := List.mem_flatMap.mp h
      exact (mem_portSetCalls.mp h).2
  have hboth : ∀ {v mode}, .member v mode ∈ s.addCalls → .member v none ∈ s.delCalls := by
    intro v mode h
    rcases List.mem_append.mp h with h | h
    · split at h
      next hv =>
        obtain ⟨rfl, -⟩ := mem_portSetCalls.mp h
        refine List.mem_append_left _ ?_
        rw [if_pos hv]
        exact List.mem_cons_self
      next => cases h
    · obtain ⟨vid, hvid, h⟩ := List.mem_flatMap.mp h
      obtain ⟨rfl, -⟩ := mem_portSetCalls.mp h
      exact List.mem_append_right _ (List.mem_flatMap.mpr ⟨v, hvid, List.mem_cons_self⟩)
  funext v
  rw [List.foldl_append]
  refine VlanCall.foldl_setRow_none (fun _ => hdel) ?_
  by_cases hv : .member v none ∈ s.delCalls
  · exact .inr hv
  · exact .inl (VlanCall.foldl_setRow_apply fun mode hmem => hv (hboth hmem))

/-- The PVID of a port that is added and removed. -/
theorem foldl_setPvid_addDel (s : VlanSettings) :
    (s.addCalls ++ s.delCalls).foldl (fun n c => c.setPvid n) OPS_SAI_PORT_DEFAULT_PVID =
      (s.trunks.getD 0).ones.getLast?.getD OPS_SAI_PORT_DEFAULT_PVID := by
  rw [addCalls, delCalls, List.foldl_append, List.foldl_append, List.foldl_append,
    VlanCall.foldl_setPvid_join, VlanCall.foldl_setPvid_leave]
  split <;> rfl

end VlanSettings

/-- A port that is in no bundle. -/
def OfprotoSai.InNoBundle (o : OfprotoSai) (p : OfpPort) : Prop :=
  o.links.owner p = none ∧ ∀ b ports, o.links.members b = some ports → p ∉ ports

section
variable [OvsLib] [Build] {o o₁ o₂ : OfprotoSai} {p : OfpPort} {b : BundlePtr}

/-- Adding and removing a port that is in no bundle restores the links, and its VLANs are joined and
left. -/
theorem ofbundlePortAdd_Del_ok {port : OfportSai} {bundle : OfbundleSai}
    (hp : o.ofports p = some port) (htype : port.netdev.type = .system)
    (hfree : o.InNoBundle p) (hb : o.bundles.lookup b = some bundle)
    (hadd : ofbundlePortAdd b (some p) o = .ok (0, o₁))
    (hdel : ofbundlePortDel p o₁ = .ok (0, o₂)) :
    o₂.links = o.links ∧ ∃ hw,
      portVlansJoin bundle port.netdev.netdevSaiHwIdGet o.hw = .ok (0, hw) ∧
      portVlansLeave bundle port.netdev.netdevSaiHwIdGet hw = .ok (0, o₂.hw) := by
  have hnone : port.bundle = none := (links_owner hp).symm.trans hfree.1
  obtain ⟨bundle₁, hw, hb₁, hjoin, rfl⟩ := ofbundlePortAdd_unbundled hp hnone hadd
  obtain rfl : bundle₁ = bundle := Option.some.inj (hb₁.symm.trans hb)
  have hattach : (attachPort p port b bundle₁ { o with hw := hw }).links =
      o.links.attach p b := attachPort_links (o := { o with hw := hw }) hb
  obtain ⟨b₁, howner, hdetach⟩ := ofbundlePortDel_links hdel
  rw [hattach, Links.attach_owner, if_pos rfl] at howner
  obtain rfl : b = b₁ := Option.some.inj howner
  have hlinks : o₂.links = o.links := by
    rw [hdetach, hattach]
    exact Links.detach_attach hfree.1 fun ports => hfree.2 b ports
  obtain ⟨port₂, b₂, bundle₂, hw₂, hp₂, hb₂, hlookup, hleave, rfl⟩ := ofbundlePortDel_ok hdel
  rw [OfprotoSai.attachPort, setBundle_ofports, setPort_ofports, if_pos rfl] at hp₂
  obtain rfl := Option.some.inj hp₂
  obtain rfl : b = b₂ := Option.some.inj hb₂
  rw [OfprotoSai.attachPort, setBundle_lookup, if_pos rfl] at hlookup
  obtain rfl := Option.some.inj hlookup
  rw [if_pos htype] at hjoin hleave
  exact ⟨hlinks, hw, hjoin, hleave⟩

/-- **Removing a port undoes adding it.** A system port that is in no bundle and in no VLAN and has
the default PVID is so again after it has been added to a bundle and removed from it, and the VLANs
of the other ports have not changed, exactly if the greatest trunk of the bundle, if there is one,
is the default PVID. -/
theorem ofbundlePortAdd_Del_iff {port : OfportSai} {bundle : OfbundleSai} {oid : Nat}
    (hp : o.ofports p = some port) (htype : port.netdev.type = .system)
    (hfree : o.InNoBundle p) (hb : o.bundles.lookup b = some bundle)
    (hoid : o.portOid p = some oid) (hrow : o.vlanRow oid = fun _ => none)
    (hpvid : (o.hw.ports oid).portVlanId = OPS_SAI_PORT_DEFAULT_PVID)
    (hadd : ofbundlePortAdd b (some p) o = .ok (0, o₁))
    (hdel : ofbundlePortDel p o₁ = .ok (0, o₂)) :
    (o₂.InNoBundle p ∧ o₂.vlanRow oid = (fun _ => none) ∧
      (o₂.hw.ports oid).portVlanId = OPS_SAI_PORT_DEFAULT_PVID ∧
      ∀ oid', oid' ≠ oid → o₂.portVlans oid' = o.portVlans oid') ↔
      ∀ v ∈ (bundle.trunks.getD 0).ones.getLast?, v = OPS_SAI_PORT_DEFAULT_PVID := by
  obtain ⟨hlinks, hw, hjoin, hleave⟩ := ofbundlePortAdd_Del_ok hp htype hfree hb hadd hdel
  have hplays := (portVlansJoin_plays bundle port.netdev.netdevSaiHwIdGet).thenOk
    (portVlansLeave_plays bundle port.netdev.netdevSaiHwIdGet)
  have hrun := thenOk_zero.mpr ⟨hw, hjoin, hleave⟩
  have hdone := ((hplays _ _ _ hrun).resolve_right fun h => h.1 rfl).2
  have hhwId : o.hw.opsSaiApiHwId2PortId port.netdev.netdevSaiHwIdGet = oid := by
    rw [OfprotoSai.portOid, hp] at hoid
    exact Option.some.inj hoid
  have hports : o₂.portVlans = applyAt oid (fun v =>
      (bundle.vlanSettings.addCalls ++ bundle.vlanSettings.delCalls).foldl (fun v c => c.act v) v)
        o.portVlans := by
    rw [← hhwId]
    exact congrArg PortTable.ports (hdone.view.trans (portApi_play ..))
  have hvlans : o.portVlans oid = ⟨fun _ => none, OPS_SAI_PORT_DEFAULT_PVID⟩ := by
    show PortVlans.mk (o.hw.ports oid).vlans (o.hw.ports oid).portVlanId = _
    rw [hpvid, show (o.hw.ports oid).vlans = _ from hrow]
  have hself : o₂.portVlans oid = ⟨fun _ => none,
      (bundle.trunks.getD 0).ones.getLast?.getD OPS_SAI_PORT_DEFAULT_PVID⟩ := by
    rw [hports, applyAt_self, hvlans, VlanCall.foldl_act, VlanSettings.foldl_setRow_addDel,
      VlanSettings.foldl_setPvid_addDel]
    rfl
  have hothers : ∀ oid', oid' ≠ oid → o₂.portVlans oid' = o.portVlans oid' := by
    intro oid' hne
    rw [hports]
    exact applyAt_of_ne hne
  have hfree₂ : o₂.InNoBundle p := by
    unfold OfprotoSai.InNoBundle
    rw [hlinks]
    exact hfree
  have hpvid₂ : (o₂.hw.ports oid).portVlanId = _ := congrArg PortVlans.pvid hself
  rw [hpvid₂]
  constructor
  · rintro ⟨-, -, hlast, -⟩ v hv
    rwa [Option.mem_def.mp hv] at hlast
  · intro hlast
    refine ⟨hfree₂, congrArg PortVlans.row hself, ?_, hothers⟩
    cases hv : (bundle.trunks.getD 0).ones.getLast? with
    | none => rfl
    | some v => exact hlast v hv

end

/-! ### Examples -/

/-- Port 1 moves from VLAN 1 to VLAN 2 and gets the PVID 2. -/
theorem vlanReconfigure_pvid_iff_access :
    ∃ o', vlanReconfigure 1 (accessSettings 2) accessOfproto = .ok (0, o') ∧
      (o'.hw.ports 0).portVlanId = (accessSettings 2).vlanSettings.pvid := by
  obtain ⟨o', hrun⟩ := result_eq_some.mp
    (show result (vlanReconfigure 1 (accessSettings 2)) accessOfproto = some 0 by decide)
  have hold : accessBundle.vlanSettings.WF := ⟨by decide, by decide, rfl⟩
  have hnew : (accessSettings 2).vlanSettings.WF := ⟨by decide, by decide, rfl⟩
  have hports : accessBundle.ports.map accessOfproto.portOid = [some 0] := by decide
  have hpvids : ∀ oid, some oid ∈ accessBundle.ports.map accessOfproto.portOid →
      (accessOfproto.hw.ports oid).portVlanId = accessBundle.vlanSettings.pvid := by
    intro oid hin
    rw [hports] at hin
    cases Option.some.inj (List.mem_singleton.mp hin)
    decide
  have hb : accessOfproto.bundles.lookup 1 = some accessBundle := rfl
  have h := vlanReconfigure_pvid_iff hb hold hnew (by rw [hports]; decide) hpvids hrun
  have hkept : accessBundle.vlanSettings.PvidKept (accessSettings 2).vlanSettings := by
    refine .inr ?_
    rw [if_neg (by decide)]
    exact .inl (by decide)
  exact ⟨o', hrun, h.mpr (.inr hkept) 0 (by rw [hports]; decide)⟩

section
attribute [local instance] sampleOvs sampleBuild

/-- A bundle in trunk mode with the trunk 5. -/
def trunk5Bundle (ports : List OfpPort) : OfbundleSai :=
  { OfbundleSai.alloc 1 (some (.set1 0 5)) with vlanMode := .trunk, vlan := -1, ports := ports }

/-- Port 1 leaves trunk 5 and gets the PVID 5. -/
theorem vlanReconfigure_pvid_trunk :
    (bundleOfproto (trunk5Bundle [1])).bundles.lookup 1 = some (trunk5Bundle [1]) ∧
      (trunk5Bundle [1]).vlanSettings.WF ∧ (trunkSettings none).vlanSettings.WF ∧
      (trunk5Bundle [1]).ports.map (bundleOfproto (trunk5Bundle [1])).portOid = [some 1] ∧
      ((bundleOfproto (trunk5Bundle [1])).hw.ports 1).portVlanId =
        (trunk5Bundle [1]).vlanSettings.pvid ∧
      ∃ o', vlanReconfigure 1 (trunkSettings none) (bundleOfproto (trunk5Bundle [1])) =
          .ok (0, o') ∧
        (o'.hw.ports 1).portVlanId = 5 ∧ (trunkSettings none).vlanSettings.pvid = 1 := by
  obtain ⟨o', hrun⟩ := result_eq_some.mp (show result (do
    let st ← vlanReconfigure 1 (trunkSettings none)
    let pvid ← gets fun o => (o.hw.ports 1).portVlanId
    pure (st, pvid)) (bundleOfproto (trunk5Bundle [1])) = some (0, 5) by decide +kernel)
  obtain ⟨st, o₁, hset, hend⟩ := bind_ok.mp hrun
  rw [gets_bind, pure_apply] at hend
  simp only [Except.ok.injEq, Prod.mk.injEq] at hend
  obtain ⟨⟨rfl, hpvid⟩, rfl⟩ := hend
  exact ⟨rfl, rfl, rfl, by decide, rfl, o₁, hset, hpvid, rfl⟩

theorem bundleOfproto_free {bundle : OfbundleSai} (h : bundle.ports = []) :
    (bundleOfproto bundle).InNoBundle 1 := by
  refine ⟨rfl, fun b ports hb => ?_⟩
  rw [bundleOfproto, setBundle_links] at hb
  by_cases hb1 : b = 1
  · subst hb1
    obtain rfl : bundle.ports = ports := Option.some.inj hb
    rw [h]
    exact List.not_mem_nil
  · cases (Function.update_of_ne hb1 ..).symm.trans hb

/-- Port 1 is added to a bundle in access mode and removed from it. -/
theorem ofbundlePortAdd_Del_iff_access :
    ∃ o₁ o₂, ofbundlePortAdd 1 (some 1) (bundleOfproto (.alloc 1 none)) = .ok (0, o₁) ∧
      ofbundlePortDel 1 o₁ = .ok (0, o₂) ∧
      o₂.InNoBundle 1 ∧ o₂.vlanRow 1 = (fun _ => none) ∧
      (o₂.hw.ports 1).portVlanId = OPS_SAI_PORT_DEFAULT_PVID := by
  obtain ⟨o₂, hrun⟩ := result_eq_some.mp (show result (do
    let st₁ ← ofbundlePortAdd 1 (some 1)
    let st₂ ← ofbundlePortDel 1
    pure (st₁, st₂)) (bundleOfproto (.alloc 1 none)) = some (0, 0) by decide)
  obtain ⟨st, o₁, hadd, hrun⟩ := bind_ok.mp hrun
  obtain ⟨st₂, o₃, hdel, hend⟩ := bind_ok.mp hrun
  cases hend
  have hp : (bundleOfproto (.alloc 1 none)).ofports 1 = some (samplePort .system 1) := rfl
  have h := ofbundlePortAdd_Del_iff hp rfl (bundleOfproto_free rfl) rfl rfl rfl rfl
    hadd hdel
  obtain ⟨hfree, hrow, hpvid, -⟩ := h.mpr fun v hv => by
    rw [show ((OfbundleSai.alloc 1 none).trunks.getD 0).ones = [] from ones_zero] at hv
    cases hv
  exact ⟨o₁, o₂, hadd, hdel, hfree, hrow, hpvid⟩

/-- Port 1 is added to a bundle with the trunk 5 and removed from it, and has the PVID 5. -/
theorem ofbundlePortAdd_Del_trunk :
    (samplePort .system 1).netdev.type = .system ∧ (trunk5Bundle []).vlanSettings.WF ∧
      (bundleOfproto (trunk5Bundle [])).InNoBundle 1 ∧
      (bundleOfproto (trunk5Bundle [])).vlanRow 1 = (fun _ => none) ∧
      ((bundleOfproto (trunk5Bundle [])).hw.ports 1).portVlanId = OPS_SAI_PORT_DEFAULT_PVID ∧
      ∃ o₁ o₂, ofbundlePortAdd 1 (some 1) (bundleOfproto (trunk5Bundle [])) = .ok (0, o₁) ∧
        ofbundlePortDel 1 o₁ = .ok (0, o₂) ∧
        (o₂.hw.ports 1).portVlanId = 5 ∧ OPS_SAI_PORT_DEFAULT_PVID ≠ 5 := by
  obtain ⟨o', hrun⟩ := result_eq_some.mp (show result (do
    let st₁ ← ofbundlePortAdd 1 (some 1)
    let st₂ ← ofbundlePortDel 1
    let pvid ← gets fun o => (o.hw.ports 1).portVlanId
    pure (st₁, st₂, pvid)) (bundleOfproto (trunk5Bundle [])) = some (0, 0, 5) by decide +kernel)
  obtain ⟨st, o₁, hadd, hrun⟩ := bind_ok.mp hrun
  obtain ⟨st₂, o₂, hdel, hend⟩ := bind_ok.mp hrun
  rw [gets_bind, pure_apply] at hend
  simp only [Except.ok.injEq, Prod.mk.injEq] at hend
  obtain ⟨⟨rfl, rfl, hpvid⟩, rfl⟩ := hend
  exact ⟨rfl, rfl, bundleOfproto_free rfl, rfl, rfl, o₁, o₂, hadd, hdel, hpvid, by decide⟩

end

end SwitchdSai
