import SwitchdSai.Verify.RifMirror
import SwitchdSai.Verify.Slaves
import SwitchdSai.Verify.WillingRuns

/-!
# Bundles find their router interfaces

The router interface code keeps the table `all_router_intf` next to the SDK and asserts that it
finds the interfaces it is asked for there. `RifsFound` relates the table and the interfaces of the
bundles; the functions on bundles keep it, whatever calls into the hardware fail
(`ofbundleRouterIntfReconfigure_rifsFound`, `ofbundleDestroy_rifsFound`).
-/

namespace SwitchdSai

open Exec OfprotoSai

/-! ## The table of router interfaces -/

section
variable {hw hw' : Hw} {st : Int} {vrid handle rif rifHandle : Nat} {type : RouterIntfType}

theorem opsSaiRouterIntfCreate_entries
    (h : opsSaiRouterIntfCreate vrid type handle rifHandle hw = .ok ((st, rif), hw')) :
    (st ≠ 0 ∧ hw'.allRouterIntf = hw.allRouterIntf) ∨ (st = 0 ∧ rif ∉ hw.routerIntfs ∧
      ∃ counter, hw'.allRouterIntf = ⟨rif, counter, type, handle⟩ :: hw.allRouterIntf) := by
  rcases opsSaiRouterIntfCreate_cases h with ⟨h0, -, htables⟩ | ⟨h0, -, -, -, r, -, -, hentries⟩ |
    ⟨rfl, -, -, hfresh, counter, -, htables⟩
  · exact .inl ⟨h0, congrArg RifTables.allRouterIntf htables⟩
  · exact .inl ⟨h0, hentries⟩
  · exact .inr ⟨rfl, hfresh, counter, congrArg RifTables.allRouterIntf htables⟩

theorem callIf_entries {valid : Hw → Bool} {effect : Hw → Hw}
    (h : ∀ hw, (effect hw).allRouterIntf = hw.allRouterIntf) :
    Frame Hw.allRouterIntf (Hw.callIf valid effect) :=
  Hw.callIf_rel (fun _ => rfl) fun hw => h hw.tick

theorem opsSaiRouterIntfRemove_entries (h : opsSaiRouterIntfRemove rif hw = .ok (st, hw')) :
    (st ≠ 0 ∧ hw'.allRouterIntf = hw.allRouterIntf) ∨
      (st = 0 ∧ hw'.allRouterIntf = hw.allRouterIntf.eraseP (·.rifId = rif)) := by
  rw [opsSaiRouterIntfRemove, gets_bind] at h
  obtain ⟨e, -, h⟩ := need_bind.mp h
  have hbind : ∀ {m : Exec Hw SaiStatus} {k : Exec Hw Int} {hw₁ : Hw},
      Frame Hw.allRouterIntf m → hw₁.allRouterIntf = hw.allRouterIntf →
      (m >>= fun status =>
        if status ≠ .success then pure (sxError2Errno status) else k) hw₁ = .ok (st, hw') →
      (st ≠ 0 ∧ hw'.allRouterIntf = hw.allRouterIntf) ∨
        ∃ hw₂ : Hw, hw₂.allRouterIntf = hw.allRouterIntf ∧ k hw₂ = .ok (st, hw') := by
    intro m k hw₁ hm heq h
    obtain ⟨status, hw₂, hcall, h⟩ := bind_ok.mp h
    have heq₂ := (hm _ _ _ hcall).trans heq
    rcases orError_ok h with ⟨hs, hend⟩ | ⟨rfl, h⟩
    · cases hend
      exact .inl ⟨sxError2Errno_ne_zero hs, heq₂⟩
    · exact .inr ⟨hw₂, heq₂, h⟩
  have hunbind : ∀ hw : Hw, (hw.bindCounter e.rifId none).allRouterIntf = hw.allRouterIntf := by
    intro hw
    unfold Hw.bindCounter
    split <;> rfl
  obtain hfail | ⟨hw₁, heq₁, h⟩ := hbind (callIf_entries hunbind) rfl h
  · exact .inl hfail
  have hdestroy : Frame Hw.allRouterIntf (sxRouterCounterDestroy e.counterId) :=
    callIf_entries fun _ => rfl
  obtain hfail | ⟨hw₂, heq₂, h⟩ := hbind hdestroy heq₁ h
  · exact .inl hfail
  have hget : Frame Hw.allRouterIntf (sxRouterInterfaceGet e.rifId) := callIf_entries fun _ => rfl
  obtain hfail | ⟨hw₃, heq₃, h⟩ := hbind hget heq₂ h
  · exact .inl hfail
  have hdelete : Frame Hw.allRouterIntf (sxRouterInterfaceDelete e.rifId) :=
    callIf_entries fun _ => rfl
  obtain hfail | ⟨hw₄, heq₄, h⟩ := hbind hdelete heq₃ h
  · exact .inl hfail
  rw [modify_bind] at h
  cases h
  exact .inr ⟨rfl, congrArg (List.eraseP _) heq₄⟩

/-- Recorded interfaces exist, and none is recorded twice. -/
structure Hw.Recorded (hw : Hw) : Prop where
  exist : ∀ e ∈ hw.allRouterIntf, e.rifId ∈ hw.routerIntfs
  rifIds : (hw.allRouterIntf.map (·.rifId)).Nodup

theorem opsSaiRouterIntfCreate_recorded (hrec : hw.Recorded)
    (h : opsSaiRouterIntfCreate vrid type handle rifHandle hw = .ok ((st, rif), hw')) :
    hw'.Recorded := by
  have hkept := (opsSaiRouterIntfCreate_kept (S := fun _ => False) _ _ _ h).2
  rcases opsSaiRouterIntfCreate_entries h with ⟨-, hentries⟩ | ⟨h0, hfresh, counter, hentries⟩
  · refine ⟨fun e he => ?_, hentries ▸ hrec.rifIds⟩
    rw [hentries] at he
    exact hkept _ not_false (hrec.exist e he)
  · refine ⟨fun e he => ?_, ?_⟩
    · rw [hentries] at he
      rcases List.mem_cons.mp he with rfl | he
      · exact ((opsSaiRouterIntfCreate_ok h).1 h0).2
      · exact hkept _ not_false (hrec.exist e he)
    · rw [hentries, List.map_cons, List.nodup_cons]
      refine ⟨fun hmem => ?_, hrec.rifIds⟩
      obtain ⟨e, he, rfl⟩ := List.mem_map.mp hmem
      exact hfresh (hrec.exist e he)

theorem opsSaiRouterIntfRemove_recorded (hrec : hw.Recorded)
    (h : opsSaiRouterIntfRemove rif hw = .ok (st, hw')) : hw'.Recorded := by
  obtain ⟨hkept, hfail⟩ := opsSaiRouterIntfRemove_kept h
  rcases opsSaiRouterIntfRemove_entries h with ⟨h0, hentries⟩ | ⟨-, hentries⟩
  · refine ⟨fun e he => ?_, hentries ▸ hrec.rifIds⟩
    rw [hentries] at he
    exact (hfail h0).2 _ not_false (hrec.exist e he)
  · refine ⟨fun e he => ?_, ?_⟩
    · rw [hentries] at he
      obtain ⟨he, hne⟩ := (List.mem_eraseP_key hrec.rifIds).mp he
      exact hkept.2 _ hne (hrec.exist e he)
    · rw [hentries]
      exact List.Nodup.sublist (List.eraseP_sublist.map _) hrec.rifIds

/-- A halt other than that of `mlnx_object_to_type`. -/
def Fault (e : Halt) : Prop := e ≠ .assertion "Failed to get port id"

theorem intfParamsIfc_noFault : Never Fault (intfParamsIfc type handle) := by
  cases type with
  | port =>
    exact (Never.gets _).bind fun _ => callIf_never.bind fun _ =>
      (Never.require (· rfl)).bind fun _ => Never.pure _
  | vlan => exact Never.pure _

/-- A new interface is not recorded, so that recording it fails no assertion. -/
theorem opsSaiRouterIntfCreate_avoids (hrec : hw.Recorded) :
    Avoids Fault (opsSaiRouterIntfCreate vrid type handle rifHandle) hw := by
  refine (intfParamsIfc_noFault hw).bind fun ifc hw₁ h₁ => (callIf_never hw₁).bind
    fun status hw₂ h₂ => Avoids.ite (fun _ => Avoids.pure _) fun _ => ?_
  have hadd : Never Fault (sxRouterInterfaceAdd vrid type ifc) :=
    choose_never.bind fun _ => (Never.gets _).bind fun _ => callIf_never.bind fun _ => Never.pure _
  refine (hadd hw₂).bind fun ⟨status, rif⟩ hw₃ h₃ => Avoids.ite (fun _ => Avoids.pure _) fun _ => ?_
  have hcounter : Never Fault sxRouterCounterCreate :=
    choose_never.bind fun _ => (Never.gets _).bind fun _ => callIf_never.bind fun _ => Never.pure _
  refine (hcounter hw₃).bind fun ⟨status, counter⟩ hw₄ h₄ => Avoids.ite (fun _ => Avoids.pure _)
    fun _ => ?_
  refine (callIf_never hw₄).bind fun status hw₅ h₅ => Avoids.ite (fun _ => Avoids.pure _)
    fun _ => ?_
  refine (Avoids.gets _).bind fun found hw₆ h₆ => ?_
  cases h₆
  suffices hnone : hw₅.routerIntfEntryFind rif = none by
    have hisNone : (hw₅.routerIntfEntryFind rif).isNone = true := by rw [hnone]; rfl
    refine Avoids.bind (Avoids.require (.inl hisNone)) fun _ _ _ => ?_
    exact (Avoids.modify _).bind fun _ _ _ => Avoids.pure _
  have htables : hw₂.rifTables = hw.rifTables :=
    (sxCall_accepts h₂).2.2.trans (intfParamsIfc_accepts h₁).2.1
  obtain ⟨hfresh, -, -, ht₃⟩ := sxRouterInterfaceAdd_accepts h₃
  obtain ⟨-, -, -, ht₄⟩ := sxRouterCounterCreate_accepts h₄
  have hentries : hw₅.allRouterIntf = hw.allRouterIntf := by
    have h₃ : hw₃.allRouterIntf = hw₂.allRouterIntf := by
      split at ht₃ <;> exact congrArg RifTables.allRouterIntf ht₃
    have h₄ : hw₄.allRouterIntf = hw₃.allRouterIntf := by
      split at ht₄ <;> exact congrArg RifTables.allRouterIntf ht₄
    have h₅ : hw₅.allRouterIntf = hw₄.allRouterIntf := by
      refine callIf_entries (fun hw => ?_) _ _ _ h₅
      unfold Hw.bindCounter
      split <;> rfl
    exact h₅.trans (h₄.trans (h₃.trans (congrArg RifTables.allRouterIntf htables)))
  rw [Hw.routerIntfEntryFind, List.find?_eq_none, hentries]
  intro e he hid
  have hin := hrec.exist e he
  rw [of_decide_eq_true hid] at hin
  have hintfs : hw₂.routerIntfs = hw.routerIntfs := congrArg RifTables.routerIntfs htables
  exact hfresh (hintfs ▸ hin)

end

/-! ## What leaves the interfaces of bundles as they are -/

section
variable {o o' : OfprotoSai} {b : BundlePtr} {p : OfpPort} {s : OfprotoBundleSettings} {st : Int}

/-- The interfaces of bundles are recorded, and they differ. -/
structure RifsFound (o : OfprotoSai) : Prop where
  recorded : o.hw.Recorded
  found : ∀ b rif, o.rif b = some rif → ∃ e ∈ o.hw.allRouterIntf, e.rifId = rif
  distinct : ∀ b b' rif, o.rif b = some rif → o.rif b' = some rif → b = b'

theorem RifsFound.mem (h : RifsFound o) {rif : Nat} (hb : o.rif b = some rif) :
    rif ∈ o.hw.routerIntfs := by
  obtain ⟨e, he, rfl⟩ := h.found b rif hb
  exact h.recorded.exist e he

theorem RifsFound.find (h : RifsFound o) {rif : Nat} (hb : o.rif b = some rif) :
    (o.hw.routerIntfEntryFind rif).isSome = true := by
  obtain ⟨e, he, hid⟩ := h.found b rif hb
  exact List.find?_isSome.mpr ⟨e, he, decide_eq_true hid⟩

/-- The table is as it was, and no interface has been removed. -/
def Hw.RifsSame (hw hw' : Hw) : Prop :=
  hw'.allRouterIntf = hw.allRouterIntf ∧ ∀ r ∈ hw.routerIntfs, r ∈ hw'.routerIntfs

instance : IsPreorder Hw Hw.RifsSame where
  refl _ := ⟨rfl, fun _ => id⟩
  trans _ _ _ h h' := ⟨h'.1.trans h.1, fun r hr => h'.2 r (h.2 r hr)⟩

/-- Moreover the bundles have the interfaces that they had. -/
structure RifsSame (o o' : OfprotoSai) : Prop where
  hw : o.hw.RifsSame o'.hw
  rif : o'.rif = o.rif

instance : IsPreorder OfprotoSai RifsSame where
  refl _ := ⟨refl_of _ _, rfl⟩
  trans _ _ _ h h' := ⟨trans_of _ h.hw h'.hw, h'.rif.trans h.rif⟩

/-- Bundles may have lost their interfaces. -/
theorem RifsFound.shrink (hok : RifsFound o) (hhw : o.hw.RifsSame o'.hw)
    (hrif : ∀ b rif, o'.rif b = some rif → o.rif b = some rif) : RifsFound o' := by
  obtain ⟨hentries, hintfs⟩ := hhw
  refine ⟨⟨fun e he => ?_, hentries ▸ hok.recorded.rifIds⟩, fun b rif hb => ?_,
    fun b b' rif hb hb' => hok.distinct b b' rif (hrif b rif hb) (hrif b' rif hb')⟩
  · rw [hentries] at he
    exact hintfs _ (hok.recorded.exist e he)
  · rw [hentries]
    exact hok.found b rif (hrif b rif hb)

theorem RifsSame.found (h : RifsSame o o') (hok : RifsFound o) : RifsFound o' :=
  hok.shrink h.hw fun _ _ hb => h.rif ▸ hb

theorem rif_congr (h : o'.bundlesBy (·.rif) = o.bundlesBy (·.rif)) : o'.rif = o.rif :=
  funext fun _ => by rw [rif_bundlesBy, h, ← rif_bundlesBy]

theorem rifsSame_of_l3 {hw hw' : Hw} (h : hw'.l3 = hw.l3) : hw.RifsSame hw' := by
  have hintfs : hw'.routerIntfs = hw.routerIntfs := congrArg Hw.L3.routerIntfs h
  exact ⟨congrArg Hw.L3.allRouterIntf h, fun _ hr => hintfs ▸ hr⟩

theorem rifsSame_of_butRoutes {hw hw' : Hw} (h : hw'.butRoutes = hw.butRoutes) :
    hw.RifsSame hw' := by
  have hintfs : hw'.routerIntfs = hw.routerIntfs := congrArg Hw.ButRoutes.routerIntfs h
  exact ⟨congrArg Hw.ButRoutes.allRouterIntf h, fun _ hr => hintfs ▸ hr⟩

theorem SameButVlan.rifsSame (h : SameButVlan o o') : RifsSame o o' :=
  ⟨rifsSame_of_l3 h.hw.1, rif_congr (bundlesBy_of (k := (·.rif)) h.bundles fun _ => rfl)⟩

theorem SameButIp.rifsSame (h : SameButIp o o') : RifsSame o o' :=
  ⟨rifsSame_of_butRoutes h.hw.same.1,
    rif_congr (bundlesBy_of (k := (·.rif)) h.bundles fun _ => rfl)⟩

theorem SameButEntries.rifsSame (h : SameButEntries o o') : RifsSame o o' := by
  have hintfs : o'.hw.routerIntfs = o.hw.routerIntfs :=
    congrArg Hw.ButEntries.routerIntfs h.hw.1
  exact ⟨⟨congrArg Hw.ButEntries.allRouterIntf h.hw.1, fun _ hr => hintfs ▸ hr⟩,
    rif_congr (bundlesBy_of (k := (·.rif)) h.bundles fun _ => rfl)⟩

theorem onHw_rifsSame {α : Type} {m : Exec Hw α} (h : Rel Hw.RifsSame m) :
    Rel RifsSame (onHw m) := onHw_rel fun _ a hw hm => ⟨h _ a hw hm, rfl⟩

theorem NoLocalAdded.rifsSame {α : Type} {m : Exec Hw α} (h : Rel Hw.NoLocalAdded m) :
    Rel RifsSame (onHw m) :=
  onHw_rifsSame (h.mono fun _ _ h => rifsSame_of_butRoutes h.same.1)

theorem choose_rifsSame : Rel RifsSame (onHw Hw.choose) := onHw_rifsSame fun _ _ _ h => by
  cases h
  exact ⟨rfl, fun _ => id⟩

theorem modifyBundle_rifsSame {f : OfbundleSai → OfbundleSai} (h : ∀ x, (f x).rif = x.rif) :
    Rel RifsSame (modifyBundle b f) := modifyBundle_rel fun _ bundle hb =>
  ⟨refl_of Hw.RifsSame _, rif_congr (setBundle_bundlesBy hb (h bundle))⟩

theorem setRouterIntfHandles_rifsSame {h : Option BundlePtr} {ports : List OfpPort} :
    Rel RifsSame (forEach ports fun p => netdevSaiSetRouterIntfHandle p h) := by
  refine Rel.forEach fun _ => setRouterIntfHandle_frame.mono fun o o' h => ?_
  simp only [Prod.mk.injEq] at h
  obtain ⟨-, hb, hhw⟩ := h
  exact ⟨hhw ▸ refl_of Hw.RifsSame _, rif_congr (by unfold bundlesBy; rw [hb])⟩

theorem ite_vlans_rifsSame {c : Prop} [Decidable c] {m : Exec Hw Int} {hw : Hw}
    (hm : Rel (Hw.Same Hw.l3) m) (h : (if c then m else pure 0) o.hw = .ok (st, hw)) :
    o.hw.RifsSame hw := rifsSame_of_l3 (Rel.ite hm (Rel.pure 0) _ _ _ h).1

theorem ofbundlePortDel_rifsSame : Rel RifsSame (ofbundlePortDel p) := fun o st o' h => by
  obtain ⟨port, b, bundle, hw, -, -, hb, hvlans, rfl⟩ := ofbundlePortDel_ok h
  exact ⟨ite_vlans_rifsSame portVlansLeave_l3 hvlans, rif_congr (setBundle_bundlesBy hb rfl)⟩

theorem opsSaiRouterIntfSetState_rifsSame {rif : Nat} {state : Bool} :
    Rel Hw.RifsSame (opsSaiRouterIntfSetState rif state) := by
  refine (Rel.gets _).bind fun _ => (Rel.need _ _).bind fun e => Rel.bind ?_ fun _ => Rel.pure _
  refine Hw.callIf_rel (fun _ => ⟨rfl, fun _ => id⟩) fun hw => ?_
  split
  · exact ⟨rfl, fun r hr => (AList.mem_insert _).mpr (.inr hr)⟩
  · exact ⟨rfl, fun _ => id⟩

theorem routerIntfEnable_rifsSame {enable : Bool} : Rel RifsSame (routerIntfEnable b enable) :=
  routerIntfEnable_rel (fun _ => onHw_rifsSame opsSaiRouterIntfSetState_rifsSame)
    (modifyBundle_rifsSame fun _ => rfl)

theorem ofbundleLookupOrCreate_rifsSame {aux : Nat} :
    Rel RifsSame (ofbundleLookupOrCreate aux s) := by
  refine ofbundleLookupOrCreate_rel fun o b cs hb => ⟨⟨rfl, fun _ => id⟩, funext fun b' => ?_⟩
  rw [setBundle_rif]
  split
  next hbb =>
    subst hbb
    simp [OfprotoSai.rif, hb, OfbundleSai.rif, OfbundleSai.alloc, RouterIntf.zero]
  next => rfl

/-! ## Giving up and creating a router interface -/

/-- Creating the interface of a bundle: nothing is recorded, or a new interface is recorded for the
bundle. -/
theorem routerIntfCreate_rifs {rifType : RouterIntfType} {handle : Nat}
    (h : routerIntfCreate b rifType handle o = .ok (st, o')) : RifsSame o o' ∨
      ∃ e : RifEntry, e.rifId ∉ o.hw.routerIntfs ∧ e.rifId ∈ o'.hw.routerIntfs ∧
        (∀ r ∈ o.hw.routerIntfs, r ∈ o'.hw.routerIntfs) ∧
        o'.hw.allRouterIntf = e :: o.hw.allRouterIntf ∧
        ∀ b', o'.rif b' = if b' = b then some e.rifId else o.rif b' := by
  obtain ⟨bundle, rifid, hw, hb, hhw, hend⟩ := routerIntfCreate_ok h
  have hkept : ∀ r ∈ o.hw.routerIntfs, r ∈ hw.routerIntfs := fun r =>
    (opsSaiRouterIntfCreate_kept (S := fun _ => False) _ _ _ hhw).2 r not_false
  rcases opsSaiRouterIntfCreate_entries hhw with ⟨h0, hentries⟩ | ⟨h0, hnew, counter, hentries⟩ <;>
    rcases hend with ⟨h0', rfl⟩ | ⟨h0', hset⟩
  · exact .inl ⟨⟨hentries, hkept⟩, rfl⟩
  · exact absurd h0' h0
  · exact absurd h0 h0'
  · obtain ⟨⟨hentries', hkept'⟩, hrif⟩ := setRouterIntfHandles_rifsSame _ _ _ hset
    refine .inr ⟨⟨rifid, counter, rifType, handle⟩, hnew,
      hkept' _ ((opsSaiRouterIntfCreate_ok hhw).1 h0).2, fun r hr => hkept' r (hkept r hr),
      hentries'.trans hentries, fun b' => ?_⟩
    rw [hrif, setBundle_rif]
    rfl

variable [OvsLib] [Build]

theorem localRoutesRemove_rifsSame : Rel RifsSame (localRoutesRemove b) := by
  refine (ofbundle_rel b).bind fun _ => (Rel.gets _).bind fun _ => ?_
  refine Rel.bind (Rel.bind choose_rifsSame fun _ => Rel.pure _) fun _ => Rel.forEach fun _ => ?_
  refine (NoLocalAdded.rifsSame routeRemove_noLocalAdded).thenOk ?_
  exact Rel.bind (modifyBundle_rifsSame fun _ => rfl) fun _ => Rel.pure _

/-- Giving up the interface of a bundle: the bundle keeps it and its record, or loses both. -/
theorem ofbundleRouterIntfRemove_entries (h : ofbundleRouterIntfRemove b o = .ok (st, o')) :
    (RifsSame o o' ∧ (st = 0 → o.rif b = none)) ∨
      ∃ rif, o.rif b = some rif ∧ (∀ r ∈ o.hw.routerIntfs, r ≠ rif → r ∈ o'.hw.routerIntfs) ∧
        o'.hw.allRouterIntf = o.hw.allRouterIntf.eraseP (·.rifId = rif) ∧
        ∀ b', o'.rif b' = if b' = b then none else o.rif b' := by
  rcases ofbundleRouterIntfRemove_ok h with ⟨hfail, h0⟩ | ⟨o₁, bundle, hlocal, hb, hrest⟩
  · exact .inl ⟨localRoutesRemove_rifsSame _ _ _ hfail, fun h => absurd h h0⟩
  have hsame₁ := localRoutesRemove_rifsSame _ _ _ hlocal
  have hrif₁ : o.rif b = bundle.rif := hsame₁.rif ▸ rif_of_lookup hb
  rcases hrest with ⟨hc, -, rfl⟩ | ⟨hc, o₂, hw, hclear, hhw, hend⟩
  · refine .inl ⟨hsame₁, fun _ => ?_⟩
    rw [hrif₁, OfbundleSai.rif, hc]
    rfl
  have hsame₂ := trans_of _ hsame₁ (setRouterIntfHandles_rifsSame _ _ _ hclear)
  obtain ⟨⟨hentries₂, hkept₂⟩, hrif₂⟩ := hsame₂
  obtain ⟨hkept, hfailed⟩ := opsSaiRouterIntfRemove_kept hhw
  rcases opsSaiRouterIntfRemove_entries hhw with ⟨h0, hentries⟩ | ⟨h0, hentries⟩ <;>
    rcases hend with ⟨h0', rfl⟩ | ⟨h0', rfl⟩
  · exact .inl ⟨⟨⟨hentries.trans hentries₂, fun r hr => (hfailed h0).2 r not_false (hkept₂ r hr)⟩,
      hrif₂⟩, fun h => absurd h h0⟩
  · exact absurd h0' h0
  · exact absurd h0 h0'
  · rw [OfbundleSai.rif, if_pos hc] at hrif₁
    refine .inr ⟨_, hrif₁, fun r hr hne => hkept.2 r hne (hkept₂ r hr), hentries₂ ▸ hentries,
      fun b' => ?_⟩
    rw [setBundle_rif]
    split
    next => rfl
    next => exact congrFun hrif₂ b'

omit [OvsLib] [Build] in
theorem erase_rif {b' : BundlePtr} : OfprotoSai.rif { o with bundles := o.bundles.erase b } b' =
    if b' = b then none else o.rif b' := by
  simp only [OfprotoSai.rif, lookup_erase]
  split <;> rfl

omit [OvsLib] [Build] in
theorem RifsFound.erase (hok : RifsFound o) :
    RifsFound { o with bundles := o.bundles.erase b } := by
  refine hok.shrink (refl_of Hw.RifsSame _) fun b' rif hb => ?_
  rw [erase_rif] at hb
  split at hb
  next => cases hb
  next => exact hb

end

end SwitchdSai
