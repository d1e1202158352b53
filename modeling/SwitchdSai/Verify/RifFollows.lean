import SwitchdSai.Lib.Owned
import SwitchdSai.Verify.LocalRoutes
import SwitchdSai.Verify.RifHandle
import SwitchdSai.Verify.RifMirror

/-!
# The router interface that a bundle has programmed

Every router interface of the hardware belongs to the bundle that has recorded it, and has the admin
state and the number recorded there (`RifView.Ok`). What the record leaves out is the type of the
interface, and whether settings that need no interface came after it: these decide whether the
interface follows new settings (`routerIntf_follows_iff`).
-/

namespace SwitchdSai

open Exec OfprotoSai

/-- What the router interface functions of bundles work on. -/
structure RifView where
  tables : RifTables
  oid : Nat → Nat
  routerIntf : BundlePtr → Option RouterIntf

def OfprotoSai.rifView (o : OfprotoSai) : RifView :=
  ⟨o.hw.rifTables, o.hw.opsSaiApiHwId2PortId, o.bundlesBy (·.routerIntf)⟩

/-- The interface that is recorded, with its admin state and number. -/
def RouterIntf.record (r : RouterIntf) : Option (Nat × Bool × Nat) :=
  if r.created then some (r.rifid, r.enabled, r.handle) else none

theorem RouterIntf.record_created {r : RouterIntf} (h : r.created = true) :
    r.record = some (r.rifid, r.enabled, r.handle) := if_pos h

theorem RouterIntf.record_none {r : RouterIntf} (h : r.created = false) : r.record = none :=
  if_neg (by simp [h])

namespace RifView

def record (v : RifView) (b : BundlePtr) : Option (Nat × Bool × Nat) :=
  (v.routerIntf b).bind RouterIntf.record

/-- What the admin state and the number recorded for an interface say about it. -/
def Agrees (oid : Nat → Nat) (d : Bool × Nat) (r : HwRouterIntf) : Prop :=
  r.enabled = d.1 ∧ r.ifc = intfIfc oid d.2 r.type

structure Ok (v : RifView) : Prop where
  tables : v.tables.Ok
  owned : Owned (Agrees v.oid) v.record fun rif => v.tables.routerIntfs.lookup rif

variable {v v' : RifView} {b : BundlePtr} {r : RouterIntf} {row : HwRouterIntf} {rif handle : Nat}

theorem Ok.empty {oid : Nat → Nat} : Ok ⟨⟨∅, [], []⟩, oid, fun _ => none⟩ := ⟨.empty, .empty⟩

theorem record_update {tables : RifTables} {oid : Nat → Nat} {x : Option RouterIntf} :
    record ⟨tables, oid, Function.update v.routerIntf b x⟩ =
      Function.update v.record b (x.bind RouterIntf.record) := by
  funext b'
  by_cases h : b' = b
  · subst h
    simp [record]
  · simp [record, Function.update_of_ne h]

theorem record_eq (hb : v.routerIntf b = some r) : v.record b = r.record := by
  rw [record, hb, Option.bind_some]

theorem Ok.congr (h : v.Ok) (ht : v'.tables = v.tables) (ho : v'.oid = v.oid)
    (hr : v'.record = v.record) : v'.Ok := by
  obtain ⟨tables, oid, routerIntf⟩ := v'
  dsimp only at ht ho
  subst ht ho
  refine ⟨h.tables, ?_⟩
  rw [hr]
  exact h.owned

/-- The record of a bundle changes in what says nothing about its interface. -/
theorem Ok.setRecord (h : v.Ok) {x : Option RouterIntf}
    (hx : x.bind RouterIntf.record = v.record b) :
    Ok ⟨v.tables, v.oid, Function.update v.routerIntf b x⟩ := by
  refine h.congr rfl rfl ?_
  rw [record_update, hx, Function.update_eq_self]

/-- The interface that a bundle has recorded. -/
theorem Ok.exists_row (h : v.Ok) (hb : v.routerIntf b = some r) (hc : r.created = true) :
    ∃ row, v.tables.routerIntfs.lookup r.rifid = some row ∧
      Agrees v.oid (r.enabled, r.handle) row :=
  h.owned.held b r.rifid _ ((record_eq hb).trans (RouterIntf.record_created hc))

theorem lookup_insert_update {s : AList fun _ : Nat => HwRouterIntf} :
    (fun rif' => (s.insert rif row).lookup rif') =
      Function.update (fun rif' => s.lookup rif') rif (some row) := by
  funext rif'
  by_cases h : rif' = rif
  · subst h
    rw [Function.update_self, AList.lookup_insert]
  · rw [Function.update_of_ne h, AList.lookup_insert_ne h]

theorem lookup_erase_update {s : AList fun _ : Nat => HwRouterIntf} :
    (fun rif' => (s.erase rif).lookup rif') =
      Function.update (fun rif' => s.lookup rif') rif none := by
  funext rif'
  by_cases h : rif' = rif
  · subst h
    rw [Function.update_self, AList.lookup_erase]
  · rw [Function.update_of_ne h, AList.lookup_erase_ne h]

/-- A bundle creates its interface, which is disabled. -/
theorem Ok.create (h : v.Ok) {counter vrid : Nat} {type : RouterIntfType}
    (hb : v.routerIntf b = some r) (hc : r.created = false)
    (hrif : rif ∉ v.tables.routerIntfs) (hcounter : counter ∉ v.tables.counters) :
    Ok ⟨⟨v.tables.routerIntfs.insert rif
          ⟨vrid, type, intfIfc v.oid handle type, false, some counter⟩,
        counter :: v.tables.counters, ⟨rif, counter, type, handle⟩ :: v.tables.allRouterIntf⟩,
      v.oid, Function.update v.routerIntf b (some { r with
        created := true, enabled := false, handle := handle, rifid := rif })⟩ := by
  refine ⟨h.tables.add (e := ⟨rif, counter, type, handle⟩) hrif hcounter rfl, ?_⟩
  rw [record_update, lookup_insert_update]
  refine h.owned.take ?_ ?_ ⟨rfl, rfl⟩
  · exact (record_eq hb).trans (RouterIntf.record_none hc)
  · exact AList.lookup_eq_none.mpr hrif

/-- A bundle removes its interface. -/
theorem Ok.remove (h : v.Ok) {e : RifEntry} (hb : v.routerIntf b = some r)
    (hc : r.created = true) (he : e ∈ v.tables.allRouterIntf) (hid : e.rifId = r.rifid) :
    Ok ⟨⟨(v.tables.routerIntfs.insert e.rifId row).erase e.rifId,
        v.tables.counters.erase e.counterId,
        v.tables.allRouterIntf.eraseP (·.rifId = e.rifId)⟩,
      v.oid, Function.update v.routerIntf b (some .zero)⟩ := by
  refine ⟨h.tables.remove he, ?_⟩
  rw [record_update, lookup_erase_update, lookup_insert_update, Function.update_idem, hid]
  exact h.owned.giveUp ((record_eq hb).trans (RouterIntf.record_created hc))

/-- A bundle sets the admin state of its interface. -/
theorem Ok.enable (h : v.Ok) {enable : Bool} (hb : v.routerIntf b = some r)
    (hc : r.created = true) (hrow : v.tables.routerIntfs.lookup r.rifid = some row) :
    Ok ⟨⟨v.tables.routerIntfs.insert r.rifid { row with enabled := enable }, v.tables.counters,
        v.tables.allRouterIntf⟩,
      v.oid, Function.update v.routerIntf b (some { r with enabled := enable })⟩ := by
  have hrec := (record_eq hb).trans (RouterIntf.record_created hc)
  obtain ⟨row', hrow', -, hifc⟩ := h.owned.held b _ _ hrec
  cases hrow.symm.trans hrow'
  have hrec' : RouterIntf.record { r with enabled := enable } = some (r.rifid, enable, r.handle) :=
    RouterIntf.record_created hc
  refine ⟨h.tables.set hrow rfl, ?_⟩
  rw [record_update, lookup_insert_update, Option.bind_some, hrec']
  exact h.owned.change hrec ⟨rfl, hifc⟩

end RifView

/-! ## The functions on the interface of a bundle -/

section
variable {hw hw' : Hw} {st : Int} {rif : Nat} {state : Bool}

theorem opsSaiRouterIntfSetState_ok
    (h : opsSaiRouterIntfSetState rif state hw = .ok (0, hw')) :
    ∃ r, hw.routerIntfs.lookup rif = some r ∧ hw'.rifTables =
      ⟨hw.routerIntfs.insert rif { r with enabled := state }, hw.counters, hw.allRouterIntf⟩ := by
  rw [opsSaiRouterIntfSetState, gets_bind] at h
  obtain ⟨e, he, h⟩ := need_bind.mp h
  have hid : e.rifId = rif := of_decide_eq_true (List.find?_some he :)
  obtain ⟨status, hw₁, hset, hend⟩ := bind_ok.mp h
  rw [hid] at hset
  rcases Hw.callIf_cases hset with ⟨-, hvalid, rfl⟩ | ⟨hs, -⟩
  · obtain ⟨r, hr⟩ := Option.isSome_iff_exists.mp hvalid
    refine ⟨r, hr, ?_⟩
    rw [pure_apply] at hend
    cases (Prod.ext_iff.mp (Except.ok.inj hend)).2
    have hr : hw.tick.routerIntfs.lookup rif = some r := hr
    rw [hr]
    rfl
  · simp only [pure_apply, Except.ok.injEq, Prod.mk.injEq] at hend
    exact absurd hend.1 (sxError2Errno_ne_zero hs)

theorem opsSaiRouterIntfSetState_willing (hwill : hw.Willing) (hin : rif ∈ hw.routerIntfs)
    (h : opsSaiRouterIntfSetState rif state hw = .ok (st, hw')) : st = 0 := by
  rw [opsSaiRouterIntfSetState, gets_bind] at h
  obtain ⟨e, he, h⟩ := need_bind.mp h
  have hid : e.rifId = rif := of_decide_eq_true (List.find?_some he :)
  obtain ⟨status, hw₁, hset, hend⟩ := bind_ok.mp h
  rw [hid] at hset
  obtain ⟨rfl, -⟩ := hwill.callIf (AList.lookup_isSome.mpr hin) hset
  cases hend
  rfl

end

variable {o o' : OfprotoSai} {b : BundlePtr} {p : OfpPort} {s : OfprotoBundleSettings} {st : Int}
  {r : RouterIntf}

theorem setBundle_rifView {bundle : OfbundleSai} :
    (o.setBundle b bundle).rifView = ⟨o.rifView.tables, o.rifView.oid,
      Function.update o.rifView.routerIntf b (some bundle.routerIntf)⟩ := by
  refine congrArg (RifView.mk _ _) (funext fun b' => ?_)
  simp only [bundlesBy, setBundle_lookup, OfprotoSai.rifView, Function.update_apply]
  split <;> rfl

theorem rifView_of_frame (h : (o'.vrid, o'.bundles, o'.hw) = (o.vrid, o.bundles, o.hw)) :
    o'.rifView = o.rifView := by
  simp only [Prod.mk.injEq] at h
  obtain ⟨-, hb, hhw⟩ := h
  unfold OfprotoSai.rifView bundlesBy
  rw [hb, hhw]

theorem routerIntf_of_lookup {bundle : OfbundleSai} (hb : o.bundles.lookup b = some bundle) :
    o.rifView.routerIntf b = some bundle.routerIntf := by
  show (o.bundles.lookup b).map _ = _
  rw [hb]
  rfl

theorem setRouterIntfHandles_rifView {h : Option BundlePtr} {ports : List OfpPort}
    (hm : (forEach ports fun p => netdevSaiSetRouterIntfHandle p h) o = .ok (st, o')) :
    o'.rifView = o.rifView := by
  have hframe : Frame (fun o => (o.vrid, o.bundles, o.hw)) (forEach ports fun p =>
      netdevSaiSetRouterIntfHandle p h) := Rel.forEach fun _ => setRouterIntfHandle_frame
  exact rifView_of_frame (hframe _ _ _ hm)

section
variable {rifType : RouterIntfType} {handle : Nat} {enable : Bool}

/-- A bundle without an interface creates one, which is disabled. -/
theorem routerIntfCreate_rifView (hok : o.rifView.Ok) (hb : o.rifView.routerIntf b = some r)
    (hc : r.created = false) (h : routerIntfCreate b rifType handle o = .ok (0, o')) :
    o'.rifView.Ok ∧ ∃ rifid row,
      o'.rifView.routerIntf b = some { r with
        created := true, enabled := false, handle := handle, rifid := rifid } ∧
      o'.rifView.tables.routerIntfs.lookup rifid = some row ∧ row.type = rifType := by
  obtain ⟨bundle, rifid, hw, hlookup, hcreate, hend⟩ := routerIntfCreate_ok h
  obtain rfl : bundle.routerIntf = r :=
    Option.some.inj ((routerIntf_of_lookup hlookup).symm.trans hb)
  obtain ⟨-, hset⟩ := hend.resolve_left fun hfail => hfail.1 rfl
  rcases opsSaiRouterIntfCreate_cases hcreate with
    ⟨h0, -⟩ | ⟨h0, -⟩ | ⟨-, -, -, hrif, counter, hcounter, ht⟩
  · exact absurd rfl h0
  · exact absurd rfl h0
  have hoid : hw.opsSaiApiHwId2PortId = o.hw.opsSaiApiHwId2PortId :=
    congrArg Hw.L2.oid (routerIntfCreate_l2 _ _ _ hcreate).1
  have hview : o'.rifView = ⟨hw.rifTables, hw.opsSaiApiHwId2PortId,
      Function.update o.rifView.routerIntf b (some { bundle.routerIntf with
        created := true, enabled := false, handle := handle, rifid := rifid })⟩ :=
    (setRouterIntfHandles_rifView hset).trans setBundle_rifView
  rw [ht, hoid] at hview
  rw [hview]
  exact ⟨hok.create hb hc hrif hcounter, rifid, ⟨o.vrid, rifType, _, false, some counter⟩,
    Function.update_self .., AList.lookup_insert _, rfl⟩

theorem routerIntfCreate_succeeds :
    Succeeds OfprotoSai.Willing (routerIntfCreate b rifType handle) := by
  intro o st o' hwill h
  refine ⟨?_, (routerIntfCreate_sameButRif _ _ _ h).evolves.willing hwill⟩
  obtain ⟨bundle, rifid, hw, -, hcreate, -⟩ := routerIntfCreate_ok h
  exact (opsSaiRouterIntfCreate_ok hcreate).2 hwill

/-- The admin state of an interface follows `enable`. -/
theorem routerIntfEnable_rifView (hok : o.rifView.Ok) (hb : o.rifView.routerIntf b = some r)
    (hc : r.created = true) {row : HwRouterIntf}
    (hrow : o.rifView.tables.routerIntfs.lookup r.rifid = some row)
    (h : routerIntfEnable b enable o = .ok (0, o')) :
    o'.rifView.Ok ∧ o'.rifView.routerIntf b = some { r with enabled := enable } ∧
      o'.rifView.tables.routerIntfs.lookup r.rifid = some { row with enabled := enable } := by
  obtain ⟨bundle, hlookup, h⟩ := ofbundle_bind.mp h
  obtain rfl : bundle.routerIntf = r :=
    Option.some.inj ((routerIntf_of_lookup hlookup).symm.trans hb)
  obtain ⟨row', hrow', henabled, -⟩ := hok.exists_row hb hc
  cases hrow.symm.trans hrow'
  split at h
  next hne =>
    obtain ⟨o₁, hset, hend⟩ := thenOk_zero.mp h
    obtain ⟨hw, hstate, rfl⟩ := onHw_ok.mp hset
    obtain ⟨bundle', hlookup', hend⟩ := modifyBundle_bind.mp hend
    cases hend
    obtain rfl : bundle' = bundle := Option.some.inj (hlookup'.symm.trans hlookup)
    obtain ⟨r, hr, ht⟩ := opsSaiRouterIntfSetState_ok hstate
    cases hr.symm.trans hrow
    have hoid : hw.opsSaiApiHwId2PortId = o.hw.opsSaiApiHwId2PortId :=
      congrArg Hw.L2.oid (routerIntfSetState_l2 _ _ _ hstate).1
    rw [setBundle_rifView]
    show RifView.Ok ⟨hw.rifTables, hw.opsSaiApiHwId2PortId, _⟩ ∧ _ ∧
      hw.rifTables.routerIntfs.lookup _ = _
    rw [ht, hoid]
    exact ⟨hok.enable hb hc hrow, Function.update_self .., AList.lookup_insert _⟩
  next hne =>
    cases h
    have hsame : bundle.routerIntf.enabled = enable := by simpa [hc] using hne
    subst hsame
    have henabled : row.enabled = bundle.routerIntf.enabled := henabled
    refine ⟨hok, hb, hrow.trans ?_⟩
    rw [← henabled]

theorem routerIntfEnable_zero (hwill : o.Willing) (hok : o.rifView.Ok)
    (h : routerIntfEnable b enable o = .ok (st, o')) : st = 0 := by
  obtain ⟨bundle, hlookup, h⟩ := ofbundle_bind.mp h
  split at h
  next hne =>
    obtain ⟨hc, -⟩ := Bool.and_eq_true_iff.mp hne
    rcases thenOk_ok.mp h with ⟨hset, h0⟩ | ⟨o₁, hset, hend⟩
    · obtain ⟨hw, hstate, rfl⟩ := onHw_ok.mp hset
      obtain ⟨row, hrow, -⟩ := hok.exists_row (routerIntf_of_lookup hlookup) hc
      exact opsSaiRouterIntfSetState_willing hwill
        (AList.lookup_isSome.mp (Option.isSome_iff_exists.mpr ⟨row, hrow⟩)) hstate
    · obtain ⟨bundle', -, hend⟩ := modifyBundle_bind.mp hend
      cases hend
      rfl
  next =>
    cases h
    rfl

variable [OvsLib] [Build]

/-- A bundle without local routes gives up its interface, if it has one. -/
theorem ofbundleRouterIntfRemove_noRoutes (hr : o.NoRoutes)
    (h : ofbundleRouterIntfRemove b o = .ok (st, o')) :
    ∃ bundle, o.bundles.lookup b = some bundle ∧
      ((bundle.routerIntf.created = false ∧ st = 0 ∧ o'.rifView = o.rifView) ∨
        bundle.routerIntf.created = true ∧ ∃ cs hw,
          opsSaiRouterIntfRemove bundle.routerIntf.rifid { o.hw with choices := cs } =
            .ok (st, hw) ∧
          (st = 0 → o'.rifView = ⟨hw.rifTables, hw.opsSaiApiHwId2PortId,
            Function.update o.rifView.routerIntf b (some .zero)⟩)) := by
  rcases ofbundleRouterIntfRemove_ok h with ⟨hfail, h0⟩ | ⟨o₁, bundle, hlocal, hb, hrest⟩
  · obtain ⟨bundle, hb, -⟩ := ofbundle_bind.mp hfail
    exact absurd (localRoutesRemove_nil hb (hr b bundle hb) hfail).1 h0
  obtain ⟨bundle₁, hb₁, -⟩ := ofbundle_bind.mp hlocal
  obtain ⟨-, cs, rfl⟩ := localRoutesRemove_nil hb₁ (hr b bundle₁ hb₁) hlocal
  refine ⟨bundle, hb, ?_⟩
  rcases hrest with ⟨hc, rfl, rfl⟩ | ⟨hc, o₂, hw, hclear, hremove, hend⟩
  · exact .inl ⟨hc, rfl, rfl⟩
  have hframe : Frame (fun o => (o.vrid, o.bundles, o.hw)) (forEach bundle.ports fun p =>
      netdevSaiSetRouterIntfHandle p none) := Rel.forEach fun _ => setRouterIntfHandle_frame
  have hsame := hframe _ _ _ hclear
  simp only [Prod.mk.injEq] at hsame
  obtain ⟨-, hbundles, hhw⟩ := hsame
  rw [hhw] at hremove
  refine .inr ⟨hc, cs, hw, hremove, fun h0 => ?_⟩
  rcases hend with ⟨hne, -⟩ | ⟨-, rfl⟩
  · exact absurd h0 hne
  rw [setBundle_rifView]
  unfold OfprotoSai.rifView bundlesBy
  dsimp only
  rw [hbundles]

omit [OvsLib] [Build] in
/-- A recorded interface has an entry. -/
theorem exists_entry {hw : Hw} {rif : Nat} (hm : hw.rifTables.Mirrored)
    (hin : rif ∈ hw.routerIntfs) :
    ∃ e ∈ hw.allRouterIntf, hw.routerIntfEntryFind rif = some e ∧ e.rifId = rif := by
  obtain ⟨e', he', hid'⟩ := (hm.recorded rif).mp hin
  obtain ⟨e, he⟩ : ∃ e, hw.routerIntfEntryFind rif = some e :=
    Option.isSome_iff_exists.mp (List.find?_isSome.mpr ⟨e', he', decide_eq_true hid'⟩)
  exact ⟨e, List.mem_of_find?_eq_some he, he, of_decide_eq_true (List.find?_some he :)⟩

omit [OvsLib] [Build] in
theorem RifView.Ok.entry (hok : o.rifView.Ok) {bundle : OfbundleSai}
    (hb : o.bundles.lookup b = some bundle) (hc : bundle.routerIntf.created = true) :
    ∃ e ∈ o.hw.allRouterIntf, o.hw.routerIntfEntryFind bundle.routerIntf.rifid = some e ∧
      e.rifId = bundle.routerIntf.rifid := by
  obtain ⟨row, hrow, -⟩ := hok.exists_row (routerIntf_of_lookup hb) hc
  exact exists_entry hok.tables.toMirrored
    (AList.lookup_isSome.mp (Option.isSome_iff_exists.mpr ⟨row, hrow⟩))

theorem ofbundleRouterIntfRemove_rifView (hr : o.NoRoutes) (hok : o.rifView.Ok)
    (h : ofbundleRouterIntfRemove b o = .ok (0, o')) :
    o'.rifView.Ok ∧ ∃ r, o.rifView.routerIntf b = some r ∧
      o'.rifView.routerIntf b = some (if r.created then .zero else r) := by
  obtain ⟨bundle, hb, hcase⟩ := ofbundleRouterIntfRemove_noRoutes hr h
  have hrec := routerIntf_of_lookup hb
  rcases hcase with ⟨hc, -, hview⟩ | ⟨hc, cs, hw, hremove, hview⟩
  · rw [hview]
    exact ⟨hok, _, hrec, by rw [hc]; exact hrec⟩
  obtain ⟨e, he, hfind, hid⟩ := hok.entry hb hc
  have hoid : hw.opsSaiApiHwId2PortId = o.hw.opsSaiApiHwId2PortId :=
    congrArg Hw.L2.oid (routerIntfRemove_l2 _ _ _ hremove).1
  have hm : (Hw.rifTables { o.hw with choices := cs }).Mirrored := hok.tables.toMirrored
  rcases opsSaiRouterIntfRemove_cases hm hfind hremove with
    ⟨h0, -⟩ | ⟨h0, -⟩ | ⟨-, -, -, -, row, ht⟩
  · exact absurd rfl h0
  · exact absurd rfl h0
  have hview := hview rfl
  rw [ht, hoid] at hview
  rw [hview]
  exact ⟨hok.remove hrec hc he hid, _, hrec, by rw [hc]; exact Function.update_self ..⟩

theorem ofbundleRouterIntfRemove_zero (hwill : o.Willing) (hr : o.NoRoutes) (hok : o.rifView.Ok)
    (h : ofbundleRouterIntfRemove b o = .ok (st, o')) : st = 0 := by
  obtain ⟨bundle, hb, hcase⟩ := ofbundleRouterIntfRemove_noRoutes hr h
  rcases hcase with ⟨-, h0, -⟩ | ⟨hc, cs, hw, hremove, -⟩
  · exact h0
  · obtain ⟨e, he, hfind, hid⟩ := hok.entry hb hc
    have hwill : Hw.Willing { o.hw with choices := cs } := hwill
    have hm : (Hw.rifTables { o.hw with choices := cs }).Mirrored := hok.tables.toMirrored
    obtain ⟨hw', hremove'⟩ := opsSaiRouterIntfRemove_willing hwill hm hfind
    cases hremove.symm.trans hremove'
    rfl

omit [OvsLib] [Build] in
/-- A bundle without an interface creates one and sets its admin state. -/
theorem routerIntfCreateEnable_rifView (hok : o.rifView.Ok)
    (hb : o.rifView.routerIntf b = some r) (hc : r.created = false)
    (h : ((routerIntfCreate b rifType handle).thenOk (routerIntfEnable b enable)) o =
      .ok (0, o')) :
    o'.rifView.Ok ∧ ∃ rifid row,
      o'.rifView.routerIntf b = some { r with
        created := true, enabled := enable, handle := handle, rifid := rifid } ∧
      o'.rifView.tables.routerIntfs.lookup rifid = some row ∧ row.type = rifType := by
  obtain ⟨o₁, hcreate, henable⟩ := thenOk_zero.mp h
  obtain ⟨hok₁, rifid, row, hb₁, hrow, htype⟩ := routerIntfCreate_rifView hok hb hc hcreate
  obtain ⟨hok', hb', hrow'⟩ := routerIntfEnable_rifView hok₁ hb₁ rfl hrow henable
  exact ⟨hok', rifid, _, hb', hrow', htype⟩

/-- What becomes of the interface of a bundle: one with the number asked for stays as it is, but for
its admin state, and any other is replaced. The loopback flag goes with an interface that is
removed. -/
structure RifApplied (v v' : RifView) (b : BundlePtr) (r : RouterIntf) (rifType : RouterIntfType)
    (num : Nat) (enable : Bool) (r' : RouterIntf) (intf : HwRouterIntf) : Prop where
  record : v'.routerIntf b = some r'
  created : r'.created = true
  enabled : r'.enabled = enable
  handle : r'.handle = num
  row : v'.tables.routerIntfs.lookup r'.rifid = some intf
  kept : r.created = true → r.handle = num → r'.isLoopback = r.isLoopback ∧
    (v.tables.routerIntfs.lookup r.rifid).map (·.type) = some intf.type
  replaced : r.created = true → r.handle ≠ num → r'.isLoopback = false ∧ intf.type = rifType
  added : r.created = false → r'.isLoopback = r.isLoopback ∧ intf.type = rifType

theorem routerIntfApply_rifView (hr : o.NoRoutes) (hok : o.rifView.Ok)
    (hb : o.rifView.routerIntf b = some r)
    (h : routerIntfApply b rifType handle enable o = .ok (0, o')) :
    o'.rifView.Ok ∧ ∃ r' row, RifApplied o.rifView o'.rifView b r rifType handle enable r' row := by
  obtain ⟨bundle, hlookup, h⟩ := ofbundle_bind.mp h
  obtain rfl : bundle.routerIntf = r :=
    Option.some.inj ((routerIntf_of_lookup hlookup).symm.trans hb)
  obtain ⟨o₁, hremove, hrest⟩ := thenOk_zero.mp h
  obtain ⟨bundle₁, hlookup₁, hrest⟩ := ofbundle_bind.mp hrest
  have hb₁ := routerIntf_of_lookup hlookup₁
  cases hc : bundle.routerIntf.created with
  | false =>
    rw [hc] at hremove
    cases hremove
    obtain rfl : bundle₁ = bundle := Option.some.inj (hlookup₁.symm.trans hlookup)
    rw [hc] at hrest
    obtain ⟨hok', rifid, row, hb', hrow, htype⟩ := routerIntfCreateEnable_rifView hok hb hc hrest
    refine ⟨hok', _, row, hb', rfl, rfl, rfl, hrow, ?_, ?_, fun _ => ⟨rfl, htype⟩⟩
    · intro ht
      cases hc.symm.trans ht
    · intro ht
      cases hc.symm.trans ht
  | true =>
    by_cases hh : bundle.routerIntf.handle = handle
    · have hkeep : (bundle.routerIntf.created && bundle.routerIntf.handle != handle) = false := by
        simp [hh]
      rw [hkeep] at hremove
      cases hremove
      obtain rfl : bundle₁ = bundle := Option.some.inj (hlookup₁.symm.trans hlookup)
      rw [hc] at hrest
      obtain ⟨row, hrow, -⟩ := hok.exists_row hb hc
      obtain ⟨hok', hb', hrow'⟩ := routerIntfEnable_rifView hok hb hc hrow hrest
      refine ⟨hok', _, _, hb', hc, rfl, hh, hrow', fun _ _ => ⟨rfl, ?_⟩, fun _ hne => ?_, ?_⟩
      · rw [hrow]
        rfl
      · exact absurd hh hne
      · intro hf
        cases hc.symm.trans hf
    · have hgone : (bundle.routerIntf.created && bundle.routerIntf.handle != handle) = true := by
        simp [hc, hh]
      rw [hgone] at hremove
      obtain ⟨hok₁, r, hr₁, hzero⟩ := ofbundleRouterIntfRemove_rifView hr hok hremove
      cases hr₁.symm.trans hb
      rw [hc] at hzero
      have hz : bundle₁.routerIntf = .zero := Option.some.inj (hb₁.symm.trans hzero)
      rw [hz] at hrest hb₁
      obtain ⟨hok', rifid, row, hb', hrow, htype⟩ :=
        routerIntfCreateEnable_rifView hok₁ hb₁ rfl hrest
      refine ⟨hok', _, row, hb', rfl, rfl, rfl, hrow, fun _ heq => ?_, fun _ _ => ⟨rfl, htype⟩, ?_⟩
      · exact absurd heq hh
      · intro hf
        cases hc.symm.trans hf

theorem routerIntfApply_zero (hwill : o.Willing) (hr : o.NoRoutes) (hok : o.rifView.Ok)
    (h : routerIntfApply b rifType handle enable o = .ok (st, o')) : st = 0 := by
  obtain ⟨bundle, hlookup, h⟩ := ofbundle_bind.mp h
  have hb := routerIntf_of_lookup hlookup
  -- the state in which the interface, if it stays, has the number asked for
  have hfirst : ∀ {st₁ o₁}, (if bundle.routerIntf.created && bundle.routerIntf.handle != handle then
      ofbundleRouterIntfRemove b else pure 0) o = .ok (st₁, o₁) →
      st₁ = 0 ∧ o₁.Willing ∧ o₁.rifView.Ok := by
    intro st₁ o₁ h₁
    split at h₁
    next =>
      obtain rfl := ofbundleRouterIntfRemove_zero hwill hr hok h₁
      exact ⟨rfl, (ofbundleRouterIntfRemove_sameButRif _ _ _ h₁).evolves.willing hwill,
        (ofbundleRouterIntfRemove_rifView hr hok h₁).1⟩
    next =>
      cases h₁
      exact ⟨rfl, hwill, hok⟩
  rcases thenOk_ok.mp h with ⟨hfail, h0⟩ | ⟨o₁, hremove, h⟩
  · exact absurd (hfirst hfail).1 h0
  obtain ⟨-, hwill₁, hok₁⟩ := hfirst hremove
  obtain ⟨bundle₁, hlookup₁, h⟩ := ofbundle_bind.mp h
  have hb₁ := routerIntf_of_lookup hlookup₁
  split at h
  next => exact routerIntfEnable_zero hwill₁ hok₁ h
  next hc =>
    rcases thenOk_ok.mp h with ⟨hfail, h0⟩ | ⟨o₂, hcreate, h⟩
    · exact absurd (routerIntfCreate_succeeds _ _ _ hwill₁ hfail).1 h0
    · obtain ⟨-, hwill₂⟩ := routerIntfCreate_succeeds _ _ _ hwill₁ hcreate
      obtain ⟨hok₂, -⟩ := routerIntfCreate_rifView hok₁ hb₁ (Bool.eq_false_iff.mpr hc) hcreate
      exact routerIntfEnable_zero hwill₂ hok₂ h

end

/-! ## Runs -/

theorem SameButVlan.rifView (h : SameButVlan o o') : o'.rifView = o.rifView := by
  unfold OfprotoSai.rifView
  rw [h.routerIntf]
  exact congrArg (fun t : Hw.L3 =>
    (⟨⟨t.routerIntfs, t.counters, t.allRouterIntf⟩, t.oid, _⟩ : RifView)) h.hw.1

theorem SameButIp.rifView (h : SameButIp o o') : o'.rifView = o.rifView := by
  unfold OfprotoSai.rifView
  rw [h.routerIntf]
  exact congrArg (fun t : Hw.ButRoutes =>
    (⟨⟨t.routerIntfs, t.counters, t.allRouterIntf⟩, t.oid, _⟩ : RifView)) h.hw.same.1

theorem ite_vlans_rifTables {c : Prop} [Decidable c] {m : Exec Hw Int} {hw hw' : Hw}
    (hm : Rel (Hw.Same Hw.l3) m) (h : (if c then m else pure 0) hw = .ok (st, hw')) :
    hw'.rifTables = hw.rifTables ∧ hw'.opsSaiApiHwId2PortId = hw.opsSaiApiHwId2PortId := by
  obtain ⟨hl3, -⟩ := Rel.ite hm (Rel.pure 0) _ _ _ h
  exact ⟨congrArg (fun t : Hw.L3 => (⟨t.routerIntfs, t.counters, t.allRouterIntf⟩ : RifTables)) hl3,
    congrArg Hw.L3.oid hl3⟩

theorem rifView_of {hw : Hw} {bundle bundle' : OfbundleSai}
    (ht : hw.rifTables = o.hw.rifTables)
    (hoid : hw.opsSaiApiHwId2PortId = o.hw.opsSaiApiHwId2PortId)
    (hb : o.bundles.lookup b = some bundle) (hr : bundle'.routerIntf = bundle.routerIntf) :
    (OfprotoSai.setBundle b bundle' { o with hw := hw }).rifView = o.rifView := by
  unfold OfprotoSai.rifView
  rw [setBundle_bundlesBy (o := { o with hw := hw }) hb hr]
  show (⟨hw.rifTables, hw.opsSaiApiHwId2PortId, _⟩ : RifView) = _
  rw [ht, hoid]
  rfl

theorem ofbundlePortDel_rifView (h : ofbundlePortDel p o = .ok (st, o')) :
    o'.rifView = o.rifView := by
  obtain ⟨port, b, bundle, hw, -, -, hb, hvlans, rfl⟩ := ofbundlePortDel_ok h
  obtain ⟨ht, hoid⟩ := ite_vlans_rifTables portVlansLeave_l3 hvlans
  exact rifView_of ht hoid hb rfl

/-- What holds in every state of a run in which every call into the hardware succeeds. -/
structure RifInv (o : OfprotoSai) : Prop where
  willing : o.Willing
  noRoutes : o.NoRoutes
  ok : o.rifView.Ok

theorem RifInv.of_eq (hinv : RifInv o) (hevolves : Evolves o o') (hshrink : RifsShrink o o')
    (hview : o'.rifView = o.rifView) : RifInv o' :=
  ⟨hevolves.willing hinv.willing, (hshrink hinv.noRoutes).1, hview ▸ hinv.ok⟩

theorem ofbundlePortDel_rifInv : Keeps RifInv (ofbundlePortDel p) := fun _ _ _ h hinv =>
  hinv.of_eq (ofbundlePortDel_evolves _ _ _ h) (ofbundlePortDel_rifsShrink _ _ _ h)
    (ofbundlePortDel_rifView h)

theorem vlanReconfigure_rifInv : Keeps RifInv (vlanReconfigure b s) := fun _ _ _ h hinv => by
  have hsame := vlanReconfigure_sameButVlan _ _ _ h
  exact hinv.of_eq hsame.evolves hsame.rifsShrink hsame.rifView

section
variable [OvsLib] [Build]

omit [OvsLib] [Build] in
theorem sameButIp_rifInv {α : Type} {m : Exec OfprotoSai α} (hm : Rel SameButIp m) :
    Keeps RifInv m := fun _ _ _ h hinv => by
  have hsame := hm _ _ _ h
  exact hinv.of_eq hsame.evolves hsame.rifsShrink hsame.rifView

/-- The interface of a bundle that is destroyed is removed. -/
theorem ofbundleDestroy_rifInv : Keeps RifInv (ofbundleDestroy b) := by
  intro o _ o' h hinv
  have hevolves := ofbundleDestroy_evolves _ _ _ h
  have hno := (ofbundleDestroy_rifsShrink _ _ _ h hinv.noRoutes).1
  refine ⟨hevolves.willing hinv.willing, hno, ?_⟩
  obtain ⟨st₁, o₁, st₂, o₂, bundle, o₃, hip, hrif, hb, hports, rfl⟩ := ofbundleDestroy_ok h
  have hinv₁ := sameButIp_rifInv ofbundleIpRemove_sameButIp _ _ _ hip hinv
  obtain rfl := ofbundleRouterIntfRemove_zero hinv₁.willing hinv₁.noRoutes hinv₁.ok hrif
  obtain ⟨hok₂, r, -, hr⟩ := ofbundleRouterIntfRemove_rifView hinv₁.noRoutes hinv₁.ok hrif
  have hframe : Frame OfprotoSai.rifView
      (forAll bundle.ports fun p => do let _ ← ofbundlePortDel p; pure ()) :=
    Rel.forAll fun _ => Rel.bind (fun _ _ _ => ofbundlePortDel_rifView) fun _ => Rel.pure _
  have hview : o₃.rifView = o₂.rifView := hframe _ _ _ hports
  have hrec : o₃.rifView.record b = none := by
    rw [hview, RifView.record_eq hr]
    split
    next => rfl
    next hc => exact RouterIntf.record_none (Bool.eq_false_iff.mpr hc)
  have hok₃ : o₃.rifView.Ok := hview ▸ hok₂
  refine (hok₃.setRecord (x := none) hrec.symm).congr rfl rfl ?_
  refine congrArg (fun f => RifView.record ⟨_, _, f⟩) (funext fun b' => ?_)
  show (AList.lookup b' (o₃.bundles.erase b)).map _ = Function.update (o₃.bundlesBy _) b none b'
  rw [lookup_erase, Function.update_apply]
  split <;> rfl

theorem bundleRemove_rifInv : Keeps RifInv (bundleRemove p) :=
  bundleRemove_rel (fun _ => ofbundlePortDel_rifInv) fun _ => ofbundleDestroy_rifInv

theorem ofbundlePortAdd_rifInv {sPort : Option OfpPort} :
    Keeps RifInv (ofbundlePortAdd b sPort) := by
  intro o st o' h hinv
  refine ⟨(ofbundlePortAdd_evolves _ _ _ h).willing hinv.willing,
    (ofbundlePortAdd_rifsShrink _ _ _ h hinv.noRoutes).1, ?_⟩
  obtain ⟨p, port, o₁, port₁, bundle, hw, -, -, hremove, -, hb, hvlans, rfl⟩ :=
    ofbundlePortAdd_ok h
  obtain ⟨ht, hoid⟩ := ite_vlans_rifTables portVlansJoin_l3 hvlans
  have hview : ({ o₁ with hw := hw }.attachPort p port₁ b bundle).rifView = o₁.rifView :=
    rifView_of ht hoid hb rfl
  rw [hview]
  exact (bundleRemove_rifInv _ _ _ hremove hinv).ok

theorem ofbundleRouterIntfReconfigure_rifInv :
    Keeps RifInv (ofbundleRouterIntfReconfigure b s) := by
  intro o st o' h hinv
  have hsame := ofbundleRouterIntfReconfigure_sameButRif _ _ _ h
  refine ⟨hsame.evolves.willing hinv.willing,
    ofbundleRouterIntfReconfigure_noRoutes _ _ _ h hinv.noRoutes, ?_⟩
  obtain ⟨-, slave, -, hcase⟩ := ofbundleRouterIntfReconfigure_cases h
  rcases hcase with ⟨-, -, rfl⟩ | ⟨port, -, ⟨-, -, rfl⟩ | ⟨-, -, bundle, hb, rfl⟩ |
    ⟨rifType, handle, -, happly⟩⟩
  · exact hinv.ok
  · exact hinv.ok
  · rw [setBundle_rifView]
    refine hinv.ok.setRecord ?_
    rw [RifView.record_eq (routerIntf_of_lookup hb)]
    rfl
  · obtain rfl := routerIntfApply_zero hinv.willing hinv.noRoutes hinv.ok happly
    obtain ⟨bundle, hb, -⟩ := ofbundle_bind.mp happly
    exact (routerIntfApply_rifView hinv.noRoutes hinv.ok (routerIntf_of_lookup hb) happly).1

theorem bundleApply_rifInv : Keeps RifInv (bundleApply b s) :=
  bundleApply_rel
    (ofbundlePortsReconfigure_rel (fun _ => ofbundlePortDel_rifInv) vlanReconfigure_rifInv
      fun _ => ofbundlePortAdd_rifInv)
    ofbundleRouterIntfReconfigure_rifInv (sameButIp_rifInv ofbundleIpReconfigure_sameButIp)

omit [OvsLib] [Build] in
theorem ofbundleLookupOrCreate_rifInv {aux : Nat} :
    Keeps RifInv (ofbundleLookupOrCreate aux s) := by
  refine ofbundleLookupOrCreate_rel fun o b cs hb hinv => ?_
  refine ⟨hinv.willing, fun b' bundle hb' => ?_, ?_⟩
  · rw [setBundle_lookup] at hb'
    split at hb'
    next =>
      cases hb'
      rfl
    next => exact hinv.noRoutes b' bundle hb'
  · rw [setBundle_rifView]
    refine hinv.ok.setRecord (v := o.rifView) (x := some .zero) ?_
    simp [RifView.record, OfprotoSai.rifView, bundlesBy, hb, RouterIntf.record, RouterIntf.zero]

variable [OpenswitchIdl]

theorem BundleCall.run_rifInv {c : BundleCall} : Keeps RifInv c.run :=
  BundleCall.run_rel (fun _ _ _ => ofbundleLookupOrCreate_rifInv)
    (fun _ _ _ _ => bundleApply_rifInv) (fun _ => ofbundleDestroy_rifInv)
    fun _ => bundleRemove_rifInv

omit [OvsLib] [Build] [OpenswitchIdl] in
theorem new_rifInv {vrid : Nat} {ofports : OfpPort → Option OfportSai} {hw : Hw}
    (hwill : hw.Willing) (hempty : hw.rifTables = ⟨∅, [], []⟩) :
    RifInv (.new .vrf vrid ofports hw) := by
  refine ⟨hwill, fun b bundle hb => (by cases hb), ?_⟩
  show RifView.Ok ⟨hw.rifTables, _, _⟩
  rw [hempty]
  exact RifView.Ok.empty

end

/-! ## The interface that settings ask for -/

namespace OfprotoSai

/-- The state in which the calls to come have the given outcomes. -/
def withOutcomes (outcomes : List SaiStatus) (o : OfprotoSai) : OfprotoSai :=
  { o with hw := { o.hw with outcomes := outcomes } }

/-- An interface of the hardware that no other bundle has recorded belongs to `b`. -/
def OwnsRif (o : OfprotoSai) (b : BundlePtr) (rif : Nat) : Prop :=
  rif ∈ o.hw.routerIntfs ∧ ∀ b', b' ≠ b → o.rif b' ≠ some rif

/-- One interface belongs to `b`. It has the given type, port or VLAN, and admin state. -/
def OwnsOne (o : OfprotoSai) (b : BundlePtr) (type : RouterIntfType) (ifc : Nat) (enable : Bool) :
    Prop :=
  ∃ rif row, (∀ rif', o.OwnsRif b rif' ↔ rif' = rif) ∧ o.hw.routerIntfs.lookup rif = some row ∧
    row.type = type ∧ row.ifc = ifc ∧ row.enabled = enable

/-- The interface of `b` is the one that the settings ask for with `netdev` as the slave. -/
def RifFollows (o : OfprotoSai) (b : BundlePtr) (netdev : NetdevSai) (s : OfprotoBundleSettings) :
    Prop :=
  match netdev.type with
  | .internal => o.OwnsOne b .vlan s.vlan.toNat s.enable ∧
      o.bundlesBy (·.routerIntf.isLoopback) b = some false
  | .system => o.OwnsOne b .port (o.hw.opsSaiApiHwId2PortId netdev.netdevSaiHwIdGet) s.enable ∧
      o.bundlesBy (·.routerIntf.isLoopback) b = some false
  | .loopback => (∀ rif, ¬o.OwnsRif b rif) ∧
      o.bundlesBy (·.routerIntf.isLoopback) b = some true
  | .vlansubint => (∀ rif, ¬o.OwnsRif b rif) ∧
      o.bundlesBy (·.routerIntf.isLoopback) b = some false

/-- What the bundle has recorded is not in the way of the settings. An interface with another number
is replaced. One with the same number stays, whatever it is. The loopback flag is reset only when an
interface is removed, and no interface is removed for settings that need none. -/
def RifFits (o : OfprotoSai) (r : RouterIntf) (netdev : NetdevSai) (s : OfprotoBundleSettings) :
    Prop :=
  match routerIntfHandle netdev s with
  | some (type, handle) =>
    if r.created = true ∧ r.handle ≠ handle then True
    else r.isLoopback = false ∧ (r.created = true →
      (o.hw.routerIntfs.lookup r.rifid).map (·.type) = some type)
  | none => r.created = false ∧ (netdev.type = .vlansubint → r.isLoopback = false)

end OfprotoSai

theorem rif_eq_some {rif : Nat} :
    o.rif b = some rif ↔ ∃ d, o.rifView.record b = some (rif, d) := by
  show (o.bundles.lookup b).bind OfbundleSai.rif = some rif ↔
    ∃ d, ((o.bundles.lookup b).map _).bind RouterIntf.record = some (rif, d)
  cases o.bundles.lookup b with
  | none => simp
  | some bundle =>
    cases hc : bundle.routerIntf.created <;>
      simp [OfbundleSai.rif, RouterIntf.record, hc]

/-- What belongs to a bundle is what it has recorded. -/
theorem ownsRif_iff {rif : Nat} (hok : o.rifView.Ok) (hb : o.rifView.routerIntf b = some r) :
    o.OwnsRif b rif ↔ r.created = true ∧ rif = r.rifid := by
  have hrec := RifView.record_eq hb
  constructor
  · rintro ⟨hin, hother⟩
    obtain ⟨row, hrow⟩ := Option.isSome_iff_exists.mp (AList.lookup_isSome.mpr hin)
    obtain ⟨d, hd⟩ := hok.owned.owner_eq (k := b) hrow
      fun b' d hne hd => hother b' hne (rif_eq_some.2 ⟨d, hd⟩)
    rw [hrec] at hd
    cases hc : r.created with
    | false =>
      rw [RouterIntf.record_none hc] at hd
      cases hd
    | true =>
      rw [RouterIntf.record_created hc] at hd
      cases hd
      exact ⟨rfl, rfl⟩
  · rintro ⟨hc, rfl⟩
    rw [RouterIntf.record_created hc] at hrec
    obtain ⟨row, hrow, -⟩ := hok.exists_row hb hc
    refine ⟨AList.lookup_isSome.mp (Option.isSome_iff_exists.mpr ⟨row, hrow⟩), fun b' hne hb' => ?_⟩
    obtain ⟨d, hd⟩ := rif_eq_some.1 hb'
    exact hne (hok.owned.distinct b' b r.rifid d _ hd hrec)

theorem isLoopback_of_record (hb : o.rifView.routerIntf b = some r) :
    o.bundlesBy (·.routerIntf.isLoopback) b = some r.isLoopback := by
  obtain ⟨bundle, hlookup, rfl⟩ := Option.map_eq_some_iff.mp hb
  rw [bundlesBy, hlookup]
  rfl

theorem not_ownsRif_iff (hok : o.rifView.Ok) (hb : o.rifView.routerIntf b = some r) :
    (∀ rif, ¬o.OwnsRif b rif) ↔ r.created = false := by
  simp [ownsRif_iff hok hb]

/-- The interface of a bundle after a reconfiguration has its type if it did not have another. -/
theorem ownsOne_iff {v : RifView} {r' : RouterIntf} {row : HwRouterIntf}
    {type rifType : RouterIntfType} {handle : Nat} {enable : Bool} (hok : o.rifView.Ok)
    (happly : RifApplied v o.rifView b r rifType handle enable r' row) :
    o.OwnsOne b type (intfIfc o.hw.opsSaiApiHwId2PortId handle type) enable ↔ row.type = type := by
  obtain ⟨row', hrow', hen, hifc⟩ := hok.exists_row happly.record happly.created
  cases happly.row.symm.trans hrow'
  have howns : ∀ rif, o.OwnsRif b rif ↔ rif = r'.rifid := fun rif =>
    (ownsRif_iff hok happly.record).trans (and_iff_right happly.created)
  constructor
  · rintro ⟨rif, row', hone, hrow, rfl, -, -⟩
    obtain rfl : rif = r'.rifid := (howns rif).mp ((hone rif).mpr rfl)
    cases happly.row.symm.trans hrow
    rfl
  · rintro rfl
    refine ⟨r'.rifid, row, howns, happly.row, rfl, ?_, hen.trans happly.enabled⟩
    rw [hifc, happly.handle]
    rfl

/-- A bundle follows settings that need an interface exactly if what it has fits. -/
theorem RifApplied.follows_iff {r' : RouterIntf} {row : HwRouterIntf} {rifType : RouterIntfType}
    {handle : Nat} {enable : Bool}
    (h : RifApplied o.rifView o'.rifView b r rifType handle enable r' row) :
    (row.type = rifType ∧ r'.isLoopback = false) ↔
      if r.created = true ∧ r.handle ≠ handle then True
      else r.isLoopback = false ∧ (r.created = true →
        (o.hw.routerIntfs.lookup r.rifid).map (·.type) = some rifType) := by
  cases hc : r.created with
  | false =>
    obtain ⟨hloop, htype⟩ := h.added hc
    simp [hloop, htype]
  | true =>
    by_cases hh : r.handle = handle
    · obtain ⟨hloop, htype⟩ := h.kept hc hh
      have htype : (o.hw.routerIntfs.lookup r.rifid).map (·.type) = some row.type := htype
      simp only [hh, ne_eq, not_true, and_false, if_false, hloop, htype, Option.some.injEq,
        true_imp_iff]
      exact and_comm
    · obtain ⟨hloop, htype⟩ := h.replaced hc hh
      simp [hh, hloop, htype]

theorem intfIfc_vlan {oid : Nat → Nat} {vlan : Int} (h : 1 ≤ vlan ∧ vlan ≤ 4094) :
    intfIfc oid (handleOfInt vlan) .vlan = vlan.toNat := by
  show (vlan % 2 ^ 64).toNat % 65536 = vlan.toNat
  omega

section
variable [OvsLib] [Build] {port : OfportSai} {bundle : OfbundleSai}

omit [OvsLib] [Build] in
/-- The two kinds of settings that need an interface. -/
theorem rifFollows_iff_ownsOne {rifType : RouterIntfType} {handle : Nat} {netdev : NetdevSai}
    (hvlan : netdev.type = .internal → 1 ≤ s.vlan ∧ s.vlan ≤ 4094)
    (hhandle : routerIntfHandle netdev s = some (rifType, handle)) :
    o.RifFollows b netdev s ↔
      o.OwnsOne b rifType (intfIfc o.hw.opsSaiApiHwId2PortId handle rifType) s.enable ∧
        o.bundlesBy (·.routerIntf.isLoopback) b = some false := by
  unfold routerIntfHandle at hhandle
  unfold OfprotoSai.RifFollows
  cases htype : netdev.type with
  | internal =>
    rw [htype] at hhandle
    cases hhandle
    rw [intfIfc_vlan (hvlan htype)]
  | system =>
    rw [htype] at hhandle
    cases hhandle
    exact Iff.rfl
  | loopback | vlansubint =>
    rw [htype] at hhandle
    cases hhandle

/-- One reconfiguration, from a state in which every interface belongs to a bundle. -/
theorem ofbundleRouterIntfReconfigure_follows_iff {p : OfpPort} (hr : o.NoRoutes)
    (hok : o.rifView.Ok) (hb : o.bundles.lookup b = some bundle) (hslaves : s.slaves = [p])
    (hport : o.ofports p = some port)
    (hvlan : port.netdev.type = .internal → 1 ≤ s.vlan ∧ s.vlan ≤ 4094)
    (h : ofbundleRouterIntfReconfigure b s o = .ok (0, o')) :
    o'.RifFollows b port.netdev s ↔ o.RifFits bundle.routerIntf port.netdev s := by
  have hrec := routerIntf_of_lookup hb
  obtain ⟨-, slave, hslave, hcase⟩ := ofbundleRouterIntfReconfigure_cases h
  rw [hslaves] at hslave
  obtain rfl : p = slave := Option.some.inj hslave
  rcases hcase with ⟨hnone, -⟩ | ⟨port', hport', hcase⟩
  · cases hnone.symm.trans hport
  obtain rfl : port' = port := Option.some.inj (hport'.symm.trans hport)
  rcases hcase with ⟨htype, -, rfl⟩ | ⟨htype, -, bundle', hb', rfl⟩ | ⟨rifType, handle, hhandle, h⟩
  · simp only [OfprotoSai.RifFollows, OfprotoSai.RifFits, routerIntfHandle, htype,
      not_ownsRif_iff hok hrec, isLoopback_of_record hrec, Option.some.injEq, true_imp_iff]
  · obtain rfl : bundle' = bundle := Option.some.inj (hb'.symm.trans hb)
    have hrec' : (o.setBundle b { bundle' with
        routerIntf := { bundle'.routerIntf with isLoopback := true } }).rifView.routerIntf b =
        some { bundle'.routerIntf with isLoopback := true } := by
      rw [setBundle_rifView]
      exact Function.update_self ..
    have hok' : (o.setBundle b { bundle' with
        routerIntf := { bundle'.routerIntf with isLoopback := true } }).rifView.Ok := by
      rw [setBundle_rifView]
      refine hok.setRecord ?_
      rw [RifView.record_eq hrec]
      rfl
    simp only [OfprotoSai.RifFollows, OfprotoSai.RifFits, routerIntfHandle, htype,
      not_ownsRif_iff hok' hrec', isLoopback_of_record hrec', and_true, reduceCtorEq,
      false_imp_iff]
  · obtain ⟨hok', r', row, happly⟩ := routerIntfApply_rifView hr hok hrec h
    rw [rifFollows_iff_ownsOne hvlan hhandle, ownsOne_iff hok' happly,
      isLoopback_of_record happly.record, Option.some.injEq, happly.follows_iff]
    simp only [OfprotoSai.RifFits, hhandle]

variable [OpenswitchIdl]

/-- **The router interface follows the settings**, after a run on a VRF in which every call into the
hardware has succeeded, exactly if what the bundle has recorded is not in the way. -/
theorem routerIntf_follows_iff {vrid : Nat} {ofports : OfpPort → Option OfportSai} {hw : Hw}
    (hwill : hw.Willing) (hempty : hw.rifTables = ⟨∅, [], []⟩)
    (H : Reaches (fun _ _ => True) BundleCall.run (.new .vrf vrid ofports hw) o)
    {p : OfpPort} (hb : o.bundles.lookup b = some bundle) (hslaves : s.slaves = [p])
    (hport : o.ofports p = some port)
    (hvlan : port.netdev.type = .internal → 1 ≤ s.vlan ∧ s.vlan ≤ 4094)
    {outcomes : List SaiStatus}
    (h : ofbundleRouterIntfReconfigure b s (o.withOutcomes outcomes) = .ok (0, o')) :
    o'.RifFollows b port.netdev s ↔ o.RifFits bundle.routerIntf port.netdev s := by
  have hinv := H.invariant (I := RifInv) (fun _ _ _ _ _ => BundleCall.run_rifInv _ _ _)
    (new_rifInv hwill hempty)
  exact ofbundleRouterIntfReconfigure_follows_iff (o := o.withOutcomes outcomes) hinv.noRoutes
    hinv.ok hb hslaves hport hvlan h

end

/-! ### Examples -/

section
attribute [local instance] sampleOvs sampleBuild sampleIdl

/-- The bundle of port 1 moves to port 2: its interface is replaced. -/
theorem routerIntf_follows_iff_move :
    ∃ (o o' : OfprotoSai) (port : OfportSai),
      Reaches (fun _ _ => True) BundleCall.run (.new .vrf 0 samplePorts .reset) o ∧
      o.ofports 2 = some port ∧
      ofbundleRouterIntfReconfigure 0 { accessSettings 2 with slaves := [2] } (o.withOutcomes []) =
        .ok (0, o') ∧
      o'.RifFollows 0 port.netdev { accessSettings 2 with slaves := [2] } := by
  obtain ⟨o', hrun⟩ := result_eq_some.mp (show result (do
    let st₁ ← BundleCall.run (.set 1 (some (accessSettings 2)))
    let r ← gets fun o => decide (o.bundlesBy (·.routerIntf) 0 = some ⟨true, true, 1, 0, false⟩ ∧
      o.ofports 2 = some (samplePort .system 2))
    modify (OfprotoSai.withOutcomes [])
    let st₂ ← ofbundleRouterIntfReconfigure 0 { accessSettings 2 with slaves := [2] }
    pure (st₁, r, st₂)) (.new .vrf 0 samplePorts .reset) = some (0, true, 0) by decide +kernel)
  obtain ⟨st₁, o, hset, hrun⟩ := bind_ok.mp hrun
  rw [gets_bind, modify_bind] at hrun
  obtain ⟨st₂, o₂, happly, hend⟩ := bind_ok.mp hrun
  simp only [pure_apply, Except.ok.injEq, Prod.mk.injEq] at hend
  obtain ⟨⟨rfl, hr, rfl⟩, rfl⟩ := hend
  obtain ⟨hb, hport⟩ := of_decide_eq_true hr
  obtain ⟨bundle, hlookup, hrec⟩ := Option.map_eq_some_iff.mp hb
  have H : Reaches (fun _ _ => True) BundleCall.run (.new .vrf 0 samplePorts .reset) o :=
    .tail .refl ⟨_, 0, trivial, hset⟩
  have hwill : Hw.reset.Willing := rfl
  refine ⟨o, o₂, _, H, hport, happly, (routerIntf_follows_iff hwill rfl H hlookup rfl hport
    (fun h => by cases h) happly).mpr ?_⟩
  rw [hrec]
  exact trivial

/-- An internal port and a system port whose label is 2. -/
def internalPorts (p : OfpPort) : Option OfportSai :=
  if p = 1 then some (samplePort .internal 0)
  else if p = 2 then some (samplePort .system 2) else none

/-- The bundle of an internal port on VLAN 2 moves to the port with label 2: it keeps the interface
for the VLAN. -/
theorem rif_stays_vlan :
    ∃ (o o' : OfprotoSai) (port : OfportSai),
      Reaches (fun _ _ => True) BundleCall.run (.new .vrf 0 internalPorts .reset) o ∧
      o.ofports 2 = some port ∧ port.netdev.type = .system ∧
      ofbundleRouterIntfReconfigure 0 { accessSettings 2 with slaves := [2] } (o.withOutcomes []) =
        .ok (0, o') ∧
      ¬o'.RifFollows 0 port.netdev { accessSettings 2 with slaves := [2] } := by
  obtain ⟨o', hrun⟩ := result_eq_some.mp (show result (do
    let st₁ ← BundleCall.run (.set 1 (some (accessSettings 2)))
    let r₁ ← gets fun o => decide (o.ofports 2 = some (samplePort .system 2))
    modify (OfprotoSai.withOutcomes [])
    let st₂ ← ofbundleRouterIntfReconfigure 0 { accessSettings 2 with slaves := [2] }
    let r₂ ← gets fun o => decide (o.hw.routerIntfs.keys = [0] ∧
      (o.hw.routerIntfs.lookup 0).map (·.type) = some .vlan)
    pure (st₁, r₁, st₂, r₂)) (.new .vrf 0 internalPorts .reset) = some (0, true, 0, true) by
      decide +kernel)
  obtain ⟨st₁, o, hset, hrun⟩ := bind_ok.mp hrun
  rw [gets_bind, modify_bind] at hrun
  obtain ⟨st₂, o₂, happly, hend⟩ := bind_ok.mp hrun
  rw [gets_bind, pure_apply] at hend
  simp only [Except.ok.injEq, Prod.mk.injEq] at hend
  obtain ⟨⟨rfl, hr₁, rfl, hr₂⟩, rfl⟩ := hend
  obtain ⟨hkeys, htype⟩ := of_decide_eq_true hr₂
  refine ⟨o, o₂, _, .tail .refl ⟨_, 0, trivial, hset⟩, of_decide_eq_true hr₁, rfl, happly, ?_⟩
  rintro ⟨⟨rif, row, -, hrow, hport, -⟩, -⟩
  have hin : rif ∈ o₂.hw.routerIntfs.keys :=
    AList.lookup_isSome.mp (Option.isSome_iff_exists.mpr ⟨row, hrow⟩)
  rw [hkeys] at hin
  obtain rfl := List.mem_singleton.mp hin
  rw [hrow, Option.map_some, hport] at htype
  cases htype

end

end SwitchdSai
