import SwitchdSai.Verify.Addresses
import SwitchdSai.Verify.Calls
import SwitchdSai.Verify.Configs
import SwitchdSai.Verify.Handles
import SwitchdSai.Verify.IpReconfigure
import SwitchdSai.Verify.Links

/-!
# What the status of `__bundle_set` says

The statuses of the functions that program the router interface and the addresses are dropped, so
that `__bundle_set` returns zero whether they fail or not. It has done what its settings ask for
exactly when every status that is dropped is zero, with two reservations: an interface whose local
routes cannot be deleted stays as it is, and a secondary address of the other version may be taken
for one that is recorded already.
-/

namespace SwitchdSai

open Exec OfprotoSai

variable {o o' : OfprotoSai} {b : BundlePtr} {s : OfprotoBundleSettings} {st : Int}
  {rifType : RouterIntfType} {handle : Nat} {enable : Bool} {r : RouterIntf}

/-! ## The record of the router interface -/

theorem setRouterIntfHandles_bundles {h : Option BundlePtr} {ports : List OfpPort} :
    Frame OfprotoSai.bundles (forEach ports fun p => netdevSaiSetRouterIntfHandle p h) :=
  Rel.forEach fun _ => setRouterIntfHandle_frame.comp fun t => t.2.1

theorem setBundle_routerIntf {bundle : OfbundleSai} :
    (o.setBundle b bundle).bundlesBy (·.routerIntf) b = some bundle.routerIntf := by
  rw [bundlesBy, setBundle_lookup, if_pos rfl, Option.map_some]

theorem routerIntfCreate_record (h : routerIntfCreate b rifType handle o = .ok (0, o')) :
    ∃ r, o'.bundlesBy (·.routerIntf) b = some r ∧ r.created = true ∧ r.handle = handle := by
  obtain ⟨bundle, rifid, hw, -, -, hend⟩ := routerIntfCreate_ok h
  obtain ⟨-, hset⟩ := hend.resolve_left fun hfail => hfail.1 rfl
  refine ⟨{ bundle.routerIntf with
    created := true, enabled := false, handle := handle, rifid := rifid }, ?_, rfl, rfl⟩
  rw [bundlesBy, setRouterIntfHandles_bundles _ _ _ hset]
  exact setBundle_routerIntf

theorem routerIntfEnable_record (hb : o.bundlesBy (·.routerIntf) b = some r)
    (hc : r.created = true) (h : routerIntfEnable b enable o = .ok (0, o')) :
    o'.bundlesBy (·.routerIntf) b = some { r with enabled := enable } := by
  obtain ⟨bundle, hlookup, h⟩ := ofbundle_bind.mp h
  obtain rfl : bundle.routerIntf = r := by
    simpa [bundlesBy, hlookup] using hb
  split at h
  next hne =>
    obtain ⟨o₁, hset, hend⟩ := thenOk_zero.mp h
    obtain ⟨hw, -, rfl⟩ := onHw_ok.mp hset
    obtain ⟨bundle', hlookup', hend⟩ := modifyBundle_bind.mp hend
    cases hend
    obtain rfl : bundle' = bundle := Option.some.inj (hlookup'.symm.trans hlookup)
    exact setBundle_routerIntf
  next hne =>
    cases h
    have hsame : bundle.routerIntf.enabled = enable := by simpa [hc] using hne
    rw [hb, ← hsame]

section
variable [OvsLib] [Build]

theorem ofbundleRouterIntfRemove_record (h : ofbundleRouterIntfRemove b o = .ok (0, o')) :
    ∃ r, o'.bundlesBy (·.routerIntf) b = some r ∧ r.created = false := by
  rcases ofbundleRouterIntfRemove_ok h with ⟨-, h0⟩ | ⟨o₁, bundle, -, hb₁, hcases⟩
  · exact absurd rfl h0
  rcases hcases with ⟨hc, -, rfl⟩ | ⟨-, o₂, hw, -, -, hend⟩
  · exact ⟨_, by simp [bundlesBy, hb₁], hc⟩
  · obtain ⟨-, rfl⟩ := hend.resolve_left fun hfail => hfail.1 rfl
    exact ⟨_, setBundle_routerIntf, rfl⟩

/-- A reconfiguration of the router interface that succeeds, from any state. -/
theorem routerIntfApply_record (h : routerIntfApply b rifType handle enable o = .ok (0, o')) :
    ∃ r, o'.bundlesBy (·.routerIntf) b = some r ∧ r.created = true ∧ r.handle = handle ∧
      r.enabled = enable := by
  obtain ⟨bundle, hb, h⟩ := ofbundle_bind.mp h
  obtain ⟨o₁, hmove, h⟩ := thenOk_zero.mp h
  obtain ⟨bundle₁, hb₁, h⟩ := ofbundle_bind.mp h
  obtain ⟨o₂, hcreate, henable⟩ := thenOk_zero.mp h
  suffices hr : ∃ r, o₂.bundlesBy (·.routerIntf) b = some r ∧ r.created = true ∧
      r.handle = handle by
    obtain ⟨r, hr, hc, hh⟩ := hr
    exact ⟨_, routerIntfEnable_record hr hc henable, hc, hh, rfl⟩
  by_cases hc₁ : bundle₁.routerIntf.created = true
  · -- the interface has not been given up
    rw [if_pos hc₁] at hcreate
    cases hcreate
    split at hmove
    next hne =>
      obtain ⟨r, hr, hc⟩ := ofbundleRouterIntfRemove_record hmove
      rw [bundlesBy, hb₁, Option.map_some, Option.some.injEq] at hr
      rw [hr, hc] at hc₁
      cases hc₁
    next hne =>
      cases hmove
      cases hb₁.symm.trans hb
      exact ⟨_, by simp [bundlesBy, hb], hc₁, by simpa [hc₁] using hne⟩
  · rw [if_neg hc₁] at hcreate
    exact routerIntfCreate_record hcreate

/-- An interface that is to be given up for one with the handle `handle` keeps a local route. -/
def OfprotoSai.LocalsStay (o : OfprotoSai) (b : BundlePtr) (handle : Nat) : Prop :=
  ∃ bundle st o', o.bundles.lookup b = some bundle ∧ bundle.routerIntf.created = true ∧
    bundle.routerIntf.handle ≠ handle ∧ localRoutesRemove b o = .ok (st, o') ∧ st ≠ 0

section
variable {α : Type} {u : Traced OfprotoSai α}

/-- The status of a reconfiguration that drops no failure is zero, unless a local route stays. -/
theorem routerIntfApply_clean (hclean : (Calls.routerIntfApply b rifType handle enable u).Clean o)
    (h : routerIntfApply b rifType handle enable o = .ok (st, o')) :
    (st = 0 ∨ o.LocalsStay b handle) ∧ u.Clean o' := by
  rw [Calls.routerIntfApply_eq] at h
  obtain ⟨bundle, hb, h⟩ := ofbundle_bind.mp h
  have hclean := (Traced.clean_quiet_bind (ofbundle_apply hb)).mp hclean
  obtain ⟨h0, hu⟩ := hclean.dropAfter h
  refine ⟨?_, hu⟩
  by_cases hst : st = 0
  · exact .inl hst
  have hlocal := h0.resolve_left hst
  split at hlocal
  next hmoved =>
    obtain ⟨hc, hne⟩ := Bool.and_eq_true_iff.mp hmoved
    exact .inr ⟨bundle, st, o', hb, hc, by simpa using hne, hlocal, hst⟩
  next =>
    cases hlocal
    exact absurd rfl hst

theorem ofbundleRouterIntfReconfigure_clean {p : OfpPort} {port : OfportSai}
    (hslaves : s.slaves = [p]) (hport : o.ofports p = some port)
    (hclean : (Calls.ofbundleRouterIntfReconfigure b s u).Clean o)
    (h : ofbundleRouterIntfReconfigure b s o = .ok (st, o')) :
    u.Clean o' ∧ ∀ rifType handle, routerIntfHandle port.netdev s = some (rifType, handle) →
      st = 0 ∨ o.LocalsStay b handle := by
  obtain ⟨htype, slave, hslave, hcase⟩ := ofbundleRouterIntfReconfigure_cases h
  have hneed : s.slaves.head?.or s.slavesBeyond = some p := by rw [hslaves]; rfl
  cases hslave.symm.trans hneed
  have hsome : o.getOfpPort p = some p := by simp [OfprotoSai.getOfpPort, hport]
  -- the marked program up to the port
  have hclean := (Traced.clean_quiet_bind (gets_apply OfprotoSai.type o)).mp hclean
  have hassert : (assert "STR_EQ(ofproto->up.type, SAI_INTERFACE_TYPE_VRF)" (o.type = .vrf) :
      Exec OfprotoSai Unit) o = .ok ((), o) := require_ok.mpr ⟨decide_eq_true htype, rfl⟩
  have hclean := (Traced.clean_quiet_bind hassert).mp hclean
  have hclean := (Traced.clean_quiet_bind (need_ok.mpr ⟨p, hneed, rfl⟩)).mp hclean
  have hclean := (Traced.clean_quiet_bind (gets_apply _ o)).mp hclean
  beta_reduce at hclean
  rw [hsome] at hclean
  have hclean := (Traced.clean_quiet_bind (ofport_apply hport)).mp hclean
  rcases hcase with ⟨hnone, -⟩ | ⟨port', hport', hcase⟩
  · cases hnone.symm.trans hport
  cases hport'.symm.trans hport
  rcases hcase with ⟨hnet, rfl, rfl⟩ | ⟨hnet, rfl, bundle, hb, rfl⟩ | ⟨rifType, handle, hh, happly⟩
  · rw [hnet] at hclean
    exact ⟨hclean, fun _ _ _ => .inl rfl⟩
  · rw [hnet] at hclean
    have hmodify : modifyBundle b (fun bundle =>
        { bundle with routerIntf := { bundle.routerIntf with isLoopback := true } }) o =
        .ok ((), _) := modifyBundle_ok.mpr ⟨bundle, hb, rfl⟩
    exact ⟨(Traced.clean_quiet_bind hmodify).mp hclean, fun _ _ _ => .inl rfl⟩
  · have hmarked : (Calls.routerIntfApply b rifType handle s.enable u).Clean o := by
      unfold routerIntfHandle at hh
      split at hh
      next hnet =>
        cases hh
        rwa [hnet] at hclean
      next hnet =>
        cases hh
        rwa [hnet] at hclean
      all_goals cases hh
    obtain ⟨h0, hu⟩ := routerIntfApply_clean hmarked happly
    refine ⟨hu, fun rifType' handle' hh' => ?_⟩
    cases hh.symm.trans hh'
    exact h0

end

/-! ## The whole call -/

variable {p : OfpPort} {port : OfportSai} {o₁ o₂ : OfprotoSai} {bundle : OfbundleSai} {aux : Nat}

/-- `__bundle_set` on a VRF with one slave, from the bundle on: the ports are reconfigured, then the
router interface and the addresses, whatever comes of them. -/
theorem bundleApply_vrf (hvrf : o.type = .vrf) (hslaves : s.slaves = [p])
    (h : bundleApply b s o = .ok (0, o')) :
    ∃ o₁ st₁ o₂ st₂, ofbundlePortsReconfigure b s o = .ok (0, o₁) ∧ o₁.type = .vrf ∧
      ofbundleRouterIntfReconfigure b s o₁ = .ok (st₁, o₂) ∧
      ofbundleIpReconfigure b s o₂ = .ok (st₂, o') := by
  obtain ⟨o₁, hports, h⟩ := thenOk_zero.mp h
  have hvrf₁ : o₁.type = .vrf := (ofbundlePortsReconfigure_evolves _ _ _ hports).type.trans hvrf
  rw [if_neg (by simp [hslaves]), gets_bind, if_pos hvrf₁] at h
  obtain ⟨st₁, o₂, hrif, h⟩ := bind_ok.mp h
  obtain ⟨st₂, o₃, hip, hend⟩ := bind_ok.mp h
  cases hend
  exact ⟨o₁, st₁, o₂, st₂, hports, hvrf₁, hrif, hip⟩

/-- What is dropped after the ports have been reconfigured. -/
theorem bundleApply_clean (hvrf : o₁.type = .vrf) (hslaves : s.slaves = [p])
    (hport : o₁.ofports p = some port) (hports : ofbundlePortsReconfigure b s o = .ok (0, o₁))
    (hrif : ofbundleRouterIntfReconfigure b s o₁ = .ok (st, o₂)) {st₂ : Int}
    (hip : ofbundleIpReconfigure b s o₂ = .ok (st₂, o'))
    (hclean : (Calls.bundleApply b s).Clean o) :
    st₂ = 0 ∧ ∀ rifType handle, routerIntfHandle port.netdev s = some (rifType, handle) →
      st = 0 ∨ o₁.LocalsStay b handle := by
  have hports' : (Calls.ofbundlePortsReconfigure b s).prog o = .ok (0, o₁) := by
    rw [Calls.ofbundlePortsReconfigure_prog]
    exact hports
  have hip' : (Calls.ofbundleIpReconfigure b s).prog o₂ = .ok (st₂, o') := by
    rw [Calls.ofbundleIpReconfigure_prog]
    exact hip
  obtain ⟨-, hclean⟩ := (Traced.clean_bind hports').mp hclean
  rw [if_pos rfl, if_neg (by simp [hslaves])] at hclean
  have hclean := (Traced.clean_quiet_bind (gets_apply OfprotoSai.type o₁)).mp hclean
  rw [if_pos hvrf] at hclean
  obtain ⟨hu, hstay⟩ := ofbundleRouterIntfReconfigure_clean hslaves hport hclean hrif
  obtain ⟨-, h0, -⟩ := (Traced.clean_drop hip').mp hu
  exact ⟨h0, hstay⟩

theorem routerIntfApply_of_handle (hslaves : s.slaves = [p]) (hport : o.ofports p = some port)
    (hh : routerIntfHandle port.netdev s = some (rifType, handle))
    (h : ofbundleRouterIntfReconfigure b s o = .ok (st, o')) :
    routerIntfApply b rifType handle s.enable o = .ok (st, o') := by
  obtain ⟨-, slave, hslave, hcase⟩ := ofbundleRouterIntfReconfigure_cases h
  rw [hslaves] at hslave
  obtain rfl : p = slave := Option.some.inj hslave
  rcases hcase with ⟨hnone, -⟩ | ⟨port', hport', hcase⟩
  · cases hnone.symm.trans hport
  cases hport'.symm.trans hport
  rcases hcase with ⟨hnet, -⟩ | ⟨hnet, -⟩ | ⟨rifType', handle', hh', happly⟩
  · rw [routerIntfHandle, hnet] at hh
    cases hh
  · rw [routerIntfHandle, hnet] at hh
    cases hh
  · cases hh'.symm.trans hh
    exact happly

variable [OpenswitchIdl]

end

/-! ### Examples -/

section
attribute [local instance] sampleOvs sampleBuild sampleIdl

end

end SwitchdSai
