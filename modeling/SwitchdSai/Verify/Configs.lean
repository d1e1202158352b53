import SwitchdSai.Verify.RouterIntf

/-!
# What the functions on one bundle leave of the others

The functions that program a bundle change no other bundle (`OnlyBundle`). Moving ports between
bundles changes the ports of several and may destroy some; those that are left keep everything but
their ports and VLAN settings (`ConfigsShrink`).
-/

namespace SwitchdSai

open Exec OfprotoSai

variable {o o' : OfprotoSai} {b b' : BundlePtr} {p : OfpPort} {bundle : OfbundleSai}
  {s : OfprotoBundleSettings} {st : Int}

/-! ## Functions on one bundle -/

/-- No bundle but `b` has changed. -/
def OnlyBundle (b : BundlePtr) (o o' : OfprotoSai) : Prop :=
  ∀ b', b' ≠ b → o'.bundles.lookup b' = o.bundles.lookup b'

instance : IsPreorder OfprotoSai (OnlyBundle b) where
  refl _ _ _ := rfl
  trans _ _ _ h h' b' hne := (h' b' hne).trans (h b' hne)

theorem setBundle_only : OnlyBundle b o (o.setBundle b bundle) :=
  fun _ hne => (setBundle_lookup ..).trans (if_neg hne)

theorem onlyBundle_of_eq (h : o'.bundles = o.bundles) : OnlyBundle b o o' := fun _ _ => h ▸ rfl

theorem onHw_only {α : Type} {m : Exec Hw α} : Rel (OnlyBundle b) (onHw m) :=
  onHw_rel fun _ _ _ _ => onlyBundle_of_eq rfl

theorem modifyBundle_only {f : OfbundleSai → OfbundleSai} :
    Rel (OnlyBundle b) (modifyBundle b f) := modifyBundle_rel fun _ _ _ => setBundle_only

theorem walkTable_only {α : Type} {table : List α} : Rel (OnlyBundle b) (walkTable table) :=
  Rel.bind onHw_only fun _ => Rel.pure _

theorem setRouterIntfHandle_only {h : Option BundlePtr} :
    Rel (OnlyBundle b) (netdevSaiSetRouterIntfHandle p h) :=
  setRouterIntfHandle_frame.mono fun _ _ h => onlyBundle_of_eq (congrArg (·.2.1) h)

section
variable [OvsLib] [Build] {isIpv6 ipv6Prefix : Bool} {ip : String}

theorem localRoutesRemove_only : Rel (OnlyBundle b) (localRoutesRemove b) := by
  refine (ofbundle_rel b).bind fun _ => (Rel.gets _).bind fun _ =>
    Rel.bind walkTable_only fun _ => ?_
  exact Rel.forEach fun _ => Rel.thenOk onHw_only (Rel.bind modifyBundle_only fun _ => Rel.pure _)

theorem ofbundleRouterIntfRemove_only : Rel (OnlyBundle b) (ofbundleRouterIntfRemove b) := by
  refine Rel.thenOk localRoutesRemove_only ((ofbundle_rel b).bind fun _ => Rel.ite ?_ (Rel.pure _))
  refine (Rel.forEach fun _ => setRouterIntfHandle_only).thenOk (Rel.thenOk onHw_only ?_)
  exact Rel.bind modifyBundle_only fun _ => Rel.pure _

theorem ofprotoIpRemove_only : Rel (OnlyBundle b) (ofprotoIpRemove ip isIpv6) :=
  ofprotoIpPrefix_rel.bind fun _ => (Rel.gets _).bind fun _ => onHw_only

theorem ipSecondaryRemove_only : Rel (OnlyBundle b) (ipSecondaryRemove b isIpv6 ipv6Prefix ip) :=
  Rel.thenOk ofprotoIpRemove_only (Rel.bind modifyBundle_only fun _ => Rel.pure _)

theorem ofbundleIpRemove_only : Rel (OnlyBundle b) (ofbundleIpRemove b) := by
  have hprimary : ∀ isIpv6, Rel (OnlyBundle b) (ipPrimaryRemove b isIpv6) := by
    refine fun isIpv6 => (ofbundle_rel b).bind fun bundle => ?_
    split
    next => exact ofprotoIpRemove_only
    next => exact Rel.pure _
  have hsecondary : ∀ isIpv6, Rel (OnlyBundle b) (ipSecondaryRemoveAll b isIpv6) := fun _ =>
    (ofbundle_rel b).bind fun _ => Rel.bind walkTable_only fun _ =>
      Rel.forEach fun _ => ipSecondaryRemove_only
  exact (hprimary _).thenOk ((hprimary _).thenOk ((hsecondary _).thenOk (hsecondary _)))

end

/-! ## Moving ports -/

/-- Every bundle was there before, with the same value of `f`. -/
def BundlesShrink {γ : Type} (f : OfbundleSai → γ) (o o' : OfprotoSai) : Prop :=
  ∀ b c, o'.bundlesBy f b = some c → o.bundlesBy f b = some c

/-- A bundle without its ports and VLAN settings. -/
def OfbundleSai.config (bundle : OfbundleSai) : OfbundleSai :=
  { bundle with ports := [], vlan := 0, vlanMode := .access, trunks := none }

/-- Every bundle was there before, with the same data but for ports and VLAN settings. -/
def ConfigsShrink (o o' : OfprotoSai) : Prop :=
  ∀ b c, o'.bundlesBy OfbundleSai.config b = some c → o.bundlesBy OfbundleSai.config b = some c

instance {γ : Type} (f : OfbundleSai → γ) : IsPreorder OfprotoSai (BundlesShrink f) where
  refl _ _ _ := id
  trans _ _ _ h h' b c hc := h b c (h' b c hc)

section
variable {γ : Type} {f : OfbundleSai → γ}

theorem bundlesShrink_of_eq (h : o'.bundlesBy f = o.bundlesBy f) : BundlesShrink f o o' :=
  fun _ _ hc => h ▸ hc

theorem BundlesShrink.lookup (h : BundlesShrink f o o') {bundle' : OfbundleSai}
    (hb : o'.bundles.lookup b = some bundle') :
    ∃ bundle, o.bundles.lookup b = some bundle ∧ f bundle' = f bundle := by
  obtain ⟨bundle, hb, hc⟩ := Option.map_eq_some_iff.mp (h b (f bundle') (by simp [bundlesBy, hb]))
  exact ⟨bundle, hb, hc.symm⟩

theorem ConfigsShrink.lookup (h : ConfigsShrink o o') {bundle' : OfbundleSai}
    (hb : o'.bundles.lookup b = some bundle') :
    ∃ bundle, o.bundles.lookup b = some bundle ∧ bundle'.config = bundle.config :=
  BundlesShrink.lookup h hb

theorem SameButVlan.configs (h : SameButVlan o o') :
    o'.bundlesBy OfbundleSai.config = o.bundlesBy OfbundleSai.config :=
  bundlesBy_of (k := OfbundleSai.config) h.bundles fun _ => rfl

section
variable (hf : ∀ bundle ports, f { bundle with ports := ports } = f bundle)
include hf

theorem ofbundlePortDel_bundlesBy (h : ofbundlePortDel p o = .ok (st, o')) :
    o'.bundlesBy f = o.bundlesBy f := by
  obtain ⟨port, b, bundle, hw, -, -, hb, -, rfl⟩ := ofbundlePortDel_ok h
  exact setBundle_bundlesBy (o := { o with hw := hw }) hb (hf _ _)

theorem ofbundlePortDel_shrink : Rel (BundlesShrink f) (ofbundlePortDel p) :=
  fun _ _ _ h => bundlesShrink_of_eq (ofbundlePortDel_bundlesBy hf h)

variable [OvsLib] [Build]

/-- A bundle that is destroyed is changed and then erased. -/
theorem ofbundleDestroy_shrink : Rel (BundlesShrink f) (ofbundleDestroy b) := by
  intro o _ o' h b' c hc
  obtain ⟨st₁, o₁, st₂, o₂, bundle, o₃, hip, hrif, -, hports, rfl⟩ := ofbundleDestroy_ok h
  have hdel : Rel (BundlesShrink f)
      (forAll bundle.ports fun p => do let _ ← ofbundlePortDel p; pure ()) :=
    Rel.forAll fun _ => (ofbundlePortDel_shrink hf).bind fun _ => Rel.pure _
  have hne : b' ≠ b := by
    rintro rfl
    simp [bundlesBy] at hc
  have hc₃ : o₃.bundlesBy f b' = some c := by
    rwa [bundlesBy, lookup_erase, if_neg hne] at hc
  have hc₂ := hdel _ _ _ hports b' c hc₃
  rwa [bundlesBy, ofbundleRouterIntfRemove_only _ _ _ hrif b' hne,
    ofbundleIpRemove_only _ _ _ hip b' hne] at hc₂

theorem bundleRemove_shrink : Rel (BundlesShrink f) (bundleRemove p) :=
  bundleRemove_rel (fun _ => ofbundlePortDel_shrink hf) fun _ => ofbundleDestroy_shrink hf

theorem ofbundlePortAdd_shrink {sPort : Option OfpPort} :
    Rel (BundlesShrink f) (ofbundlePortAdd b sPort) := by
  intro o st o' h
  obtain ⟨p, port, o₁, port₁, bundle, hw, -, -, hremove, -, hb, -, rfl⟩ := ofbundlePortAdd_ok h
  refine trans_of (BundlesShrink f) (bundleRemove_shrink hf _ _ _ hremove) (bundlesShrink_of_eq ?_)
  exact setBundle_bundlesBy hb (hf _ _)

theorem ofbundlePortsReconfigure_shrink (hvlan : Rel (BundlesShrink f) (vlanReconfigure b s)) :
    Rel (BundlesShrink f) (ofbundlePortsReconfigure b s) :=
  ofbundlePortsReconfigure_rel (fun _ => ofbundlePortDel_shrink hf) hvlan
    fun _ => ofbundlePortAdd_shrink hf

end

end

section
variable [OvsLib] [Build]

theorem ofbundlePortsReconfigure_configsShrink :
    Rel ConfigsShrink (ofbundlePortsReconfigure b s) :=
  ofbundlePortsReconfigure_shrink (fun _ _ => rfl)
    (vlanReconfigure_sameButVlan.mono fun _ _ h => bundlesShrink_of_eq h.configs)

end

end SwitchdSai
