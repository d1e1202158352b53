import SwitchdSai.Lib.Links
import SwitchdSai.Lib.Run
import SwitchdSai.Verify.Frames

/-!
# The steps of the bundle operations

Inversion lemmas for the functions that link ports and bundles: what an execution that completes
has done, one lemma for each function. The invariants of bundles are derived from these. What no
function on bundles changes is collected in `Evolves`.
-/

namespace SwitchdSai

open Exec OfprotoSai

section
variable {o o' : OfprotoSai} {b : BundlePtr} {p : OfpPort}

/-! ## What every operation leaves as it was -/

namespace OfprotoSai

/-- The netdevs of the ports, without their handles. -/
def netdevs (o : OfprotoSai) (p : OfpPort) : Option NetdevSai :=
  (o.ofports p).map fun port => { port.netdev with rifHandle := none }

/-- The links between ports and bundles. -/
def links (o : OfprotoSai) : Links OfpPort BundlePtr where
  owner p := (o.ofports p).bind (·.bundle)
  members := o.bundlesBy (·.ports)

theorem bundlesBy_of {γ δ : Type} {f : OfbundleSai → γ} {g : OfbundleSai → δ} {k : δ → γ}
    (h : o'.bundlesBy g = o.bundlesBy g) (hf : ∀ x, k (g x) = f x) :
    o'.bundlesBy f = o.bundlesBy f := by
  have hmap : ∀ o : OfprotoSai, o.bundlesBy f = fun b => (o.bundlesBy g b).map k := by
    intro o
    funext b
    simp [bundlesBy, Function.comp_def, hf]
  rw [hmap, hmap, h]

theorem netdevs_of_butRif
    (h : ∀ p, (o'.ofports p).map OfportSai.butRif = (o.ofports p).map OfportSai.butRif) :
    o'.netdevs = o.netdevs := by
  have hmap : ∀ o : OfprotoSai, o.netdevs = fun p =>
      ((o.ofports p).map OfportSai.butRif).map (·.netdev) := by
    intro o
    funext p
    simp [netdevs, OfportSai.butRif, Function.comp_def]
  rw [hmap, hmap]
  funext p
  rw [h]

theorem owner_of_butRif
    (h : ∀ p, (o'.ofports p).map OfportSai.butRif = (o.ofports p).map OfportSai.butRif) :
    o'.links.owner = o.links.owner := by
  have hmap : ∀ o : OfprotoSai, o.links.owner = fun p =>
      ((o.ofports p).map OfportSai.butRif).bind (·.bundle) := by
    intro o
    funext p
    simp [links, OfportSai.butRif, Option.bind_map, Function.comp_def]
  rw [hmap, hmap]
  funext p
  rw [h]

end OfprotoSai

/-- `o'` has the same ports and parameters as `o`, and no bundle that `o` does not have. -/
structure Evolves (o o' : OfprotoSai) : Prop where
  type : o'.type = o.type
  vrid : o'.vrid = o.vrid
  netdevs : o'.netdevs = o.netdevs
  oid : o'.hw.opsSaiApiHwId2PortId = o.hw.opsSaiApiHwId2PortId
  outcomes : o'.hw.outcomes <:+ o.hw.outcomes
  aux : ∀ b a, o'.bundlesBy (·.aux) b = some a → o.bundlesBy (·.aux) b = some a

instance : IsPreorder OfprotoSai Evolves where
  refl _ := ⟨rfl, rfl, rfl, rfl, List.suffix_rfl, fun _ _ => id⟩
  trans _ _ _ h h' := ⟨h'.type.trans h.type, h'.vrid.trans h.vrid, h'.netdevs.trans h.netdevs,
    h'.oid.trans h.oid, h'.outcomes.trans h.outcomes, fun b a ha => h.aux b a (h'.aux b a ha)⟩

theorem SameButVlan.evolves (h : SameButVlan o o') : Evolves o o' := by
  have haux : o'.bundlesBy (·.aux) = o.bundlesBy (·.aux) :=
    bundlesBy_of (k := (·.aux)) h.bundles fun _ => rfl
  refine ⟨h.type, h.vrid, ?_, congrArg Hw.L3.oid h.hw.1, h.hw.2, fun b a ha => haux ▸ ha⟩
  exact netdevs_of_butRif fun p => by rw [h.ofports]

theorem SameButIp.evolves (h : SameButIp o o') : Evolves o o' := by
  have haux : o'.bundlesBy (·.aux) = o.bundlesBy (·.aux) :=
    bundlesBy_of (k := (·.aux)) h.bundles fun _ => rfl
  refine ⟨h.type, h.vrid, ?_, congrArg Hw.ButRoutes.oid h.hw.same.1, h.hw.same.2,
    fun b a ha => haux ▸ ha⟩
  exact netdevs_of_butRif fun p => by rw [h.ofports]

theorem SameButRif.evolves (h : SameButRif o o') : Evolves o o' := by
  have haux : o'.bundlesBy (·.aux) = o.bundlesBy (·.aux) :=
    bundlesBy_of (k := (·.aux)) h.bundles fun _ => rfl
  exact ⟨h.type, h.vrid, netdevs_of_butRif h.ofports, congrArg Hw.L2.oid h.hw.1, h.hw.2,
    fun b a ha => haux ▸ ha⟩

theorem SameButVlan.links (h : SameButVlan o o') : o'.links = o.links := by
  have hmem : o'.bundlesBy (·.ports) = o.bundlesBy (·.ports) :=
    bundlesBy_of (k := (·.ports)) h.bundles fun _ => rfl
  simp only [OfprotoSai.links, h.ofports, hmem]

theorem SameButIp.links (h : SameButIp o o') : o'.links = o.links := by
  have hmem : o'.bundlesBy (·.ports) = o.bundlesBy (·.ports) :=
    bundlesBy_of (k := (·.ports)) h.bundles fun _ => rfl
  simp only [OfprotoSai.links, h.ofports, hmem]

theorem SameButRif.links (h : SameButRif o o') : o'.links = o.links := by
  have hmem : o'.links.members = o.links.members :=
    bundlesBy_of (k := (·.ports)) h.bundles fun _ => rfl
  exact Links.ext (owner_of_butRif h.ofports) hmem

/-! ## Attaching and detaching a port -/

namespace OfprotoSai

/-- The state after port `p` has been taken off the list of bundle `b`. -/
def detachPort (p : OfpPort) (port : OfportSai) (b : BundlePtr) (bundle : OfbundleSai)
    (o : OfprotoSai) : OfprotoSai :=
  (o.setBundle b { bundle with ports := bundle.ports.erase p }).setPort p
    { port with bundle := none }

/-- The state after port `p` has been put on the list of bundle `b`. -/
def attachPort (p : OfpPort) (port : OfportSai) (b : BundlePtr) (bundle : OfbundleSai)
    (o : OfprotoSai) : OfprotoSai :=
  (o.setPort p { port with bundle := some b }).setBundle b
    { bundle with ports := bundle.ports ++ [p] }

end OfprotoSai

section
variable {port : OfportSai} {bundle : OfbundleSai}

theorem onHw_evolves (hw : Hw) (hoid : hw.opsSaiApiHwId2PortId = o.hw.opsSaiApiHwId2PortId)
    (hout : hw.outcomes <:+ o.hw.outcomes) : Evolves o { o with hw := hw } :=
  ⟨rfl, rfl, rfl, hoid, hout, fun _ _ => id⟩

theorem setPort_evolves (hp : o.ofports p = some port) (b' : Option BundlePtr) :
    Evolves o (o.setPort p { port with bundle := b' }) := by
  refine ⟨rfl, rfl, ?_, rfl, List.suffix_rfl, fun _ _ => id⟩
  funext q
  simp only [OfprotoSai.netdevs, setPort_ofports]
  split
  next h =>
    subst h
    rw [hp]
    rfl
  next => rfl

theorem setBundle_evolves (hb : o.bundles.lookup b = some bundle) (ports : List OfpPort) :
    Evolves o (o.setBundle b { bundle with ports := ports }) := by
  have haux : (o.setBundle b { bundle with ports := ports }).bundlesBy (·.aux) =
      o.bundlesBy (·.aux) := setBundle_bundlesBy hb rfl
  exact ⟨rfl, rfl, rfl, rfl, List.suffix_rfl, fun b' a ha => haux ▸ ha⟩

theorem detachPort_evolves (hp : o.ofports p = some port)
    (hb : o.bundles.lookup b = some bundle) : Evolves o (o.detachPort p port b bundle) := by
  have hset := setBundle_evolves hb (bundle.ports.erase p)
  exact trans_of Evolves hset (setPort_evolves (o := o.setBundle b _) hp none)

theorem attachPort_evolves (hp : o.ofports p = some port)
    (hb : o.bundles.lookup b = some bundle) : Evolves o (o.attachPort p port b bundle) := by
  have hset := setPort_evolves hp (some b)
  exact trans_of Evolves hset (setBundle_evolves (o := o.setPort p _) hb (bundle.ports ++ [p]))

theorem erase_evolves : Evolves o { o with bundles := o.bundles.erase b } := by
  refine ⟨rfl, rfl, rfl, rfl, List.suffix_rfl, fun b' a ha => ?_⟩
  simp only [bundlesBy, lookup_erase] at ha ⊢
  split at ha
  next => cases ha
  next => exact ha

theorem setPort_links :
    (o.setPort p port).links =
      { o.links with owner := Function.update o.links.owner p port.bundle } := by
  refine Links.ext (funext fun q => ?_) rfl
  simp only [OfprotoSai.links, setPort_ofports, Function.update_apply]
  split <;> rfl

theorem setBundle_links :
    (o.setBundle b bundle).links =
      { o.links with members := Function.update o.links.members b (some bundle.ports) } := by
  refine Links.ext rfl (funext fun b' => ?_)
  simp only [OfprotoSai.links, bundlesBy, setBundle_lookup, Function.update_apply]
  split <;> rfl

theorem links_members (hb : o.bundles.lookup b = some bundle) :
    o.links.members b = some bundle.ports := by
  simp [OfprotoSai.links, bundlesBy, hb]

theorem links_owner (hp : o.ofports p = some port) : o.links.owner p = port.bundle := by
  simp [OfprotoSai.links, hp]

theorem detachPort_links (hb : o.bundles.lookup b = some bundle) :
    (o.detachPort p port b bundle).links = o.links.detach p b := by
  rw [detachPort, setPort_links, setBundle_links, Links.detach, links_members hb]
  rfl

theorem attachPort_links (hb : o.bundles.lookup b = some bundle) :
    (o.attachPort p port b bundle).links = o.links.attach p b := by
  rw [attachPort, setBundle_links, setPort_links, Links.attach, links_members hb]
  rfl

theorem erase_links : OfprotoSai.links { o with bundles := o.bundles.erase b } =
    o.links.remove b := by
  refine Links.ext rfl (funext fun b' => ?_)
  simp only [OfprotoSai.links, bundlesBy, lookup_erase, Links.remove, Function.update_apply]
  split <;> rfl

end

end

variable [OvsLib] [Build] {o o' : OfprotoSai} {b : BundlePtr} {p : OfpPort} {st : Int}

/-! ## Inversion -/

omit [OvsLib] [Build] in
theorem ofbundlePortDel_ok (h : ofbundlePortDel p o = .ok (st, o')) :
    ∃ port b bundle hw, o.ofports p = some port ∧ port.bundle = some b ∧
      o.bundles.lookup b = some bundle ∧
      (if port.netdev.type = .system then portVlansLeave bundle port.netdev.netdevSaiHwIdGet
        else pure 0) o.hw = .ok (st, hw) ∧
      o' = { o with hw := hw }.detachPort p port b bundle := by
  obtain ⟨port, hp, h⟩ := ofport_bind.mp h
  obtain ⟨b, hpb, h⟩ := need_bind.mp h
  obtain ⟨bundle, hb, h⟩ := ofbundle_bind.mp h
  obtain ⟨st₁, o₁, h₁, h⟩ := bind_ok.mp h
  have hvlans : ∃ hw, (if port.netdev.type = .system then
      portVlansLeave bundle port.netdev.netdevSaiHwIdGet else pure 0) o.hw = .ok (st₁, hw) ∧
      o₁ = { o with hw := hw } := by
    split at h₁
    next ht =>
      rw [if_pos ht]
      exact onHw_ok.mp h₁
    next ht =>
      rw [if_neg ht]
      cases h₁
      exact ⟨o.hw, rfl, rfl⟩
  obtain ⟨hw, hhw, rfl⟩ := hvlans
  obtain ⟨bundle₁, hb₁, h₂⟩ := modifyBundle_bind.mp h
  obtain rfl : bundle₁ = bundle := Option.some.inj (hb₁.symm.trans hb)
  obtain ⟨port₁, hp₁, hend⟩ := modifyPort_bind.mp h₂
  obtain rfl : port₁ = port := Option.some.inj (hp₁.symm.trans hp)
  cases hend
  exact ⟨port₁, b, bundle₁, hw, hp, hpb, hb, hhw, rfl⟩

theorem ofbundleDestroy_ok (h : ofbundleDestroy b o = .ok ((), o')) :
    ∃ st₁ o₁ st₂ o₂ bundle o₃, ofbundleIpRemove b o = .ok (st₁, o₁) ∧
      ofbundleRouterIntfRemove b o₁ = .ok (st₂, o₂) ∧ o₂.bundles.lookup b = some bundle ∧
      (forAll bundle.ports fun p => do let _ ← ofbundlePortDel p; pure ()) o₂ = .ok ((), o₃) ∧
      o' = { o₃ with bundles := o₃.bundles.erase b } := by
  obtain ⟨st₁, o₁, h₁, h⟩ := bind_ok.mp h
  obtain ⟨st₂, o₂, h₂, h⟩ := bind_ok.mp h
  obtain ⟨bundle, hb, h⟩ := ofbundle_bind.mp h
  obtain ⟨_, o₃, h₃, hend⟩ := bind_ok.mp h
  cases hend
  exact ⟨st₁, o₁, st₂, o₂, bundle, o₃, h₁, h₂, hb, h₃, rfl⟩

theorem bundleRemove_ok (h : bundleRemove p o = .ok ((), o')) :
    ∃ port, o.ofports p = some port ∧
      (port.bundle = none ∧ o' = o ∨
        ∃ b st o₁ bundle, port.bundle = some b ∧ ofbundlePortDel p o = .ok (st, o₁) ∧
          o₁.bundles.lookup b = some bundle ∧
          (bundle.ports = [] ∧ ofbundleDestroy b o₁ = .ok ((), o') ∨
            bundle.ports ≠ [] ∧ o' = o₁)) := by
  obtain ⟨port, hp, h⟩ := ofport_bind.mp h
  refine ⟨port, hp, ?_⟩
  cases hpb : port.bundle with
  | none =>
    rw [hpb] at h
    cases h
    exact .inl ⟨rfl, rfl⟩
  | some b =>
    rw [hpb] at h
    obtain ⟨st, o₁, h₁, h⟩ := bind_ok.mp h
    obtain ⟨bundle, hb, hend⟩ := ofbundle_bind.mp h
    refine .inr ⟨b, st, o₁, bundle, rfl, h₁, hb, ?_⟩
    split at hend
    next hports => exact .inl ⟨hports, hend⟩
    next hports =>
      cases hend
      exact .inr ⟨hports, rfl⟩

theorem ofbundlePortAdd_ok {sPort : Option OfpPort}
    (h : ofbundlePortAdd b sPort o = .ok (st, o')) :
    ∃ p port o₁ port₁ bundle hw, sPort = some p ∧ o.ofports p = some port ∧
      bundleRemove p o = .ok ((), o₁) ∧ o₁.ofports p = some port₁ ∧
      o₁.bundles.lookup b = some bundle ∧
      (if port.netdev.type = .system then
        portVlansJoin { bundle with ports := bundle.ports ++ [p] } port.netdev.netdevSaiHwIdGet
        else pure 0) o₁.hw = .ok (st, hw) ∧
      o' = { o₁ with hw := hw }.attachPort p port₁ b bundle := by
  obtain ⟨p, hsp, h⟩ := need_bind.mp h
  obtain ⟨port, hp, h⟩ := ofport_bind.mp h
  obtain ⟨_, o₁, h₁, h⟩ := bind_ok.mp h
  obtain ⟨port₁, hp₁, h⟩ := modifyPort_bind.mp h
  obtain ⟨bundle, hb, hend⟩ := modifyBundle_bind.mp h
  rw [setPort_bundles] at hb
  have hvlans : ∃ hw, (if port.netdev.type = .system then
      portVlansJoin { bundle with ports := bundle.ports ++ [p] } port.netdev.netdevSaiHwIdGet
      else pure 0) o₁.hw = .ok (st, hw) ∧
      o' = { o₁ with hw := hw }.attachPort p port₁ b bundle := by
    split at hend
    next ht =>
      rw [if_pos ht]
      obtain ⟨bundle₁, hb₁, h₂⟩ := ofbundle_bind.mp hend
      rw [setBundle_lookup, if_pos rfl] at hb₁
      cases hb₁
      obtain ⟨hw, hhw, rfl⟩ := onHw_ok.mp h₂
      exact ⟨hw, hhw, rfl⟩
    next ht =>
      rw [if_neg ht]
      cases hend
      exact ⟨o₁.hw, rfl, rfl⟩
  obtain ⟨hw, hhw, ho'⟩ := hvlans
  exact ⟨p, port, o₁, port₁, bundle, hw, hsp, hp, h₁, hp₁, hb, hhw, ho'⟩

/-- A port that is in no bundle is only put on the list of the new one. -/
theorem ofbundlePortAdd_unbundled {port : OfportSai} (hp : o.ofports p = some port)
    (hnone : port.bundle = none) (h : ofbundlePortAdd b (some p) o = .ok (st, o')) :
    ∃ bundle hw, o.bundles.lookup b = some bundle ∧
      (if port.netdev.type = .system then portVlansJoin bundle port.netdev.netdevSaiHwIdGet
        else pure 0) o.hw = .ok (st, hw) ∧
      o' = { o with hw := hw }.attachPort p port b bundle := by
  obtain ⟨q, port₁, o₁, port₂, bundle, hw, hq, hp₁, hremove, hp₂, hb, hjoin, rfl⟩ :=
    ofbundlePortAdd_ok h
  obtain rfl : p = q := Option.some.inj hq
  obtain rfl : port₁ = port := Option.some.inj (hp₁.symm.trans hp)
  obtain rfl : o₁ = o := by
    obtain ⟨port, hport, h⟩ := bundleRemove_ok hremove
    obtain rfl : port = port₁ := Option.some.inj (hport.symm.trans hp)
    rcases h with ⟨-, rfl⟩ | ⟨b', -, -, -, hb', -⟩
    · rfl
    · rw [hnone] at hb'
      cases hb'
  obtain rfl : port₂ = port₁ := Option.some.inj (hp₂.symm.trans hp)
  exact ⟨bundle, hw, hb, hjoin, rfl⟩

/-! ## No operation but a creation adds a bundle -/

omit [OvsLib] [Build] in
theorem ite_vlans_evolves {c : Prop} [Decidable c] {m : Exec Hw Int} {hw : Hw}
    (hm : Rel (Hw.Same Hw.l3) m) (h : (if c then m else pure 0) o.hw = .ok (st, hw)) :
    Evolves o { o with hw := hw } := by
  obtain ⟨hl3, hout⟩ := Rel.ite hm (Rel.pure 0) _ _ _ h
  exact onHw_evolves hw (congrArg Hw.L3.oid hl3) hout

omit [OvsLib] [Build] in
theorem ofbundlePortDel_evolves : Rel Evolves (ofbundlePortDel p) := by
  intro o st o' h
  obtain ⟨port, b, bundle, hw, hp, -, hb, hvlans, rfl⟩ := ofbundlePortDel_ok h
  have hhw := ite_vlans_evolves portVlansLeave_l3 hvlans
  exact trans_of Evolves hhw (detachPort_evolves (o := { o with hw := hw }) hp hb)

theorem ofbundleDestroy_evolves : Rel Evolves (ofbundleDestroy b) :=
  ofbundleDestroy_rel (ofbundleIpRemove_sameButIp.mono fun _ _ => SameButIp.evolves)
    (ofbundleRouterIntfRemove_sameButRif.mono fun _ _ => SameButRif.evolves)
    (fun _ => ofbundlePortDel_evolves) fun _ => erase_evolves

theorem bundleRemove_evolves : Rel Evolves (bundleRemove p) :=
  bundleRemove_rel (fun _ => ofbundlePortDel_evolves) fun _ => ofbundleDestroy_evolves

theorem ofbundlePortAdd_evolves {sPort : Option OfpPort} :
    Rel Evolves (ofbundlePortAdd b sPort) := by
  intro o st o' h
  obtain ⟨p, port, o₁, port₁, bundle, hw, -, -, hremove, hp, hb, hvlans, rfl⟩ :=
    ofbundlePortAdd_ok h
  have hremove := bundleRemove_evolves _ _ _ hremove
  have hhw := ite_vlans_evolves portVlansJoin_l3 hvlans
  have hattach := attachPort_evolves (o := { o₁ with hw := hw }) hp hb
  exact trans_of Evolves hremove (trans_of Evolves hhw hattach)

omit [OvsLib] [Build] in
theorem portsRemove_evolves {s : OfprotoBundleSettings} : Rel Evolves (portsRemove b s) :=
  portsRemove_rel fun _ => ofbundlePortDel_evolves

theorem ofbundlePortsReconfigure_evolves {s : OfprotoBundleSettings} :
    Rel Evolves (ofbundlePortsReconfigure b s) :=
  ofbundlePortsReconfigure_rel (fun _ => ofbundlePortDel_evolves)
    (vlanReconfigure_sameButVlan.mono fun _ _ => SameButVlan.evolves)
    fun _ => ofbundlePortAdd_evolves

theorem bundleApply_evolves {s : OfprotoBundleSettings} : Rel Evolves (bundleApply b s) :=
  bundleApply_rel ofbundlePortsReconfigure_evolves
    (ofbundleRouterIntfReconfigure_sameButRif.mono fun _ _ => SameButRif.evolves)
    (ofbundleIpReconfigure_sameButIp.mono fun _ _ => SameButIp.evolves)

/-! ## The calls of a run -/

/-- A call of `__bundle_set` or `__bundle_remove`. -/
inductive BundleCall where
  | set (aux : Nat) (s : Option OfprotoBundleSettings)
  | remove (p : OfpPort)

def BundleCall.run [OpenswitchIdl] : BundleCall → Exec OfprotoSai Int
  | .set aux s => bundleSet aux s
  | .remove p => do
    bundleRemove p
    return 0

/-- A call of a run looks up or creates a bundle and changes it, destroys one, or removes a port. -/
theorem BundleCall.run_rel [OpenswitchIdl] {R : OfprotoSai → OfprotoSai → Prop}
    [IsPreorder OfprotoSai R] {c : BundleCall}
    (hfind : ∀ aux s, c = .set aux (some s) → Rel R (ofbundleLookupOrCreate aux s))
    (happly : ∀ aux s b, c = .set aux (some s) → Rel R (bundleApply b s))
    (hdestroy : ∀ b, Rel R (ofbundleDestroy b)) (hremove : ∀ p, Rel R (bundleRemove p)) :
    Rel R c.run := by
  cases c with
  | set aux s =>
    cases s with
    | none =>
      refine Rel.bind ((Rel.require _ _).bind fun _ => Rel.gets _) fun found => ?_
      cases found with
      | none => exact Rel.pure _
      | some b => exact (hdestroy b).bind fun _ => Rel.pure _
    | some s =>
      exact (Rel.pure _).ite ((hfind aux s rfl).bind fun b => happly aux s b rfl)
  | remove p => exact (hremove p).bind fun _ => Rel.pure _

end SwitchdSai
