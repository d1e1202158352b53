import SwitchdSai.Verify.Bundle

/-!
# Ports and bundles stay linked

Each function on bundles acts on the links of the ofproto as an operation of `Links`: a port that
is removed is detached, one that is added leaves its bundle and is attached. So the links stay well
formed in every run, whatever the hardware answers (`bundleCalls_linked`).
-/

namespace SwitchdSai

open Exec OfprotoSai

variable {o o' : OfprotoSai} {b : BundlePtr} {p : OfpPort} {st : Int} {s : OfprotoBundleSettings}

theorem ofbundlePortDel_links (h : ofbundlePortDel p o = .ok (st, o')) :
    ∃ b, o.links.owner p = some b ∧ o'.links = o.links.detach p b := by
  obtain ⟨port, b, bundle, hw, hp, hpb, hb, -, rfl⟩ := ofbundlePortDel_ok h
  exact ⟨b, (links_owner hp).trans hpb, detachPort_links (o := { o with hw := hw }) hb⟩

/-- Deleting every port on the list of a bundle takes them all out. -/
theorem forAll_portDel_links {ports : List OfpPort} (hl : o.links.WF)
    (hb : o.links.members b = some ports)
    (h : (forAll ports fun p => do let _ ← ofbundlePortDel p; pure ()) o = .ok ((), o')) :
    o'.links = o.links.detachAll ports b := by
  induction ports generalizing o with
  | nil =>
    cases h
    rfl
  | cons p ports ih =>
    obtain ⟨_, o₁, h₁, h⟩ := bind_ok.mp h
    obtain ⟨st, o₂, h₁, hpure⟩ := bind_ok.mp h₁
    cases hpure
    obtain ⟨b', hp, hlinks⟩ := ofbundlePortDel_links h₁
    have hpb : o.links.owner p = some b := (hl.mem_iff hb).mp (List.mem_cons_self ..)
    obtain rfl : b' = b := Option.some.inj (hp.symm.trans hpb)
    have hmem : o₁.links.members b' = some ports := by
      rw [hlinks, Links.detach_members, if_pos rfl, hb, Option.map_some, List.erase_cons_head]
    rw [ih (hlinks ▸ hl.detach hp) hmem h, hlinks]
    rfl

theorem ofbundlePortDel_wf : Keeps (fun o => o.links.WF) (ofbundlePortDel p) := by
  intro o st o' h hl
  obtain ⟨b, hp, hlinks⟩ := ofbundlePortDel_links h
  rw [hlinks]
  exact hl.detach hp

theorem vlanReconfigure_links : Frame links (vlanReconfigure b s) :=
  vlanReconfigure_sameButVlan.mono fun _ _ => SameButVlan.links

theorem portsRemove_wf : Keeps (fun o => o.links.WF) (portsRemove b s) :=
  portsRemove_rel fun _ => ofbundlePortDel_wf

section
variable [OvsLib] [Build]

theorem ofbundleIpRemove_links : Frame links (ofbundleIpRemove b) :=
  ofbundleIpRemove_sameButIp.mono fun _ _ => SameButIp.links

theorem ofbundleIpReconfigure_links : Frame links (ofbundleIpReconfigure b s) :=
  ofbundleIpReconfigure_sameButIp.mono fun _ _ => SameButIp.links

theorem ofbundleRouterIntfRemove_links : Frame links (ofbundleRouterIntfRemove b) :=
  ofbundleRouterIntfRemove_sameButRif.mono fun _ _ => SameButRif.links

theorem ofbundleRouterIntfReconfigure_links : Frame links (ofbundleRouterIntfReconfigure b s) :=
  ofbundleRouterIntfReconfigure_sameButRif.mono fun _ _ => SameButRif.links

theorem ofbundleDestroy_links (hl : o.links.WF) (h : ofbundleDestroy b o = .ok ((), o')) :
    ∃ ports, o.links.members b = some ports ∧
      o'.links = (o.links.detachAll ports b).remove b := by
  obtain ⟨st₁, o₁, st₂, o₂, bundle, o₃, hip, hrif, hb, hports, rfl⟩ := ofbundleDestroy_ok h
  have hlinks : o₂.links = o.links :=
    (ofbundleRouterIntfRemove_links _ _ _ hrif).trans (ofbundleIpRemove_links _ _ _ hip)
  have hmem : o₂.links.members b = some bundle.ports := links_members hb
  have h₃ := forAll_portDel_links (hlinks ▸ hl) hmem hports
  rw [hlinks] at hmem h₃
  exact ⟨bundle.ports, hmem, by rw [erase_links, h₃]⟩

theorem ofbundleDestroy_wf (hl : o.links.WF) (h : ofbundleDestroy b o = .ok ((), o')) :
    o'.links.WF := by
  obtain ⟨ports, hb, hlinks⟩ := ofbundleDestroy_links hl h
  obtain ⟨hwf, hempty⟩ := hl.detachAll hb
  rw [hlinks]
  exact hwf.remove hempty

/-- `__bundle_remove` makes the port leave its bundle. -/
theorem bundleRemove_links (hl : o.links.WF) (h : bundleRemove p o = .ok ((), o')) :
    o'.links = o.links.leave p := by
  obtain ⟨port, hp, ⟨hpb, rfl⟩ | ⟨b, st, o₁, bundle, hpb, hdel, hb, hrest⟩⟩ := bundleRemove_ok h
  · rw [Links.leave, links_owner hp, hpb]
  · have hown : o.links.owner p = some b := (links_owner hp).trans hpb
    obtain ⟨b', hp', hlinks⟩ := ofbundlePortDel_links hdel
    obtain rfl : b' = b := Option.some.inj (hp'.symm.trans hown)
    have hmem : (o.links.detach p b').members b' = some bundle.ports := hlinks ▸ links_members hb
    rw [Links.leave, hown]
    rcases hrest with ⟨hports, hdestroy⟩ | ⟨hports, rfl⟩
    · obtain ⟨ports, hb', hend⟩ := ofbundleDestroy_links (hlinks ▸ hl.detach hp') hdestroy
      rw [hlinks, hmem, hports] at hb'
      cases hb'
      rw [hports] at hmem
      simp only [hmem, if_true]
      rw [hend, hlinks]
      rfl
    · simp only [hmem, Option.some.injEq, hports, if_false]
      exact hlinks

theorem ofbundlePortAdd_links {sPort : Option OfpPort} (hl : o.links.WF)
    (h : ofbundlePortAdd b sPort o = .ok (st, o')) :
    ∃ p ports, sPort = some p ∧ (o.links.leave p).members b = some ports ∧
      o'.links = (o.links.leave p).attach p b := by
  obtain ⟨p, port, o₁, port₁, bundle, hw, hsp, -, hremove, -, hb, -, rfl⟩ := ofbundlePortAdd_ok h
  have hlinks := bundleRemove_links hl hremove
  refine ⟨p, bundle.ports, hsp, hlinks ▸ links_members hb, ?_⟩
  rw [attachPort_links (o := { o₁ with hw := hw }) hb, ← hlinks]
  rfl

/-! ## The links stay well formed -/

theorem bundleRemove_wf : Keeps (fun o => o.links.WF) (bundleRemove p) := by
  intro o _ o' h hl
  rw [bundleRemove_links hl h]
  exact hl.leave

theorem ofbundlePortAdd_wf {sPort : Option OfpPort} :
    Keeps (fun o => o.links.WF) (ofbundlePortAdd b sPort) := by
  intro o st o' h hl
  obtain ⟨p, ports, -, hb, hlinks⟩ := ofbundlePortAdd_links hl h
  have hp : (o.links.leave p).owner p = none := by
    rw [Links.leave_owner, if_pos rfl]
  rw [hlinks]
  exact hl.leave.attach hp hb

theorem ofbundlePortsReconfigure_wf : Keeps (fun o => o.links.WF) (ofbundlePortsReconfigure b s) :=
  ofbundlePortsReconfigure_rel (fun _ => ofbundlePortDel_wf)
    (Frame.keeps vlanReconfigure_links Links.WF) fun _ => ofbundlePortAdd_wf

theorem bundleApply_wf : Keeps (fun o => o.links.WF) (bundleApply b s) :=
  bundleApply_rel ofbundlePortsReconfigure_wf
    (Frame.keeps ofbundleRouterIntfReconfigure_links Links.WF)
    (Frame.keeps ofbundleIpReconfigure_links Links.WF)

end

/-! ## Creating a bundle -/

theorem ofbundleCreate_ok {aux : Nat} (h : ofbundleCreate aux s o = .ok (b, o')) :
    ∃ cs, o.bundles.lookup b = none ∧
      o' = { o with hw := { o.hw with choices := cs } }.setBundle b (.alloc aux s.trunks) := by
  obtain ⟨n, o₁, h₁, h⟩ := bind_ok.mp h
  obtain ⟨hw, hn, rfl⟩ := onHw_ok.mp h₁
  cases hn
  cases h
  exact ⟨o.hw.choices.tail, AList.lookup_eq_none.mpr (fresh_notMem _ _), rfl⟩

theorem ofbundleLookup_ok {aux : Nat} {found : Option BundlePtr}
    (h : ofbundleLookup aux o = .ok (found, o')) :
    o' = o ∧ (∀ b, found = some b → o.bundlesBy (·.aux) b = some aux) ∧
      (found = none → ∀ b, o.bundlesBy (·.aux) b ≠ some aux) := by
  obtain ⟨-, h⟩ := require_bind.mp h
  cases h
  refine ⟨rfl, fun b hb => ?_, fun hnone b hb => ?_⟩
  · obtain ⟨e, he, rfl⟩ := Option.map_eq_some_iff.mp hb
    have haux := List.find?_some he
    have hmem : o.bundles.lookup e.1 = some e.2 :=
      AList.mem_lookup_iff.mpr (List.mem_of_find?_eq_some he)
    simpa [bundlesBy, hmem] using haux
  · obtain ⟨bundle, hb, haux⟩ := Option.map_eq_some_iff.mp hb
    have hmem := AList.mem_lookup_iff.mp hb
    have := List.find?_eq_none.mp (Option.map_eq_none_iff.mp hnone) _ hmem
    simp [haux] at this

theorem ofbundleLookupOrCreate_ok {aux : Nat}
    (h : ofbundleLookupOrCreate aux s o = .ok (b, o')) :
    (o' = o ∧ o.bundlesBy (·.aux) b = some aux) ∨
      ((∀ b, o.bundlesBy (·.aux) b ≠ some aux) ∧ ofbundleCreate aux s o = .ok (b, o')) := by
  obtain ⟨found, o₁, h₁, h⟩ := bind_ok.mp h
  obtain ⟨rfl, hsome, hnone⟩ := ofbundleLookup_ok h₁
  cases found with
  | some b₁ =>
    cases h
    exact .inl ⟨rfl, hsome _ rfl⟩
  | none => exact .inr ⟨hnone rfl, h⟩

/-- A lookup changes nothing, and a bundle that is created is empty. -/
theorem ofbundleLookupOrCreate_rel {R : OfprotoSai → OfprotoSai → Prop} [IsPreorder OfprotoSai R]
    {aux : Nat} (hcreate : ∀ o b cs, o.bundles.lookup b = none →
      R o ({ o with hw := { o.hw with choices := cs } }.setBundle b (.alloc aux s.trunks))) :
    Rel R (ofbundleLookupOrCreate aux s) := by
  intro o b o' h
  rcases ofbundleLookupOrCreate_ok h with ⟨rfl, -⟩ | ⟨-, h⟩
  · exact refl_of R _
  · obtain ⟨cs, hb, rfl⟩ := ofbundleCreate_ok h
    exact hcreate o b cs hb

/-- What a run does not change: the kind of the ofproto, its netdevs and their port objects. -/
structure SameSetup (o o' : OfprotoSai) : Prop where
  type : o'.type = o.type
  vrid : o'.vrid = o.vrid
  netdevs : o'.netdevs = o.netdevs
  oid : o'.hw.opsSaiApiHwId2PortId = o.hw.opsSaiApiHwId2PortId

instance : IsPreorder OfprotoSai SameSetup where
  refl _ := ⟨rfl, rfl, rfl, rfl⟩
  trans _ _ _ h h' := ⟨h'.type.trans h.type, h'.vrid.trans h.vrid, h'.netdevs.trans h.netdevs,
    h'.oid.trans h.oid⟩

theorem Evolves.sameSetup (h : Evolves o o') : SameSetup o o' := ⟨h.type, h.vrid, h.netdevs, h.oid⟩

theorem ofbundleLookupOrCreate_sameSetup {aux : Nat} :
    Rel SameSetup (ofbundleLookupOrCreate aux s) :=
  ofbundleLookupOrCreate_rel fun _ _ _ _ => ⟨rfl, rfl, rfl, rfl⟩

theorem ofbundleCreate_links {aux : Nat} (h : ofbundleCreate aux s o = .ok (b, o')) :
    o'.links = o.links.create b ∧ o.links.members b = none := by
  obtain ⟨cs, hb, rfl⟩ := ofbundleCreate_ok h
  have hmem : o.links.members b = none := by simp [OfprotoSai.links, bundlesBy, hb]
  exact ⟨setBundle_links, hmem⟩

/-- No two bundles have the same aux. -/
def OfprotoSai.AuxInj (o : OfprotoSai) : Prop :=
  ∀ b b' a, o.bundlesBy (·.aux) b = some a → o.bundlesBy (·.aux) b' = some a → b = b'

theorem Evolves.auxInj (h : Evolves o o') (ha : o.AuxInj) : o'.AuxInj :=
  fun b b' a hb hb' => ha b b' a (h.aux b a hb) (h.aux b' a hb')

theorem ofbundleCreate_auxInj {aux : Nat} (ha : o.AuxInj)
    (hnew : ∀ b, o.bundlesBy (·.aux) b ≠ some aux)
    (h : ofbundleCreate aux s o = .ok (b, o')) : o'.AuxInj := by
  obtain ⟨cs, -, rfl⟩ := ofbundleCreate_ok h
  intro b₁ b₂ a h₁ h₂
  simp only [bundlesBy, setBundle_lookup] at h₁ h₂
  split at h₁ <;> split at h₂
  next e₁ e₂ => exact e₁.trans e₂.symm
  next e₁ e₂ =>
    cases h₁
    exact absurd h₂ (hnew b₂)
  next e₁ e₂ =>
    cases h₂
    exact absurd h₁ (hnew b₁)
  next e₁ e₂ => exact ha b₁ b₂ a h₁ h₂

theorem ofbundleLookupOrCreate_inv {aux : Nat} (hl : o.links.WF) (ha : o.AuxInj)
    (h : ofbundleLookupOrCreate aux s o = .ok (b, o')) :
    o'.links.WF ∧ o'.AuxInj ∧ o'.netdevs = o.netdevs := by
  have hsetup := ofbundleLookupOrCreate_sameSetup _ _ _ h
  rcases ofbundleLookupOrCreate_ok h with ⟨rfl, -⟩ | ⟨hnew, hcreate⟩
  · exact ⟨hl, ha, rfl⟩
  · obtain ⟨hlinks, hmem⟩ := ofbundleCreate_links hcreate
    exact ⟨hlinks ▸ hl.create hmem, ofbundleCreate_auxInj ha hnew hcreate, hsetup.netdevs⟩

/-! ## The ports after a reconfiguration are the slaves -/

theorem getOfpPort_of_netdevs (h : o'.netdevs = o.netdevs) : o'.getOfpPort = o.getOfpPort := by
  have hmap : ∀ o : OfprotoSai, o.getOfpPort = fun p => (o.netdevs p).map fun _ => p := by
    intro o
    funext p
    simp [OfprotoSai.getOfpPort, netdevs, Function.comp_def]
  rw [hmap, hmap, h]

theorem exists_port_of_netdevs {port : OfportSai} (h : o'.netdevs = o.netdevs)
    (hp : o.ofports p = some port) : ∃ port', o'.ofports p = some port' := by
  have := congrFun h p
  rw [netdevs, netdevs, hp, Option.map_some] at this
  exact (Option.map_eq_some_iff.mp this).imp fun _ h => h.1

theorem isSlave_of_netdevs (h : o'.netdevs = o.netdevs) : o'.isSlave s = o.isSlave s := by
  funext p
  simp only [OfprotoSai.isSlave, getOfpPort_of_netdevs h]

theorem isSlave_iff : o.isSlave s p = true ↔ ∃ slave ∈ s.slaves, o.getOfpPort slave = some p := by
  simp [OfprotoSai.isSlave]

/-- The first loop has taken out the ports among `ports` that are no slaves. -/
theorem portsRemove_loop {ports : List OfpPort}
    (h : (forEach ports fun p => do
      let portFound ← gets fun o => o.isSlave s p
      if portFound then return 0 else ofbundlePortDel p) o = .ok (0, o')) :
    ∀ p, o'.links.owner p = some b ↔
      o.links.owner p = some b ∧ (p ∈ ports → o.isSlave s p = true) := by
  induction ports generalizing o with
  | nil =>
    cases h
    simp
  | cons q ports ih =>
    obtain ⟨o₁, h₁, h⟩ := thenOk_zero.mp h
    beta_reduce at h₁
    rw [gets_bind] at h₁
    have ih := ih h
    intro p
    rw [ih p]
    by_cases hq : o.isSlave s q = true
    · rw [if_pos hq] at h₁
      cases h₁
      by_cases hp : p = q
      · subst hp
        simp [hq]
      · simp [hp]
    · rw [if_neg hq] at h₁
      rw [isSlave_of_netdevs (ofbundlePortDel_evolves _ _ _ h₁).netdevs]
      obtain ⟨b', -, hlinks⟩ := ofbundlePortDel_links h₁
      rw [hlinks, Links.detach_owner]
      by_cases hp : p = q
      · subst hp
        simp [hq]
      · simp [hp]

section
variable [OvsLib] [Build]

/-- The last loop has put in the ports among `slaves` that exist. -/
theorem portsAdd_loop {slaves : List OfpPort} (hl : o.links.WF)
    (h : (forEach slaves fun slave => do
      let sPort ← gets fun o => o.getOfpPort slave
      let bundle ← ofbundle b
      if bundle.ports.any fun p => some p = sPort then return 0
        else ofbundlePortAdd b sPort) o = .ok (0, o')) :
    ∀ p, o'.links.owner p = some b ↔
      o.links.owner p = some b ∨ ∃ slave ∈ slaves, o.getOfpPort slave = some p := by
  induction slaves generalizing o with
  | nil =>
    cases h
    simp
  | cons slave slaves ih =>
    obtain ⟨o₁, h₁, h⟩ := thenOk_zero.mp h
    beta_reduce at h₁
    rw [gets_bind] at h₁
    obtain ⟨bundle, hb, h₁⟩ := ofbundle_bind.mp h₁
    intro p
    simp only [List.mem_cons, exists_eq_or_imp]
    split at h₁
    next hany =>
      -- the slave is on the list already
      cases h₁
      rw [ih hl h p, ← or_assoc]
      refine or_congr_left (iff_self_or.mpr fun hp => ?_)
      obtain ⟨q, hq, hslave⟩ := List.any_eq_true.mp hany
      have hqp : some q = o.getOfpPort slave := of_decide_eq_true hslave
      rw [hp, Option.some.injEq] at hqp
      exact (hl.mem_iff (links_members hb)).mp (hqp ▸ hq)
    next =>
      rw [ih (ofbundlePortAdd_wf _ _ _ h₁ hl) h p,
        getOfpPort_of_netdevs (ofbundlePortAdd_evolves _ _ _ h₁).netdevs, ← or_assoc]
      refine or_congr_left ?_
      obtain ⟨q, ports, hslave, -, hlinks⟩ := ofbundlePortAdd_links hl h₁
      rw [hlinks, Links.attach_owner, Links.leave_owner, hslave, Option.some.injEq]
      by_cases hp : p = q
      · simp [hp]
      · simp [hp, Ne.symm hp]

theorem ofbundlePortAdd_live {sPort : Option OfpPort} :
    Keeps (fun o => (o.links.members b).isSome) (ofbundlePortAdd b sPort) := by
  intro o st o' h _
  obtain ⟨p, port, o₁, port₁, bundle, hw, -, -, -, -, -, -, rfl⟩ := ofbundlePortAdd_ok h
  have hb : ({ o₁ with hw := hw }.attachPort p port₁ b bundle).bundles.lookup b = some _ :=
    (setBundle_lookup ..).trans (if_pos rfl)
  exact Option.isSome_of_eq_some (links_members hb)

/-- A bundle exists after a reconfiguration of its ports. -/
theorem ofbundlePortsReconfigure_live (h : ofbundlePortsReconfigure b s o = .ok (0, o')) :
    ∃ bundle, o'.bundles.lookup b = some bundle := by
  obtain ⟨o₁, hremove, h⟩ := thenOk_zero.mp h
  obtain ⟨o₂, hvlan, hadd⟩ := thenOk_zero.mp h
  obtain ⟨bundle₁, bundle₂, hvlan⟩ := ofbundle_bind.mp hvlan
  have hlive : (o₂.links.members b).isSome := by
    rw [(vlanReconfigure_sameButVlan _ _ _ (ofbundle_bind.mpr ⟨_, bundle₂, hvlan⟩)).links]
    exact Option.isSome_of_eq_some (links_members bundle₂)
  have hkeeps : Keeps (fun o => (o.links.members b).isSome) (portsAdd b s) :=
    portsAdd_rel fun _ => ofbundlePortAdd_live
  obtain ⟨bundle, hb, -⟩ := Option.map_eq_some_iff.mp
    (Option.eq_some_of_isSome (hkeeps _ _ _ hadd hlive))
  exact ⟨bundle, hb⟩

/-- After a reconfiguration of its ports that succeeds, a bundle has the slaves as its ports. -/
theorem ofbundlePortsReconfigure_owner (hl : o.links.WF)
    (h : ofbundlePortsReconfigure b s o = .ok (0, o')) (p : OfpPort) :
    o'.links.owner p = some b ↔ o.isSlave s p = true := by
  obtain ⟨o₁, hremove, h⟩ := thenOk_zero.mp h
  obtain ⟨o₂, hvlan, hadd⟩ := thenOk_zero.mp h
  have hl₁ := portsRemove_wf _ _ _ hremove hl
  have hnet₁ := (portsRemove_evolves _ _ _ hremove).netdevs
  have hvlan := vlanReconfigure_sameButVlan _ _ _ hvlan
  obtain ⟨bundle, hb, hloop⟩ := ofbundle_bind.mp hremove
  have hremoved := portsRemove_loop (b := b) hloop p
  have hadded := portsAdd_loop (hvlan.links ▸ hl₁) hadd p
  rw [hvlan.links, hremoved, getOfpPort_of_netdevs (hvlan.evolves.netdevs.trans hnet₁),
    ← isSlave_iff, hl.mem_iff (links_members hb)] at hadded
  rw [hadded]
  constructor
  · rintro (⟨hp, hslave⟩ | hslave)
    · exact hslave hp
    · exact hslave
  · exact .inr

end

/-! ## Runs -/

/-- Ports and bundles are linked consistently. -/
structure OfprotoSai.Linked (o : OfprotoSai) : Prop where
  /-- A port points to a bundle exactly when it is on the list of the bundle. -/
  bundle_iff : ∀ p port b, o.ofports p = some port →
    (port.bundle = some b ↔ ∃ bundle, o.bundles.lookup b = some bundle ∧ p ∈ bundle.ports)
  /-- A list has a port at most once, and the port exists. -/
  count : ∀ b bundle p, o.bundles.lookup b = some bundle → p ∈ bundle.ports →
    bundle.ports.count p = 1 ∧ (o.ofports p).isSome
  /-- A port is on one list only. -/
  unique : ∀ b bundle b' bundle' p, o.bundles.lookup b = some bundle →
    o.bundles.lookup b' = some bundle' → p ∈ bundle.ports → p ∈ bundle'.ports → b = b'
  /-- A bundle that a port points to exists. -/
  live : ∀ p port b, o.ofports p = some port → port.bundle = some b → b ∈ o.bundles
  /-- The bundles have different aux. -/
  aux : ∀ b bundle b' bundle', o.bundles.lookup b = some bundle →
    o.bundles.lookup b' = some bundle' → bundle.aux = bundle'.aux → b = b'

theorem linked_of_links (hl : o.links.WF) (ha : o.AuxInj) : o.Linked := by
  have hmem : ∀ {b bundle p}, o.bundles.lookup b = some bundle → p ∈ bundle.ports →
      o.links.owner p = some b := fun hb hp => (hl.mem_iff (links_members hb)).mp hp
  have hown : ∀ {p port b}, o.ofports p = some port → port.bundle = some b →
      ∃ bundle, o.bundles.lookup b = some bundle ∧ p ∈ bundle.ports := by
    intro p port b hp hpb
    obtain ⟨ports, hports, hin⟩ := hl.exists_members ((links_owner hp).trans hpb)
    obtain ⟨bundle, hb, rfl⟩ := Option.map_eq_some_iff.mp hports
    exact ⟨bundle, hb, hin⟩
  refine ⟨fun p port b hp => ⟨hown hp, ?_⟩, fun b bundle p hb hp => ⟨?_, ?_⟩, ?_, ?_, ?_⟩
  · rintro ⟨bundle, hb, hin⟩
    rw [← links_owner hp]
    exact hmem hb hin
  · exact List.count_eq_one_of_mem (hl.nodup b _ (links_members hb)) hp
  · have := hmem hb hp
    simp only [OfprotoSai.links, Option.bind_eq_some_iff] at this
    obtain ⟨port, hp, -⟩ := this
    exact Option.isSome_of_eq_some hp
  · intro b bundle b' bundle' p hb hb' hp hp'
    exact Option.some.inj ((hmem hb hp).symm.trans (hmem hb' hp'))
  · intro p port b hp hpb
    obtain ⟨bundle, hb, -⟩ := hown hp hpb
    exact AList.lookup_isSome.mp (Option.isSome_of_eq_some hb)
  · intro b bundle b' bundle' hb hb' haux
    exact ha b b' bundle.aux (by simp [bundlesBy, hb]) (by simp [bundlesBy, hb', haux])

section
variable [OvsLib] [Build] [OpenswitchIdl]

theorem BundleCall.run_inv {c : BundleCall} (h : c.run o = .ok (st, o'))
    (hinv : o.links.WF ∧ o.AuxInj) : o'.links.WF ∧ o'.AuxInj := by
  have hkeeps : Keeps (fun o => o.links.WF ∧ o.AuxInj) c.run := by
    refine BundleCall.run_rel (fun aux s _ o b o' h hinv => ?_) (fun aux s b _ o st o' h hinv => ?_)
      (fun b o _ o' h hinv => ?_) fun p o _ o' h hinv => ?_
    · obtain ⟨hl, ha, -⟩ := ofbundleLookupOrCreate_inv hinv.1 hinv.2 h
      exact ⟨hl, ha⟩
    · exact ⟨bundleApply_wf _ _ _ h hinv.1, (bundleApply_evolves _ _ _ h).auxInj hinv.2⟩
    · exact ⟨ofbundleDestroy_wf hinv.1 h, (ofbundleDestroy_evolves _ _ _ h).auxInj hinv.2⟩
    · exact ⟨bundleRemove_wf _ _ _ h hinv.1, (bundleRemove_evolves _ _ _ h).auxInj hinv.2⟩
  exact hkeeps _ _ _ h hinv

/-- Ports that are in no bundle yet. -/
def Unbundled (ofports : OfpPort → Option OfportSai) : Prop :=
  ∀ p port, ofports p = some port → port.bundle = none

omit [OvsLib] [Build] [OpenswitchIdl] in
theorem new_inv {type : OfprotoType} {vrid : Nat}
    {ofports : OfpPort → Option OfportSai} {hw : Hw}
    (hnew : Unbundled ofports) :
    (OfprotoSai.new type vrid ofports hw).links.WF ∧
      (OfprotoSai.new type vrid ofports hw).AuxInj := by
  have hmem : ∀ b, (OfprotoSai.new type vrid ofports hw).links.members b = none := fun _ => rfl
  have hown : ∀ p, (OfprotoSai.new type vrid ofports hw).links.owner p = none := by
    intro p
    simp only [OfprotoSai.links, OfprotoSai.new]
    cases hp : ofports p with
    | none => rfl
    | some port => exact hnew p port hp
  refine ⟨⟨fun p b => ?_, fun b is hb => ?_⟩, fun b b' a hb => ?_⟩
  · simp [hmem, hown]
  · simp [hmem] at hb
  · cases hb

/-- **Ports and bundles stay consistently linked** in every run of `__bundle_set` and
`__bundle_remove`, whatever the outcomes of the hardware calls. Moreover the ports of a bundle are
exactly the slaves of its settings whenever `__ofbundle_ports_reconfigure` returns 0. -/
theorem bundleCalls_linked {type : OfprotoType} {vrid : Nat}
    {ofports : OfpPort → Option OfportSai} {hw : Hw}
    (hnew : Unbundled ofports)
    (H : Reaches (fun _ _ => True) BundleCall.run (.new type vrid ofports hw) o) :
    o.Linked ∧ ∀ aux s b o₁ o₂, ofbundleLookupOrCreate aux s o = .ok (b, o₁) →
      ofbundlePortsReconfigure b s o₁ = .ok (0, o₂) →
      ∃ bundle, o₂.bundles.lookup b = some bundle ∧
        ∀ p, p ∈ bundle.ports ↔ ∃ slave ∈ s.slaves, o.getOfpPort slave = some p := by
  obtain ⟨hl, ha⟩ := H.invariant (I := fun o => o.links.WF ∧ o.AuxInj)
    (fun _ _ _ _ _ => BundleCall.run_inv) (new_inv hnew)
  refine ⟨linked_of_links hl ha, fun aux s b o₁ o₂ hcreate hports => ?_⟩
  obtain ⟨hl₁, -, hnet⟩ := ofbundleLookupOrCreate_inv hl ha hcreate
  have hl₂ := ofbundlePortsReconfigure_wf _ _ _ hports hl₁
  obtain ⟨bundle, hb⟩ := ofbundlePortsReconfigure_live hports
  refine ⟨bundle, hb, fun p => ?_⟩
  rw [hl₂.mem_iff (links_members hb), ofbundlePortsReconfigure_owner hl₁ hports,
    isSlave_of_netdevs hnet, isSlave_iff]

end

section
attribute [local instance] sampleOvs sampleBuild sampleIdl

theorem samplePorts_unbundled : Unbundled samplePorts := by
  intro p port hp
  unfold samplePorts at hp
  split at hp <;> cases hp
  rfl

/-- A bundle with port 1 is created and removed. -/
theorem bundleCalls_linked_sample :
    ∃ o, Reaches (fun _ _ => True) BundleCall.run (.new .system 0 samplePorts .reset) o ∧
      o.Linked := by
  obtain ⟨o, hrun⟩ := result_eq_some.mp (show result (do
    let _ ← BundleCall.run (.set 1 (some (accessSettings 2)))
    BundleCall.run (.remove 1)) (.new .system 0 samplePorts .reset) = some 0 by decide +kernel)
  obtain ⟨st, o₁, h₁, h₂⟩ := bind_ok.mp hrun
  have H : Reaches (fun _ _ => True) BundleCall.run (.new .system 0 samplePorts .reset) o :=
    .tail (.tail .refl ⟨_, st, trivial, h₁⟩) ⟨_, 0, trivial, h₂⟩
  exact ⟨o, H, (bundleCalls_linked samplePorts_unbundled H).1⟩

end

end SwitchdSai
