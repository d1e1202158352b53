import SwitchdSai.Verify.Links
import SwitchdSai.Verify.RouterIntf
import SwitchdSai.Verify.Success

/-!
# The router interface handles of netdevs

A netdev keeps a pointer to the router interface of its bundle. The bundle clears the handles of the
ports on its list when it gives up its interface, and sets them when it creates one; a port that
leaves the list in between keeps its handle. `HandlesOk X` says that every port outside `X` has a
good handle.
-/

namespace SwitchdSai

open Exec OfprotoSai

namespace OfprotoSai

/-- The bundle the handle of a port points into. -/
def handle (o : OfprotoSai) (p : OfpPort) : Option BundlePtr :=
  (o.ofports p).bind (·.netdev.rifHandle)

/-- The bundle `b` has created its router interface. -/
def Created (o : OfprotoSai) (b : BundlePtr) : Prop :=
  ∃ r, o.bundlesBy (·.routerIntf) b = some r ∧ r.created = true

/-- No bundle has local routes. -/
def NoRoutes (o : OfprotoSai) : Prop :=
  ∀ b bundle, o.bundles.lookup b = some bundle → bundle.localRoutes = []

/-- Every port outside `X` has no handle or one into the bundle whose list it is on, and that bundle
has created its router interface. -/
def HandlesOk (X : OfpPort → Prop) (o : OfprotoSai) : Prop :=
  ∀ p b, ¬X p → o.handle p = some b → o.links.owner p = some b ∧ o.Created b

end OfprotoSai

variable {o o' : OfprotoSai} {p q : OfpPort} {b : BundlePtr} {s : OfprotoBundleSettings}
  {X : OfpPort → Prop} {st : Int}

/-! ## What only the creation of a router interface does -/

/-- Without local routes, no handle has been set and no router interface created. -/
def RifsShrink (o o' : OfprotoSai) : Prop :=
  o.NoRoutes → o'.NoRoutes ∧ (∀ p b, o'.handle p = some b → o.handle p = some b) ∧
    ∀ b r, o'.bundlesBy (·.routerIntf) b = some r → r.created = true →
      o.bundlesBy (·.routerIntf) b = some r

instance : IsPreorder OfprotoSai RifsShrink where
  refl _ hr := ⟨hr, fun _ _ => id, fun _ _ h _ => h⟩
  trans _ _ _ h h' hr := by
    obtain ⟨hr₁, hh₁, hb₁⟩ := h hr
    obtain ⟨hr₂, hh₂, hb₂⟩ := h' hr₁
    exact ⟨hr₂, fun p b hp => hh₁ p b (hh₂ p b hp), fun b r hb hc => hb₁ b r (hb₂ b r hb hc) hc⟩

theorem noRoutes_iff : o.NoRoutes ↔
    ∀ b l, o.bundlesBy (·.localRoutes) b = some l → l = [] := by
  simp [NoRoutes, bundlesBy]

theorem rifsShrink_of_eq (hh : o'.handle = o.handle)
    (hr : o'.bundlesBy (·.routerIntf) = o.bundlesBy (·.routerIntf))
    (hl : o'.bundlesBy (·.localRoutes) = o.bundlesBy (·.localRoutes)) : RifsShrink o o' := by
  intro hno
  refine ⟨?_, fun p b h => hh ▸ h, fun b r h _ => hr ▸ h⟩
  rw [noRoutes_iff] at hno ⊢
  rwa [hl]

theorem handle_congr (h : o'.ofports = o.ofports) : o'.handle = o.handle := by
  unfold OfprotoSai.handle
  rw [h]

theorem SameButVlan.routerIntf (h : SameButVlan o o') :
    o'.bundlesBy (·.routerIntf) = o.bundlesBy (·.routerIntf) :=
  bundlesBy_of (k := (·.routerIntf)) h.bundles fun _ => rfl

theorem SameButIp.routerIntf (h : SameButIp o o') :
    o'.bundlesBy (·.routerIntf) = o.bundlesBy (·.routerIntf) :=
  bundlesBy_of (k := (·.routerIntf)) h.bundles fun _ => rfl

theorem SameButVlan.rifsShrink (h : SameButVlan o o') : RifsShrink o o' :=
  rifsShrink_of_eq (handle_congr h.ofports) h.routerIntf
    (bundlesBy_of (k := (·.localRoutes)) h.bundles fun _ => rfl)

theorem SameButIp.rifsShrink (h : SameButIp o o') : RifsShrink o o' :=
  rifsShrink_of_eq (handle_congr h.ofports) h.routerIntf
    (bundlesBy_of (k := (·.localRoutes)) h.bundles fun _ => rfl)

theorem handle_setPort (port : OfportSai) :
    (o.setPort p port).handle q = if q = p then port.netdev.rifHandle else o.handle q := by
  simp only [OfprotoSai.handle, setPort_ofports]
  split <;> rfl

theorem handle_of_ofports {port : OfportSai} (hp : o.ofports p = some port) :
    o.handle p = port.netdev.rifHandle := by
  simp [OfprotoSai.handle, hp]

/-- Writing a port back with its netdev leaves the handles as they were. -/
theorem setPort_handle {port port' : OfportSai} (hp : o.ofports p = some port)
    (hn : port'.netdev = port.netdev) : (o.setPort p port').handle = o.handle := by
  funext q
  rw [handle_setPort]
  split
  next h => rw [h, handle_of_ofports hp, hn]
  next => rfl

theorem detachPort_handle {port : OfportSai} {bundle : OfbundleSai}
    (hp : o.ofports p = some port) : (o.detachPort p port b bundle).handle = o.handle :=
  setPort_handle (o := o.setBundle b _) hp rfl

theorem attachPort_handle {port : OfportSai} {bundle : OfbundleSai}
    (hp : o.ofports p = some port) : (o.attachPort p port b bundle).handle = o.handle :=
  setPort_handle hp rfl

theorem ofbundlePortDel_rifs (h : ofbundlePortDel p o = .ok (st, o')) :
    o'.handle = o.handle ∧ o'.bundlesBy (·.routerIntf) = o.bundlesBy (·.routerIntf) ∧
      o'.bundlesBy (·.localRoutes) = o.bundlesBy (·.localRoutes) := by
  obtain ⟨port, b, bundle, hw, hp, -, hb, -, rfl⟩ := ofbundlePortDel_ok h
  exact ⟨detachPort_handle (o := { o with hw := hw }) hp, setBundle_bundlesBy hb rfl,
    setBundle_bundlesBy hb rfl⟩

theorem ofbundlePortDel_rifsShrink : Rel RifsShrink (ofbundlePortDel p) := by
  intro o st o' h
  obtain ⟨hh, hr, hl⟩ := ofbundlePortDel_rifs h
  exact rifsShrink_of_eq hh hr hl

theorem erase_rifsShrink : RifsShrink o { o with bundles := o.bundles.erase b } := by
  refine fun hr => ⟨fun b' bundle hb => ?_, fun _ _ => id, fun b' r h _ => ?_⟩
  · rw [lookup_erase] at hb
    split at hb
    next => cases hb
    next => exact hr b' bundle hb
  · simp only [bundlesBy, lookup_erase] at h ⊢
    split at h
    next => cases h
    next => exact h

/-! ## Clearing and setting the handles of the ports of a bundle -/

theorem setRouterIntfHandle_ok {h : Option BundlePtr}
    (hm : netdevSaiSetRouterIntfHandle p h o = .ok (st, o')) :
    st = 0 ∧ o'.bundles = o.bundles ∧ ∀ q, o'.handle q = if q = p then h else o.handle q := by
  obtain ⟨port, hp, hm⟩ := ofport_bind.mp hm
  obtain ⟨-, hm⟩ := require_bind.mp hm
  obtain ⟨port₁, hp₁, hend⟩ := modifyPort_bind.mp hm
  cases hend
  exact ⟨rfl, rfl, fun q => handle_setPort _⟩

theorem setRouterIntfHandles_ok {h : Option BundlePtr} {ports : List OfpPort}
    (hm : (forEach ports fun p => netdevSaiSetRouterIntfHandle p h) o = .ok (st, o')) :
    o'.bundles = o.bundles ∧ ∀ q, o'.handle q = if q ∈ ports then h else o.handle q := by
  induction ports generalizing o with
  | nil =>
    cases hm
    exact ⟨rfl, fun q => by simp⟩
  | cons p ports ih =>
    rcases thenOk_ok.mp hm with ⟨h₁, h0⟩ | ⟨o₁, h₁, hm⟩
    · exact absurd (setRouterIntfHandle_ok h₁).1 h0
    · obtain ⟨-, hb₁, hh₁⟩ := setRouterIntfHandle_ok h₁
      obtain ⟨hb, hh⟩ := ih hm
      refine ⟨hb.trans hb₁, fun q => ?_⟩
      rw [hh, hh₁]
      by_cases hq : q = p <;> by_cases hq' : q ∈ ports <;> simp [hq, hq']

section
variable [OvsLib] [Build]

theorem localRoutesRemove_nil {bundle : OfbundleSai} (hb : o.bundles.lookup b = some bundle)
    (hr : bundle.localRoutes = []) (h : localRoutesRemove b o = .ok (st, o')) :
    st = 0 ∧ ∃ cs, o' = { o with hw := { o.hw with choices := cs } } := by
  obtain ⟨bundle₁, hb₁, h⟩ := ofbundle_bind.mp h
  obtain rfl : bundle₁ = bundle := Option.some.inj (hb₁.symm.trans hb)
  rw [gets_bind, hr] at h
  obtain ⟨addrs, o₁, hwalk, hloop⟩ := bind_ok.mp h
  obtain ⟨hperm, cs, rfl⟩ := walkTable_ok hwalk
  rw [hperm.eq_nil] at hloop
  cases hloop
  exact ⟨rfl, cs, rfl⟩

/-- Giving up the router interface of a bundle without local routes. The handles of its ports are
cleared first, whatever becomes of the interface. -/
theorem ofbundleRouterIntfRemove_rifs (hr : o.NoRoutes)
    (h : ofbundleRouterIntfRemove b o = .ok (st, o')) :
    ∃ bundle r, o.bundles.lookup b = some bundle ∧ (r = bundle.routerIntf ∨ r = .zero) ∧
      (∀ q, o'.handle q =
        if bundle.routerIntf.created = true ∧ q ∈ bundle.ports then none else o.handle q) ∧
      ∀ b', o'.bundles.lookup b' =
        if b' = b then some { bundle with routerIntf := r } else o.bundles.lookup b' := by
  rcases ofbundleRouterIntfRemove_ok h with ⟨hfail, h0⟩ | ⟨o₁, bundle, hlocal, hb, hrest⟩
  · obtain ⟨bundle, hb, -⟩ := ofbundle_bind.mp hfail
    exact absurd (localRoutesRemove_nil hb (hr b bundle hb) hfail).1 h0
  obtain ⟨bundle₁, hb₁, -⟩ := ofbundle_bind.mp hlocal
  obtain ⟨-, hw₁, rfl⟩ := localRoutesRemove_nil hb₁ (hr b bundle₁ hb₁) hlocal
  have hb : o.bundles.lookup b = some bundle := hb
  have hsame : ∀ b', o.bundles.lookup b' =
      if b' = b then some { bundle with routerIntf := bundle.routerIntf }
      else o.bundles.lookup b' := by
    intro b'
    split
    next hbb => exact hbb ▸ hb
    next => rfl
  rcases hrest with ⟨hc, -, rfl⟩ | ⟨hc, o₂, hw, hclear, -, hend⟩
  · exact ⟨bundle, _, hb, .inl rfl, fun q => by simp [hc, OfprotoSai.handle], hsame⟩
  obtain ⟨hbundles, hhandle⟩ := setRouterIntfHandles_ok hclear
  have hcleared : ∀ q, o₂.handle q =
      if bundle.routerIntf.created = true ∧ q ∈ bundle.ports then none else o.handle q := by
    intro q
    rw [hhandle q]
    simp only [hc, true_and]
    rfl
  rcases hend with ⟨-, rfl⟩ | ⟨-, rfl⟩
  · refine ⟨bundle, _, hb, .inl rfl, hcleared, fun b' => ?_⟩
    show o₂.bundles.lookup b' = _
    rw [hbundles]
    exact hsame b'
  · refine ⟨bundle, _, hb, .inr rfl, hcleared, fun b' => ?_⟩
    rw [setBundle_lookup]
    show (if b' = b then _ else o₂.bundles.lookup b') = _
    rw [hbundles]

theorem ofbundleRouterIntfRemove_rifsShrink : Rel RifsShrink (ofbundleRouterIntfRemove b) := by
  intro o st o' h hr
  obtain ⟨bundle, r, hb, hrcase, hhandle, hlookup⟩ := ofbundleRouterIntfRemove_rifs hr h
  refine ⟨fun b' bundle' hb' => ?_, fun p b' hp => ?_, fun b' r' hb' hc => ?_⟩
  · rw [hlookup] at hb'
    split at hb'
    · cases hb'
      exact hr b bundle hb
    · exact hr b' bundle' hb'
  · rw [hhandle] at hp
    split at hp
    · cases hp
    · exact hp
  · simp only [bundlesBy, hlookup] at hb' ⊢
    split at hb'
    next hbb =>
      subst hbb
      cases hb'
      rcases hrcase with rfl | rfl
      · rw [hb]
        rfl
      · cases hc
    next => exact hb'

theorem ofbundleDestroy_rifsShrink : Rel RifsShrink (ofbundleDestroy b) :=
  ofbundleDestroy_rel (ofbundleIpRemove_sameButIp.mono fun _ _ => SameButIp.rifsShrink)
    ofbundleRouterIntfRemove_rifsShrink (fun _ => ofbundlePortDel_rifsShrink)
    fun _ => erase_rifsShrink

theorem bundleRemove_rifsShrink : Rel RifsShrink (bundleRemove p) :=
  bundleRemove_rel (fun _ => ofbundlePortDel_rifsShrink) fun _ => ofbundleDestroy_rifsShrink

theorem ofbundlePortAdd_rifsShrink {sPort : Option OfpPort} :
    Rel RifsShrink (ofbundlePortAdd b sPort) := by
  intro o st o' h
  obtain ⟨p, port, o₁, port₁, bundle, hw, -, -, hremove, hp, hb, -, rfl⟩ := ofbundlePortAdd_ok h
  refine trans_of RifsShrink (bundleRemove_rifsShrink _ _ _ hremove) ?_
  exact rifsShrink_of_eq (attachPort_handle (o := { o₁ with hw := hw }) hp)
    (setBundle_bundlesBy hb rfl) (setBundle_bundlesBy hb rfl)

omit [OvsLib] [Build] in
theorem portsRemove_rifsShrink : Rel RifsShrink (portsRemove b s) :=
  portsRemove_rel fun _ => ofbundlePortDel_rifsShrink

theorem ofbundlePortsReconfigure_rifsShrink : Rel RifsShrink (ofbundlePortsReconfigure b s) :=
  ofbundlePortsReconfigure_rel (fun _ => ofbundlePortDel_rifsShrink)
    (vlanReconfigure_sameButVlan.mono fun _ _ => SameButVlan.rifsShrink)
    fun _ => ofbundlePortAdd_rifsShrink

/-! ## Good handles stay good -/

omit [OvsLib] [Build] in
theorem handlesOk_of_eq (hh : o'.handle = o.handle) (hl : o'.links = o.links)
    (hr : o'.bundlesBy (·.routerIntf) = o.bundlesBy (·.routerIntf)) (h : o.HandlesOk X) :
    o'.HandlesOk X := by
  intro p b hx hp
  rw [hh] at hp
  rw [hl, Created, hr]
  exact h p b hx hp

omit [OvsLib] [Build] in
theorem vlanReconfigure_handlesOk : Keeps (HandlesOk X) (vlanReconfigure b s) := fun _ _ _ h => by
  have h := vlanReconfigure_sameButVlan _ _ _ h
  exact handlesOk_of_eq (handle_congr h.ofports) h.links h.routerIntf

theorem ofbundleIpRemove_handlesOk : Keeps (HandlesOk X) (ofbundleIpRemove b) := fun _ _ _ h => by
  have h := ofbundleIpRemove_sameButIp _ _ _ h
  exact handlesOk_of_eq (handle_congr h.ofports) h.links h.routerIntf

theorem ofbundleIpReconfigure_handlesOk : Keeps (HandlesOk X) (ofbundleIpReconfigure b s) :=
  fun _ _ _ h => by
    have h := ofbundleIpReconfigure_sameButIp _ _ _ h
    exact handlesOk_of_eq (handle_congr h.ofports) h.links h.routerIntf

omit [OvsLib] [Build] in
/-- A port outside `X` may only be taken off its list when it has no handle. -/
theorem ofbundlePortDel_handlesOk (hp : X p ∨ o.handle p = none)
    (h : ofbundlePortDel p o = .ok (st, o')) (hok : o.HandlesOk X) : o'.HandlesOk X := by
  obtain ⟨hh, hr, -⟩ := ofbundlePortDel_rifs h
  obtain ⟨b, -, hlinks⟩ := ofbundlePortDel_links h
  intro q b' hx hq
  rw [hh] at hq
  have hqp : q ≠ p := by
    rintro rfl
    rcases hp with hp | hp
    · exact hx hp
    · rw [hp] at hq
      cases hq
  rw [hlinks, Links.detach_owner, if_neg hqp, Created, hr]
  exact hok q b' hx hq

/-- Giving up a router interface keeps the handles good and clears those of the listed ports. -/
theorem ofbundleRouterIntfRemove_handlesOk (hl : o.links.WF) (hr : o.NoRoutes)
    (hok : o.HandlesOk X) (h : ofbundleRouterIntfRemove b o = .ok (st, o')) :
    o'.HandlesOk X ∧
      ∀ p, ¬X p ∨ o.Created b → o.links.owner p = some b → o'.handle p = none := by
  obtain ⟨bundle, r, hb, hrcase, hhandle, hlookup⟩ := ofbundleRouterIntfRemove_rifs hr h
  have hlinks := ofbundleRouterIntfRemove_links _ _ _ h
  have hmem := fun p => hl.mem_iff (i := p) (links_members hb)
  have hcreated : o.Created b ↔ bundle.routerIntf.created = true := by
    simp [Created, bundlesBy, hb]
  refine ⟨fun p b' hx hp => ?_, fun p hx hown => ?_⟩
  · rw [hhandle] at hp
    split at hp
    next => cases hp
    next hno =>
      obtain ⟨hown, hc⟩ := hok p b' hx hp
      have hbb : b' ≠ b := by
        rintro rfl
        exact hno ⟨hcreated.mp hc, (hmem p).mpr hown⟩
      refine ⟨hlinks ▸ hown, ?_⟩
      simpa only [Created, bundlesBy, hlookup, if_neg hbb] using hc
  · rw [hhandle]
    split
    next => rfl
    next hno =>
      cases hp : o.handle p with
      | none => rfl
      | some b' =>
        refine absurd ⟨?_, (hmem p).mpr hown⟩ hno
        rcases hx with hx | hc
        · obtain ⟨hown', hc⟩ := hok p b' hx hp
          obtain rfl : b' = b := Option.some.inj (hown'.symm.trans hown)
          exact hcreated.mp hc
        · exact hcreated.mp hc

omit [OvsLib] [Build] in
/-- A port may leave its list when it is in `X` or has no handle. -/
theorem RifsShrink.free (h : RifsShrink o o') (hr : o.NoRoutes) (hp : X p ∨ o.handle p = none) :
    X p ∨ o'.handle p = none := by
  refine hp.imp_right fun hnone => ?_
  cases hp' : o'.handle p with
  | none => rfl
  | some b =>
    have := (h hr).2.1 p b hp'
    rw [hnone] at this
    cases this

omit [OvsLib] [Build] in
theorem forAll_portDel_handlesOk {ports : List OfpPort}
    (hports : ∀ p ∈ ports, X p ∨ o.handle p = none)
    (h : (forAll ports fun p => do let _ ← ofbundlePortDel p; pure ()) o = .ok ((), o'))
    (hok : o.HandlesOk X) : o'.HandlesOk X := by
  induction ports generalizing o with
  | nil =>
    cases h
    exact hok
  | cons p ports ih =>
    obtain ⟨_, o₁, h₁, h⟩ := bind_ok.mp h
    obtain ⟨st, o₂, h₁, hpure⟩ := bind_ok.mp h₁
    cases hpure
    have hok₁ := ofbundlePortDel_handlesOk (hports p (List.mem_cons_self ..)) h₁ hok
    refine ih (fun q hq => ?_) h hok₁
    rw [(ofbundlePortDel_rifs h₁).1]
    exact hports q (List.mem_cons_of_mem _ hq)

theorem ofbundleDestroy_handlesOk (hl : o.links.WF) (hr : o.NoRoutes) (hok : o.HandlesOk X)
    (h : ofbundleDestroy b o = .ok ((), o')) : o'.HandlesOk X := by
  obtain ⟨st₁, o₁, st₂, o₂, bundle, o₃, hip, hrif, hb, hports, rfl⟩ := ofbundleDestroy_ok h
  have hl₁ : o₁.links.WF := (ofbundleIpRemove_links.keeps Links.WF) _ _ _ hip hl
  have hr₁ := ((ofbundleIpRemove_sameButIp _ _ _ hip).rifsShrink hr).1
  have hok₁ := ofbundleIpRemove_handlesOk _ _ _ hip hok
  obtain ⟨hok₂, hcleared⟩ := ofbundleRouterIntfRemove_handlesOk hl₁ hr₁ hok₁ hrif
  have hlinks := ofbundleRouterIntfRemove_links _ _ _ hrif
  have hl₂ : o₂.links.WF := hlinks ▸ hl₁
  have hmem := fun p => hl₂.mem_iff (i := p) (links_members hb)
  have hfree : ∀ p ∈ bundle.ports, X p ∨ o₂.handle p = none := by
    intro p hp
    by_cases hx : X p
    · exact .inl hx
    · exact .inr (hcleared p (.inl hx) (hlinks ▸ (hmem p).mp hp))
  have hok₃ := forAll_portDel_handlesOk hfree hports hok₂
  have hlinks₃ := forAll_portDel_links hl₂ (links_members hb) hports
  obtain ⟨hl₃, hempty⟩ := hl₂.detachAll (links_members hb)
  rw [← hlinks₃] at hl₃ hempty
  -- no port is left whose handle could point into the bundle
  intro p b' hx hp
  obtain ⟨hown, hc⟩ := hok₃ p b' hx hp
  have hbb : b' ≠ b := by
    rintro rfl
    exact List.not_mem_nil ((hl₃.mem_iff hempty).mpr hown)
  refine ⟨hown, ?_⟩
  simpa only [Created, bundlesBy, lookup_erase, if_neg hbb] using hc

theorem bundleRemove_handlesOk (hp : X p ∨ o.handle p = none) (hl : o.links.WF) (hr : o.NoRoutes)
    (hok : o.HandlesOk X) (h : bundleRemove p o = .ok ((), o')) : o'.HandlesOk X := by
  obtain ⟨port, -, ⟨-, rfl⟩ | ⟨b, st, o₁, bundle, -, hdel, hb, hrest⟩⟩ := bundleRemove_ok h
  · exact hok
  · have hok₁ := ofbundlePortDel_handlesOk hp hdel hok
    rcases hrest with ⟨-, hdestroy⟩ | ⟨-, rfl⟩
    · have hl₁ := ofbundlePortDel_wf _ _ _ hdel hl
      have hr₁ := (ofbundlePortDel_rifsShrink _ _ _ hdel hr).1
      exact ofbundleDestroy_handlesOk hl₁ hr₁ hok₁ hdestroy
    · exact hok₁

theorem ofbundlePortAdd_handlesOk (hp : X p ∨ o.handle p = none) (hl : o.links.WF)
    (hr : o.NoRoutes) (hok : o.HandlesOk X) (h : ofbundlePortAdd b (some p) o = .ok (st, o')) :
    o'.HandlesOk X := by
  obtain ⟨p', port, o₁, port₁, bundle, hw, hsp, -, hremove, hp₁, hb, -, rfl⟩ :=
    ofbundlePortAdd_ok h
  cases hsp
  have hok₁ := bundleRemove_handlesOk hp hl hr hok hremove
  have hfree := (bundleRemove_rifsShrink _ _ _ hremove).free hr hp
  have hlinks : ({ o₁ with hw := hw }.attachPort p port₁ b bundle).links = o₁.links.attach p b :=
    attachPort_links hb
  have hhandle : ({ o₁ with hw := hw }.attachPort p port₁ b bundle).handle = o₁.handle :=
    attachPort_handle (o := { o₁ with hw := hw }) hp₁
  have hrif : ({ o₁ with hw := hw }.attachPort p port₁ b bundle).bundlesBy (·.routerIntf) =
      o₁.bundlesBy (·.routerIntf) := setBundle_bundlesBy hb rfl
  intro q b' hx hq
  rw [hhandle] at hq
  have hqp : q ≠ p := by
    rintro rfl
    rcases hfree with hfree | hfree
    · exact hx hfree
    · rw [hfree] at hq
      cases hq
  rw [hlinks, Links.attach_owner, if_neg hqp, Created, hrif]
  exact hok₁ q b' hx hq

/-! ## Reconfiguring the ports -/

omit [OvsLib] [Build] in
theorem portsRemove_handlesOk
    (hstay : ∀ p, o.links.owner p = some b → o.isSlave s p = true ∨ X p ∨ o.handle p = none)
    (hl : o.links.WF) (hok : o.HandlesOk X) (h : portsRemove b s o = .ok (st, o')) :
    o'.HandlesOk X := by
  obtain ⟨bundle, hb, hloop⟩ := ofbundle_bind.mp h
  have hports : ∀ p ∈ bundle.ports, o.isSlave s p = true ∨ X p ∨ o.handle p = none :=
    fun p hp => hstay p ((hl.mem_iff (links_members hb)).mp hp)
  have hloop := forEach_ok (Q := HandlesOk X)
    (P := fun ports o => o.HandlesOk X ∧
      ∀ p ∈ ports, o.isSlave s p = true ∨ X p ∨ o.handle p = none)
    (fun p ports o st o' hP hturn => ?_) hloop ⟨hok, hports⟩
  · by_cases h0 : st = 0
    · exact (hloop.1 h0).1
    · exact hloop.2 h0
  · obtain ⟨hok, hports⟩ := hP
    beta_reduce at hturn
    rw [gets_bind] at hturn
    by_cases hslave : o.isSlave s p = true
    · rw [if_pos hslave] at hturn
      cases hturn
      exact ⟨fun _ => ⟨hok, fun q hq => hports q (List.mem_cons_of_mem _ hq)⟩, fun _ => hok⟩
    · rw [if_neg hslave] at hturn
      have hfree := (hports p (List.mem_cons_self ..)).resolve_left hslave
      have hok' := ofbundlePortDel_handlesOk hfree hturn hok
      refine ⟨fun _ => ⟨hok', fun q hq => ?_⟩, fun _ => hok'⟩
      rw [(ofbundlePortDel_rifs hturn).1,
        isSlave_of_netdevs (ofbundlePortDel_evolves _ _ _ hturn).netdevs]
      exact hports q (List.mem_cons_of_mem _ hq)

/-- A turn of the last loop, on a slave that is on the list, in `X` or without a handle. -/
theorem portsAdd_turn {slave : OfpPort} (hl : o.links.WF) (hr : o.NoRoutes) (hok : o.HandlesOk X)
    (hslave : ∀ p, o.getOfpPort slave = some p →
      o.links.owner p = some b ∨ X p ∨ o.handle p = none)
    (h : (do
      let sPort ← gets fun o => o.getOfpPort slave
      let bundle ← ofbundle b
      if bundle.ports.any fun p => some p = sPort then return 0 else ofbundlePortAdd b sPort
        : Exec OfprotoSai Int) o = .ok (st, o')) :
    o'.links.WF ∧ o'.NoRoutes ∧ o'.HandlesOk X ∧ o'.getOfpPort = o.getOfpPort ∧
      ∀ p, o.links.owner p = some b ∨ X p ∨ o.handle p = none →
        o'.links.owner p = some b ∨ X p ∨ o'.handle p = none := by
  rw [gets_bind] at h
  obtain ⟨bundle, hb, h⟩ := ofbundle_bind.mp h
  split at h
  next =>
    cases h
    exact ⟨hl, hr, hok, rfl, fun _ => id⟩
  next hnot =>
    obtain ⟨q, ports, hq, -, hlinks⟩ := ofbundlePortAdd_links hl h
    have hqb : o.links.owner q ≠ some b := by
      intro hown
      refine hnot (List.any_eq_true.mpr ⟨q, (hl.mem_iff (links_members hb)).mpr hown, ?_⟩)
      exact decide_eq_true hq.symm
    have hfree := (hslave q hq).resolve_left hqb
    rw [hq] at h
    have hshrink := ofbundlePortAdd_rifsShrink _ _ _ h
    refine ⟨ofbundlePortAdd_wf _ _ _ h hl, (hshrink hr).1,
      ofbundlePortAdd_handlesOk hfree hl hr hok h,
      getOfpPort_of_netdevs (ofbundlePortAdd_evolves _ _ _ h).netdevs, fun p hp => ?_⟩
    by_cases hpq : p = q
    · exact .inl (by rw [hlinks, Links.attach_owner, if_pos hpq])
    · refine hp.imp (fun hown => ?_) (hshrink.free hr)
      rw [hlinks, Links.attach_owner, if_neg hpq, Links.leave_owner, if_neg hpq]
      exact hown

theorem portsAdd_handlesOk
    (hjoin : ∀ p, o.isSlave s p = true →
      o.links.owner p = some b ∨ X p ∨ o.handle p = none)
    (hl : o.links.WF) (hr : o.NoRoutes) (hok : o.HandlesOk X)
    (h : portsAdd b s o = .ok (st, o')) : o'.HandlesOk X := by
  have hslaves : ∀ slave ∈ s.slaves, ∀ p, o.getOfpPort slave = some p →
      o.links.owner p = some b ∨ X p ∨ o.handle p = none :=
    fun slave hslave p hp => hjoin p (isSlave_iff.mpr ⟨slave, hslave, hp⟩)
  have hloop := forEach_ok (Q := HandlesOk X)
    (P := fun slaves o => o.links.WF ∧ o.NoRoutes ∧ o.HandlesOk X ∧
      ∀ slave ∈ slaves, ∀ p, o.getOfpPort slave = some p →
        o.links.owner p = some b ∨ X p ∨ o.handle p = none)
    (fun slave slaves o st o' hP hturn => ?_) h ⟨hl, hr, hok, hslaves⟩
  · by_cases h0 : st = 0
    · exact (hloop.1 h0).2.2.1
    · exact hloop.2 h0
  · obtain ⟨hl, hr, hok, hslaves⟩ := hP
    obtain ⟨hl', hr', hok', hget, hkept⟩ :=
      portsAdd_turn hl hr hok (hslaves slave (List.mem_cons_self ..)) hturn
    refine ⟨fun _ => ⟨hl', hr', hok', fun slave' hs' p hp => hkept p ?_⟩, fun _ => hok'⟩
    exact hslaves slave' (List.mem_cons_of_mem _ hs') p (hget ▸ hp)

/-- A reconfiguration of the ports may only take ports off a list that are in `X` or have no
handle. -/
theorem ofbundlePortsReconfigure_handlesOk
    (hstay : ∀ p, o.links.owner p = some b → o.isSlave s p = true ∨ X p ∨ o.handle p = none)
    (hjoin : ∀ p, o.isSlave s p = true → o.links.owner p = some b ∨ X p ∨ o.handle p = none)
    (hl : o.links.WF) (hr : o.NoRoutes) (hok : o.HandlesOk X)
    (h : ofbundlePortsReconfigure b s o = .ok (st, o')) : o'.HandlesOk X := by
  rcases thenOk_ok.mp h with ⟨hremove, -⟩ | ⟨o₁, hremove, h⟩
  · exact portsRemove_handlesOk hstay hl hok hremove
  · have hok₁ := portsRemove_handlesOk hstay hl hok hremove
    rcases thenOk_ok.mp h with ⟨hvlan, -⟩ | ⟨o₂, hvlan, hadd⟩
    · exact vlanReconfigure_handlesOk _ _ _ hvlan hok₁
    · have hok₂ := vlanReconfigure_handlesOk _ _ _ hvlan hok₁
      have hshrink₁ := portsRemove_rifsShrink _ _ _ hremove
      have hvlan := vlanReconfigure_sameButVlan _ _ _ hvlan
      have hl₁ := portsRemove_wf _ _ _ hremove hl
      have hr₂ := (hvlan.rifsShrink (hshrink₁ hr).1).1
      have hnet := hvlan.evolves.netdevs.trans (portsRemove_evolves _ _ _ hremove).netdevs
      refine portsAdd_handlesOk (fun p hp => ?_) (hvlan.links ▸ hl₁) hr₂ hok₂ hadd
      rw [isSlave_of_netdevs hnet] at hp
      rw [hvlan.links, handle_congr hvlan.ofports]
      refine (hjoin p hp).imp (fun hown => ?_) (hshrink₁.free hr)
      obtain ⟨bundle, -, hloop⟩ := ofbundle_bind.mp hremove
      exact (portsRemove_loop hloop p).mpr ⟨hown, fun _ => hp⟩

/-! ## Reconfiguring the router interface -/

omit [OvsLib] [Build] in
theorem routerIntfCreate_handlesOk {rifType : RouterIntfType} {handle : Nat} (hl : o.links.WF)
    (hok : o.HandlesOk X) (h : routerIntfCreate b rifType handle o = .ok (st, o')) :
    o'.HandlesOk X ∧ (st = 0 → (∀ p, X p → o.links.owner p = some b) →
      o'.HandlesOk fun _ => False) := by
  have hlinks := (routerIntfCreate_sameButRif _ _ _ h).links
  obtain ⟨bundle, rifid, hw, hb, -, ⟨h0, rfl⟩ | ⟨-, hset⟩⟩ := routerIntfCreate_ok h
  · exact ⟨hok, fun h => absurd h h0⟩
  obtain ⟨hbundles, hhandle⟩ := setRouterIntfHandles_ok hset
  have hmem := fun p => hl.mem_iff (i := p) (links_members hb)
  have hcreated : o'.Created b := by
    unfold Created bundlesBy
    rw [hbundles, setBundle_lookup, if_pos rfl]
    exact ⟨_, rfl, rfl⟩
  have hother : ∀ b', b' ≠ b → o.Created b' → o'.Created b' := by
    intro b' hbb hc
    unfold Created bundlesBy at hc ⊢
    rwa [hbundles, setBundle_lookup, if_neg hbb]
  have hgood : ∀ p b', (¬X p ∨ o.links.owner p = some b) → o'.handle p = some b' →
      o'.links.owner p = some b' ∧ o'.Created b' := by
    intro p b' hx hp
    rw [hhandle] at hp
    rw [hlinks]
    split at hp
    next hin =>
      cases hp
      exact ⟨(hmem p).mp hin, hcreated⟩
    next hout =>
      have hx : ¬X p := hx.resolve_right fun hown => hout ((hmem p).mpr hown)
      obtain ⟨hown, hc⟩ := hok p b' hx hp
      refine ⟨hown, ?_⟩
      by_cases hbb : b' = b
      · exact hbb ▸ hcreated
      · exact hother b' hbb hc
  refine ⟨fun p b' hx => hgood p b' (.inl hx), fun _ hX p b' _ => hgood p b' ?_⟩
  by_cases hx : X p
  · exact .inr (hX p hx)
  · exact .inl hx

omit [OvsLib] [Build] in
theorem routerIntfEnable_handlesOk {enable : Bool} :
    Keeps (HandlesOk X) (routerIntfEnable b enable) := by
  refine (ofbundle_rel b).bind fun bundle => Rel.ite ?_ (Rel.pure _)
  refine Rel.thenOk (onHw_rel fun o _ hw _ hok => hok) ?_
  refine Rel.bind (modifyBundle_rel fun o bundle hb hok p b' hx hp => ?_) fun _ => Rel.pure _
  obtain ⟨hown, r, hr, hc⟩ := hok p b' hx hp
  refine ⟨?_, ?_⟩
  · rw [setBundle_links, ← links_members hb, Function.update_eq_self]
    exact hown
  · unfold Created bundlesBy
    rw [setBundle_lookup]
    split
    next hbb =>
      subst hbb
      simp only [bundlesBy, hb, Option.map_some, Option.some.injEq] at hr
      exact ⟨_, rfl, hr ▸ hc⟩
    next => exact ⟨r, hr, hc⟩

omit [OvsLib] [Build] in
/-- The second half of a reconfiguration: create the interface if there is none, and enable it. -/
theorem routerIntfCreateIf_handlesOk {c : Prop} [Decidable c] {rifType : RouterIntfType}
    {handle : Nat} {enable : Bool} (hl : o.links.WF) (hok : o.HandlesOk X)
    (h : ((if c then pure 0 else routerIntfCreate b rifType handle).thenOk
      (routerIntfEnable b enable)) o = .ok (st, o')) : o'.HandlesOk X := by
  have hcreate : ∀ {st₁ o₁}, (if c then pure 0 else routerIntfCreate b rifType handle) o =
      .ok (st₁, o₁) → o₁.HandlesOk X := by
    intro st₁ o₁ h₁
    split at h₁
    next =>
      cases h₁
      exact hok
    next => exact (routerIntfCreate_handlesOk hl hok h₁).1
  rcases thenOk_ok.mp h with ⟨h₁, -⟩ | ⟨o₁, h₁, henable⟩
  · exact hcreate h₁
  · exact routerIntfEnable_handlesOk _ _ _ henable (hcreate h₁)

/-- Reconfiguring the router interface of a bundle. -/
theorem routerIntfApply_handlesOk {rifType : RouterIntfType} {handle : Nat} {enable : Bool}
    (hl : o.links.WF) (hr : o.NoRoutes) (hok : o.HandlesOk X)
    (h : routerIntfApply b rifType handle enable o = .ok (st, o')) : o'.HandlesOk X := by
  obtain ⟨bundle, hb, h⟩ := ofbundle_bind.mp h
  have hremove : ∀ {st₁ o₁},
      (if bundle.routerIntf.created && bundle.routerIntf.handle != handle then
        ofbundleRouterIntfRemove b else pure 0) o = .ok (st₁, o₁) →
      o₁.HandlesOk X ∧ o₁.links = o.links := by
    intro st₁ o₁ h₁
    split at h₁
    next =>
      exact ⟨(ofbundleRouterIntfRemove_handlesOk hl hr hok h₁).1,
        ofbundleRouterIntfRemove_links _ _ _ h₁⟩
    next =>
      cases h₁
      exact ⟨hok, rfl⟩
  rcases thenOk_ok.mp h with ⟨h₁, -⟩ | ⟨o₁, h₁, h⟩
  · exact (hremove h₁).1
  · obtain ⟨hok₁, hlinks₁⟩ := hremove h₁
    obtain ⟨bundle₁, -, h⟩ := ofbundle_bind.mp h
    exact routerIntfCreateIf_handlesOk (hlinks₁ ▸ hl) hok₁ h

/-- When the interface is created anew and every call succeeds, every port on the list gets a good
handle. -/
theorem routerIntfApply_renewed {rifType : RouterIntfType} {handle : Nat} {enable : Bool}
    (hl : o.links.WF) (hr : o.NoRoutes) (hwill : o.Willing) (hok : o.HandlesOk X)
    (hX : ∀ p, X p → o.links.owner p = some b)
    (hnew : ∀ r, o.bundlesBy (·.routerIntf) b = some r → r.created = true → r.handle ≠ handle)
    (h : routerIntfApply b rifType handle enable o = .ok (st, o')) :
    o'.HandlesOk fun _ => False := by
  obtain ⟨bundle, hb, h⟩ := ofbundle_bind.mp h
  by_cases hc : bundle.routerIntf.created = true
  · -- the interface is given up first, and with it every handle
    have hne : bundle.routerIntf.handle ≠ handle := hnew _ (by simp [bundlesBy, hb]) hc
    have hcreated : o.Created b := ⟨bundle.routerIntf, by simp [bundlesBy, hb], hc⟩
    rw [if_pos (by simp [hc, hne])] at h
    have hremove : ∀ {st₁ o₁}, ofbundleRouterIntfRemove b o = .ok (st₁, o₁) →
        o₁.HandlesOk (fun _ => False) ∧ o₁.links = o.links := by
      intro st₁ o₁ h₁
      obtain ⟨hok₁, hcleared⟩ := ofbundleRouterIntfRemove_handlesOk hl hr hok h₁
      refine ⟨fun p b' _ hp => ?_, ofbundleRouterIntfRemove_links _ _ _ h₁⟩
      by_cases hx : X p
      · rw [hcleared p (.inr hcreated) (hX p hx)] at hp
        cases hp
      · exact hok₁ p b' hx hp
    rcases thenOk_ok.mp h with ⟨h₁, -⟩ | ⟨o₁, h₁, h⟩
    · exact (hremove h₁).1
    · obtain ⟨hok₁, hlinks₁⟩ := hremove h₁
      obtain ⟨bundle₁, -, h⟩ := ofbundle_bind.mp h
      exact routerIntfCreateIf_handlesOk (hlinks₁ ▸ hl) hok₁ h
  · -- there is no interface, and its creation sets every handle
    rw [if_neg (by simp [hc]), zero_thenOk] at h
    obtain ⟨bundle₁, hb₁, h⟩ := ofbundle_bind.mp h
    obtain rfl : bundle₁ = bundle := Option.some.inj (hb₁.symm.trans hb)
    rw [if_neg hc] at h
    have hcreate : ∀ {st₁ o₁}, routerIntfCreate b rifType handle o = .ok (st₁, o₁) →
        o₁.HandlesOk fun _ => False := by
      intro st₁ o₁ h₁
      obtain ⟨bundle₂, rifid, hw, -, hhw, -⟩ := routerIntfCreate_ok h₁
      have h0 := (opsSaiRouterIntfCreate_ok hhw).2 hwill
      exact (routerIntfCreate_handlesOk hl hok h₁).2 h0 hX
    rcases thenOk_ok.mp h with ⟨h₁, -⟩ | ⟨o₁, h₁, henable⟩
    · exact hcreate h₁
    · exact routerIntfEnable_handlesOk _ _ _ henable (hcreate h₁)

end

section
variable [OvsLib] [Build]

/-- A reconfiguration of the router interface works on that of the first slave, if on any. -/
theorem ofbundleRouterIntfReconfigure_ok
    (h : ofbundleRouterIntfReconfigure b s o = .ok (st, o')) :
    ∃ slave, s.slaves.head?.or s.slavesBeyond = some slave ∧
      ((∃ port rifType handle, o.ofports slave = some port ∧
          routerIntfHandle port.netdev s = some (rifType, handle) ∧
          routerIntfApply b rifType handle s.enable o = .ok (st, o')) ∨
        (∀ port, o.ofports slave = some port → routerIntfHandle port.netdev s = none) ∧
          o'.handle = o.handle ∧ o'.links = o.links ∧ ∀ b', o.Created b' → o'.Created b') := by
  obtain ⟨-, slave, hslave, hcases⟩ := ofbundleRouterIntfReconfigure_cases h
  refine ⟨slave, hslave, ?_⟩
  rcases hcases with ⟨hport, -, rfl⟩ | ⟨port, hport, hcases⟩
  · exact .inr ⟨fun _ hp => (by cases hport.symm.trans hp), rfl, rfl, fun _ => id⟩
  rcases hcases with ⟨htype, -, rfl⟩ | ⟨htype, -, bundle, hb, rfl⟩ | ⟨rifType, handle, hh, happly⟩
  · refine .inr ⟨fun port' hp => ?_, rfl, rfl, fun _ => id⟩
    cases hport.symm.trans hp
    simp [routerIntfHandle, htype]
  · refine .inr ⟨fun port' hp => ?_, rfl, ?_, fun b' hc => ?_⟩
    · cases hport.symm.trans hp
      simp [routerIntfHandle, htype]
    · rw [setBundle_links, ← links_members hb, Function.update_eq_self]
    · obtain ⟨r, hr, hc⟩ := hc
      unfold Created bundlesBy
      rw [setBundle_lookup]
      split
      next hbb =>
        subst hbb
        simp only [bundlesBy, hb, Option.map_some, Option.some.injEq] at hr
        exact ⟨_, rfl, hr ▸ hc⟩
      next => exact ⟨r, hr, hc⟩
  · exact .inl ⟨port, rifType, handle, hport, hh, happly⟩

theorem ofbundleRouterIntfReconfigure_handlesOk (hl : o.links.WF) (hr : o.NoRoutes)
    (hok : o.HandlesOk X) (h : ofbundleRouterIntfReconfigure b s o = .ok (st, o')) :
    o'.HandlesOk X := by
  obtain ⟨slave, -, ⟨port, rifType, handle, -, -, happly⟩ | ⟨-, hh, hlinks, hc⟩⟩ :=
    ofbundleRouterIntfReconfigure_ok h
  · exact routerIntfApply_handlesOk hl hr hok happly
  · intro p b' hx hp
    rw [hh] at hp
    rw [hlinks]
    exact ⟨(hok p b' hx hp).1, hc b' (hok p b' hx hp).2⟩

end

end SwitchdSai
