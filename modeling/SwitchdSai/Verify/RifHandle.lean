import SwitchdSai.Verify.Handles

/-!
# Runs that keep the router interface handles good

Setting and removing bundles keeps the handles of all ports good when every call into the hardware
succeeds and every call of the run is `HandleSafe`. What a port stolen from another bundle keeps is
replaced when the router interface of its new bundle is created in the same call.
-/

namespace SwitchdSai

open Exec OfprotoSai

variable {o o' : OfprotoSai} {p : OfpPort} {b : BundlePtr} {s : OfprotoBundleSettings}
  {X : OfpPort → Prop} {st : Int}

section
variable [OvsLib] [Build]

/-! ## Setting and removing bundles -/

omit [OvsLib] [Build] in
theorem HandlesOk.mono {Y : OfpPort → Prop} (hok : o.HandlesOk X) (h : ∀ p, X p → Y p) :
    o.HandlesOk Y := fun p b hy => hok p b fun hx => hy (h p hx)

/-- A port is stolen: it is a slave with a handle into another bundle. -/
def OfprotoSai.Stolen (o : OfprotoSai) (b : BundlePtr) (s : OfprotoBundleSettings) (p : OfpPort) :
    Prop :=
  o.isSlave s p = true ∧ ∃ b', b' ≠ b ∧ o.handle p = some b'

/-- The interface of bundle `b` will be created anew when `p` is the slave of the settings. -/
def OfprotoSai.Renewed (o : OfprotoSai) (b : BundlePtr) (s : OfprotoBundleSettings) (p : OfpPort) :
    Prop :=
  ∃ port rifType handle, o.ofports p = some port ∧
    routerIntfHandle port.netdev s = some (rifType, handle) ∧
    ∀ r, o.bundlesBy (·.routerIntf) b = some r → r.created = true → r.handle ≠ handle

theorem ofbundlePortsReconfigure_stolen (hl : o.links.WF) (hr : o.NoRoutes)
    (hok : o.HandlesOk fun _ => False)
    (hstay : ∀ p, o.links.owner p = some b → o.isSlave s p = true ∨ o.handle p = none)
    (h : ofbundlePortsReconfigure b s o = .ok (st, o')) : o'.HandlesOk (o.Stolen b s) := by
  refine ofbundlePortsReconfigure_handlesOk (fun p hown => ?_) (fun p hslave => ?_) hl hr
    (HandlesOk.mono hok fun _ => False.elim) h
  · exact (hstay p hown).imp_right .inr
  · cases hp : o.handle p with
    | none => exact .inr (.inr rfl)
    | some b' =>
      by_cases hbb : b' = b
      · subst hbb
        exact .inl (hok p b' not_false hp).1
      · exact .inr (.inl ⟨hslave, b', hbb, hp⟩)

omit [OvsLib] [Build] in
/-- The interface will still be created anew after steps that create none. -/
theorem Renewed.of_evolves (h : o.Renewed b s p) (hevolves : Evolves o o')
    (hrif : ∀ r, o'.bundlesBy (·.routerIntf) b = some r → r.created = true →
      o.bundlesBy (·.routerIntf) b = some r) : o'.Renewed b s p := by
  obtain ⟨port, rifType, handle, hport, hhandle, hnew⟩ := h
  have hnet := congrFun hevolves.netdevs p
  simp only [netdevs, hport, Option.map_some, Option.map_eq_some_iff] at hnet
  obtain ⟨port', hport', -⟩ := hnet
  have hsame := routerIntfHandle_of_netdevs (s := s) hevolves.netdevs hport hport'
  exact ⟨port', rifType, handle, hport', hsame.trans hhandle,
    fun r hr hc => hnew r (hrif r hr hc) hc⟩

theorem ofbundleRouterIntfReconfigure_renewed (hl : o.links.WF) (hr : o.NoRoutes)
    (hwill : o.Willing) (hok : o.HandlesOk X) (hX : ∀ p, X p → o.links.owner p = some b)
    (hslaves : s.slaves = [p]) (hrenewed : o.Renewed b s p)
    (h : ofbundleRouterIntfReconfigure b s o = .ok (st, o')) : o'.HandlesOk fun _ => False := by
  obtain ⟨port, rifType, handle, hport, hhandle, hnew⟩ := hrenewed
  obtain ⟨slave, hslave, happly⟩ := ofbundleRouterIntfReconfigure_ok h
  rw [hslaves] at hslave
  obtain rfl : p = slave := Option.some.inj hslave
  rcases happly with ⟨port', t, n, hport', hhandle', happly⟩ | ⟨hno, -⟩
  · obtain rfl : port' = port := Option.some.inj (hport'.symm.trans hport)
    rw [hhandle] at hhandle'
    cases hhandle'
    exact routerIntfApply_renewed hl hr hwill hok hX hnew happly
  · rw [hno port hport] at hhandle
    cases hhandle

theorem bundleApply_handlesOk (hl : o.links.WF) (hr : o.NoRoutes) (hwill : o.Willing)
    (htype : o.type = .vrf) (hok : o.HandlesOk fun _ => False)
    (hstay : ∀ p, o.links.owner p = some b → o.isSlave s p = true ∨ o.handle p = none)
    (hstolen : ∀ p, o.Stolen b s p → s.slaves = [p] ∧ o.Renewed b s p)
    (h : bundleApply b s o = .ok (st, o')) : o'.HandlesOk fun _ => False := by
  have hnone : (¬∃ p, o.Stolen b s p) → ∀ {o₁ : OfprotoSai}, o₁.HandlesOk (o.Stolen b s) →
      o₁.HandlesOk fun _ => False := fun hno _ h₁ => HandlesOk.mono h₁ fun p hp => hno ⟨p, hp⟩
  rcases thenOk_ok.mp h with ⟨hports, h0⟩ | ⟨o₁, hports, h⟩
  · exact absurd (ofbundlePortsReconfigure_succeeds _ _ _ hwill hports).1 h0
  have hok₁ := ofbundlePortsReconfigure_stolen hl hr hok hstay hports
  have hl₁ := ofbundlePortsReconfigure_wf _ _ _ hports hl
  have hevolves := ofbundlePortsReconfigure_evolves _ _ _ hports
  obtain ⟨hr₁, -, hrif₁⟩ := ofbundlePortsReconfigure_rifsShrink _ _ _ hports hr
  split at h
  next hmany =>
    cases h
    refine hnone (fun ⟨p, hp⟩ => ?_) hok₁
    rw [(hstolen p hp).1] at hmany
    simp at hmany
  next =>
    rw [gets_bind, if_pos (hevolves.type.trans htype)] at h
    obtain ⟨st₁, o₂, hrif, h⟩ := bind_ok.mp h
    obtain ⟨st₂, o₃, hip, hend⟩ := bind_ok.mp h
    cases hend
    refine ofbundleIpReconfigure_handlesOk _ _ _ hip ?_
    by_cases hex : ∃ p, o.Stolen b s p
    · obtain ⟨p, hp⟩ := hex
      obtain ⟨hslaves, hrenewed⟩ := hstolen p hp
      have hin : ∀ q, o.Stolen b s q → o₁.links.owner q = some b := fun q hq =>
        (ofbundlePortsReconfigure_owner hl hports q).mpr hq.1
      exact ofbundleRouterIntfReconfigure_renewed hl₁ hr₁ (hevolves.willing hwill) hok₁ hin
        hslaves (Renewed.of_evolves hrenewed hevolves (hrif₁ b)) hrif
    · exact ofbundleRouterIntfReconfigure_handlesOk hl₁ hr₁ (hnone hex hok₁) hrif

/-! ### The local routes -/

omit [OvsLib] [Build] in
theorem modifyBundle_noRoutes {f : OfbundleSai → OfbundleSai}
    (hf : ∀ x, (f x).localRoutes = x.localRoutes) : Keeps NoRoutes (modifyBundle b f) := by
  refine modifyBundle_rel fun o bundle hb hr b' bundle' hb' => ?_
  rw [setBundle_lookup] at hb'
  split at hb'
  next =>
    cases hb'
    exact (hf bundle).trans (hr b bundle hb)
  next => exact hr b' bundle' hb'

omit [OvsLib] [Build] in
theorem routerIntfCreate_noRoutes {rifType : RouterIntfType} {handle : Nat} :
    Keeps NoRoutes (routerIntfCreate b rifType handle) := by
  refine (ofbundle_rel b).bind fun _ => (Rel.gets _).bind fun _ => ?_
  refine Rel.bind (onHw_rel fun _ _ _ _ hr => hr) fun _ => (Rel.pure _).ite ?_
  refine Rel.bind (modifyBundle_noRoutes fun _ => rfl) fun _ => Rel.forEach fun p => ?_
  intro o st o' h hr b' bundle hb
  rw [(setRouterIntfHandle_ok h).2.1] at hb
  exact hr b' bundle hb

theorem ofbundleRouterIntfReconfigure_noRoutes :
    Keeps NoRoutes (ofbundleRouterIntfReconfigure b s) := by
  have hremove : Keeps NoRoutes (ofbundleRouterIntfRemove b) :=
    ofbundleRouterIntfRemove_rifsShrink.mono fun _ _ h hr => (h hr).1
  refine ofbundleRouterIntfReconfigure_rel (fun _ _ => ?_) (modifyBundle_noRoutes fun _ => rfl)
  refine routerIntfApply_rel hremove routerIntfCreate_noRoutes ?_
  exact routerIntfEnable_rel (fun _ => onHw_rel fun _ _ _ _ hr => hr)
    (modifyBundle_noRoutes fun _ => rfl)

theorem bundleApply_noRoutes : Keeps NoRoutes (bundleApply b s) :=
  bundleApply_rel (ofbundlePortsReconfigure_rifsShrink.mono fun _ _ h hr => (h hr).1)
    ofbundleRouterIntfReconfigure_noRoutes
    (ofbundleIpReconfigure_sameButIp.mono fun _ _ h hr => (h.rifsShrink hr).1)

variable [OpenswitchIdl]

/-- The calls after which every handle is still good, when every call into the hardware succeeds.
Removing a port is safe when it has no handle or no bundle. New settings for `aux` are safe when
each port with a handle stays in its bundle: it is in the bundle of `aux` and a slave of the
settings, or neither. The handle of a port of another bundle is replaced when that port is the only
slave and the router interface of the bundle of `aux` is created in this call. -/
def BundleCall.HandleSafe (o : OfprotoSai) : BundleCall → Prop
  | .set _ none => True
  | .set aux (some s) => s.name = OpenswitchIdl.DEFAULT_BRIDGE_NAME ∨
      ∀ p b, o.handle p = some b →
        (o.bundlesBy (·.aux) b = some aux ∧ p ∈ s.slaves) ∨
        (o.bundlesBy (·.aux) b ≠ some aux ∧ p ∉ s.slaves) ∨
        (o.bundlesBy (·.aux) b ≠ some aux ∧ s.slaves = [p] ∧
          ∃ port rifType handle, o.ofports p = some port ∧
            routerIntfHandle port.netdev s = some (rifType, handle) ∧
            ∀ b' bundle, o.bundles.lookup b' = some bundle → bundle.aux = aux →
              bundle.routerIntf.created = true → bundle.routerIntf.handle ≠ handle)
  | .remove p => ∀ port, o.ofports p = some port → port.bundle = none ∨ port.netdev.rifHandle = none

/-- What holds in every state of a run of safe calls. -/
structure HandleInv (o : OfprotoSai) : Prop where
  links : o.links.WF
  aux : o.AuxInj
  noRoutes : o.NoRoutes
  willing : o.Willing
  type : o.type = .vrf
  handles : o.HandlesOk fun _ => False

omit [OvsLib] [Build] [OpenswitchIdl] in
theorem isSlave_of_mem {port : OfportSai} (hp : o.ofports p = some port) (hs : p ∈ s.slaves) :
    o.isSlave s p = true :=
  isSlave_iff.mpr ⟨p, hs, by simp [OfprotoSai.getOfpPort, hp]⟩

omit [OvsLib] [Build] [OpenswitchIdl] in
theorem mem_of_isSlave (h : o.isSlave s p = true) : p ∈ s.slaves := by
  obtain ⟨slave, hs, hp⟩ := isSlave_iff.mp h
  obtain ⟨port, -, rfl⟩ := Option.map_eq_some_iff.mp hp
  exact hs

omit [OvsLib] [Build] [OpenswitchIdl] in
/-- The state in which the bundle of the settings exists. -/
theorem ofbundleLookupOrCreate_handles {aux : Nat} (hinv : HandleInv o)
    (h : ofbundleLookupOrCreate aux s o = .ok (b, o')) :
    HandleInv o' ∧ o'.ofports = o.ofports ∧
      (∀ b', b' ≠ b → o.bundlesBy (·.aux) b' ≠ some aux) ∧
      (o.bundlesBy (·.aux) b = some aux ∨ o.bundles.lookup b = none) ∧
      ∀ r, o'.bundlesBy (·.routerIntf) b = some r → r.created = true →
        o.bundlesBy (·.aux) b = some aux ∧ o.bundlesBy (·.routerIntf) b = some r := by
  obtain ⟨hl, ha, -⟩ := ofbundleLookupOrCreate_inv hinv.links hinv.aux h
  rcases ofbundleLookupOrCreate_ok h with ⟨rfl, haux⟩ | ⟨hnew, hcreate⟩
  · refine ⟨hinv, rfl, fun b' hbb haux' => ?_, .inl haux, fun r hr _ => ⟨haux, hr⟩⟩
    exact hbb (hinv.aux b' b aux haux' haux)
  · obtain ⟨cs, hb, rfl⟩ := ofbundleCreate_ok hcreate
    refine ⟨⟨hl, ha, fun b' bundle hb' => ?_, hinv.willing, hinv.type, fun p b' _ hp => ?_⟩, rfl,
      fun b' _ => hnew b', .inr hb, fun r hr hc => ?_⟩
    · rw [setBundle_lookup] at hb'
      split at hb'
      next =>
        cases hb'
        rfl
      next => exact hinv.noRoutes b' bundle hb'
    · obtain ⟨hown, hcr⟩ := hinv.handles p b' not_false hp
      have hbb : b' ≠ b := by
        rintro rfl
        obtain ⟨r, hr, -⟩ := hcr
        simp [bundlesBy, hb] at hr
      refine ⟨hown, ?_⟩
      simpa only [Created, bundlesBy, setBundle_lookup, if_neg hbb] using hcr
    · simp only [bundlesBy, setBundle_lookup, if_true, Option.map_some, Option.some.injEq] at hr
      subst hr
      cases hc

omit [OpenswitchIdl] in
theorem ofbundleDestroy_handleInv (hinv : HandleInv o) (hl' : o'.links.WF) (ha' : o'.AuxInj)
    (h : ofbundleDestroy b o = .ok ((), o')) : HandleInv o' := by
  have hevolves := ofbundleDestroy_evolves _ _ _ h
  exact ⟨hl', ha', (ofbundleDestroy_rifsShrink _ _ _ h hinv.noRoutes).1,
    hevolves.willing hinv.willing, hevolves.type.trans hinv.type,
    ofbundleDestroy_handlesOk hinv.links hinv.noRoutes hinv.handles h⟩

/-- New settings for `aux`, once its bundle exists. -/
theorem bundleSet_handleInv {aux : Nat} {o₁ : OfprotoSai}
    (hname : s.name ≠ OpenswitchIdl.DEFAULT_BRIDGE_NAME)
    (hsafe : BundleCall.HandleSafe o (.set aux (some s))) (hinv : HandleInv o)
    (hl' : o'.links.WF) (ha' : o'.AuxInj)
    (h₁ : ofbundleLookupOrCreate aux s o = .ok (b, o₁)) (h : bundleApply b s o₁ = .ok (st, o')) :
    HandleInv o' := by
  have hsafe := hsafe.resolve_left hname
  obtain ⟨hinv₁, hports, hother, hself, hrif⟩ := ofbundleLookupOrCreate_handles hinv h₁
  have hevolves := bundleApply_evolves _ _ _ h
  have hhandle := handle_congr hports
  have hcr : ∀ {p b'}, o.handle p = some b' → o.bundles.lookup b' ≠ none := by
    intro p b' hp hnone
    obtain ⟨r, hr, -⟩ := (hinv.handles p b' not_false hp).2
    simp [bundlesBy, hnone] at hr
  have hslave : ∀ {p b'}, o.handle p = some b' → p ∈ s.slaves → o₁.isSlave s p = true := by
    intro p b' hp hs
    obtain ⟨port, hport, -⟩ := Option.bind_eq_some_iff.mp hp
    exact isSlave_of_mem (hports ▸ hport) hs
  -- a port with a handle that is in the bundle already is a slave
  have hstay : ∀ p, o₁.links.owner p = some b → o₁.isSlave s p = true ∨ o₁.handle p = none := by
    intro p hown
    cases hp : o₁.handle p with
    | none => exact .inr rfl
    | some b' =>
      obtain ⟨hown', -⟩ := hinv₁.handles p b' not_false hp
      obtain rfl : b' = b := Option.some.inj (hown'.symm.trans hown)
      rw [hhandle] at hp
      have haux := hself.resolve_right (hcr hp)
      rcases hsafe p b' hp with ⟨-, hs⟩ | ⟨hne, -⟩ | ⟨hne, -⟩
      · exact .inl (hslave hp hs)
      · exact absurd haux hne
      · exact absurd haux hne
  have hok' := bundleApply_handlesOk hinv₁.links hinv₁.noRoutes hinv₁.willing hinv₁.type
    hinv₁.handles hstay (fun p hstolen => ?_) h
  · exact ⟨hl', ha', bundleApply_noRoutes _ _ _ h hinv₁.noRoutes,
      hevolves.willing hinv₁.willing, hevolves.type.trans hinv₁.type, hok'⟩
  · -- a port with a handle that comes from another bundle is the only slave
    obtain ⟨hs, b', hbb, hp⟩ := hstolen
    rw [hhandle] at hp
    rcases hsafe p b' hp with ⟨haux, -⟩ | ⟨-, hno⟩ | ⟨-, hslaves, port, t, n, hport, hn, hnew⟩
    · exact absurd haux (hother b' hbb)
    · exact absurd (mem_of_isSlave hs) hno
    · refine ⟨hslaves, port, t, n, hports ▸ hport, hn, fun r hr hc => ?_⟩
      obtain ⟨haux, hr⟩ := hrif r hr hc
      obtain ⟨bundle, hb, rfl⟩ := Option.map_eq_some_iff.mp hr
      simp only [bundlesBy, hb, Option.map_some, Option.some.injEq] at haux
      exact hnew b bundle hb haux hc

theorem bundleRemove_handleInv (hsafe : BundleCall.HandleSafe o (.remove p)) (hinv : HandleInv o)
    (hl' : o'.links.WF) (ha' : o'.AuxInj) (h : bundleRemove p o = .ok ((), o')) :
    HandleInv o' := by
  have hevolves := bundleRemove_evolves _ _ _ h
  refine ⟨hl', ha', (bundleRemove_rifsShrink _ _ _ h hinv.noRoutes).1,
    hevolves.willing hinv.willing, hevolves.type.trans hinv.type, ?_⟩
  obtain ⟨port, hp, hcase⟩ := bundleRemove_ok h
  rcases hsafe port hp with hnone | hnone
  · rcases hcase with ⟨-, rfl⟩ | ⟨b, _, _, _, hb, -⟩
    · exact hinv.handles
    · rw [hnone] at hb
      cases hb
  · have hfree : False ∨ o.handle p = none := .inr ((handle_of_ofports hp).trans hnone)
    exact bundleRemove_handlesOk hfree hinv.links hinv.noRoutes hinv.handles h

theorem BundleCall.run_handleInv {c : BundleCall} (hsafe : c.HandleSafe o)
    (h : c.run o = .ok (st, o')) (hinv : HandleInv o) : HandleInv o' := by
  obtain ⟨hl', ha'⟩ := BundleCall.run_inv h ⟨hinv.links, hinv.aux⟩
  cases c with
  | set aux s =>
    cases s with
    | none =>
      obtain ⟨found, o₁, h₁, h⟩ := bind_ok.mp h
      obtain ⟨rfl, -, -⟩ := ofbundleLookup_ok h₁
      cases found with
      | none =>
        cases h
        exact hinv
      | some b =>
        obtain ⟨_, o₂, h₂, hend⟩ := bind_ok.mp h
        cases hend
        exact ofbundleDestroy_handleInv hinv hl' ha' h₂
    | some s =>
      rw [BundleCall.run, bundleSet] at h
      split at h
      next =>
        cases h
        exact hinv
      next hname =>
        obtain ⟨b, o₁, h₁, h⟩ := bind_ok.mp h
        exact bundleSet_handleInv hname hsafe hinv hl' ha' h₁ h
  | remove p =>
    obtain ⟨_, o₁, h₁, hend⟩ := bind_ok.mp h
    cases hend
    exact bundleRemove_handleInv hsafe hinv hl' ha' h₁

/-- Ports that are in no bundle yet and have no handle. -/
def Unhandled (ofports : OfpPort → Option OfportSai) : Prop :=
  ∀ p port, ofports p = some port → port.netdev.rifHandle = none

omit [OvsLib] [Build] [OpenswitchIdl] in
theorem new_handleInv {vrid : Nat} {ofports : OfpPort → Option OfportSai} {hw : Hw}
    (hnew : Unbundled ofports) (hnull : Unhandled ofports) (hwill : hw.Willing) :
    HandleInv (.new .vrf vrid ofports hw) := by
  obtain ⟨hl, ha⟩ : (OfprotoSai.new .vrf vrid ofports hw).links.WF ∧ AuxInj _ := new_inv hnew
  refine ⟨hl, ha, fun b bundle hb => (by cases hb), hwill, rfl, fun p b _ hp => ?_⟩
  obtain ⟨port, hport, hp⟩ := Option.bind_eq_some_iff.mp hp
  rw [hnull p port hport] at hp
  cases hp

/-- **No netdev keeps the handle of a bundle it has left**, in a run of safe calls on a VRF with
every call into the hardware succeeding. -/
theorem handles_good_of_safe {vrid : Nat} {ofports : OfpPort → Option OfportSai} {hw : Hw}
    (hnew : Unbundled ofports) (hnull : Unhandled ofports) (hwill : hw.Willing)
    (H : Reaches (fun o c => c.HandleSafe o) BundleCall.run (.new .vrf vrid ofports hw) o)
    {p : OfpPort} {port : OfportSai} {b : BundlePtr} (hport : o.ofports p = some port)
    (hhandle : port.netdev.rifHandle = some b) :
    ∃ bundle, o.bundles.lookup b = some bundle ∧ bundle.routerIntf.created = true ∧
      p ∈ bundle.ports := by
  have hinv := H.invariant (I := HandleInv) (fun _ _ hsafe _ _ => BundleCall.run_handleInv hsafe)
    (new_handleInv hnew hnull hwill)
  obtain ⟨hown, r, hr, hc⟩ := hinv.handles p b not_false ((handle_of_ofports hport).trans hhandle)
  obtain ⟨bundle, hb, rfl⟩ := Option.map_eq_some_iff.mp hr
  exact ⟨bundle, hb, hc, (hinv.links.mem_iff (links_members hb)).mpr hown⟩

end

/-! ### Examples -/

section
attribute [local instance] sampleOvs sampleBuild sampleIdl

theorem samplePorts_unhandled : Unhandled samplePorts := by
  intro p port hp
  unfold samplePorts at hp
  split at hp <;> cases hp
  rfl

/-- A VRF whose port 1 has got a handle. -/
theorem set_handle :
    ∃ o, BundleCall.run (.set 1 (some (accessSettings 2))) (.new .vrf 0 samplePorts .reset) =
      .ok (0, o) ∧ o.handle 1 = some 0 := by
  obtain ⟨o, hrun⟩ := result_eq_some.mp (show result (do
    let st ← BundleCall.run (.set 1 (some (accessSettings 2)))
    let h ← gets fun o => o.handle 1
    pure (st, h)) (.new .vrf 0 samplePorts .reset) = some (0, some 0) by decide +kernel)
  obtain ⟨st, o₁, hset, hend⟩ := bind_ok.mp hrun
  rw [gets_bind, pure_apply] at hend
  simp only [Except.ok.injEq, Prod.mk.injEq] at hend
  obtain ⟨⟨rfl, hhandle⟩, -⟩ := hend
  exact ⟨o₁, hset, hhandle⟩

/-- The handle of port 1 is good after its bundle has been created. -/
theorem handles_good_of_safe_set :
    ∃ (o : OfprotoSai) (bundle : OfbundleSai), o.handle 1 = some 0 ∧
      o.bundles.lookup 0 = some bundle ∧ bundle.routerIntf.created = true ∧ 1 ∈ bundle.ports := by
  obtain ⟨o, hset, hhandle⟩ := set_handle
  have hsafe : BundleCall.HandleSafe (.new .vrf 0 samplePorts .reset)
      (.set 1 (some (accessSettings 2))) := by
    refine .inr fun p b hp => ?_
    obtain ⟨port, hport, hb⟩ := Option.bind_eq_some_iff.mp hp
    rw [samplePorts_unhandled p port hport] at hb
    cases hb
  have H : Reaches (fun o c => BundleCall.HandleSafe o c) BundleCall.run
      (.new .vrf 0 samplePorts .reset) o := .tail .refl ⟨_, 0, hsafe, hset⟩
  obtain ⟨port, hport, hb⟩ := Option.bind_eq_some_iff.mp hhandle
  have hwill : Hw.reset.Willing := rfl
  obtain ⟨bundle, h⟩ :=
    handles_good_of_safe samplePorts_unbundled samplePorts_unhandled hwill H hport hb
  exact ⟨o, bundle, hhandle, h⟩

/-- After port 1 has been removed it has the handle of a bundle that is gone. -/
theorem remove_dangling :
    ∃ o, Reaches (fun _ _ => True) BundleCall.run (.new .vrf 0 samplePorts .reset) o ∧
      o.handle 1 = some 0 ∧ o.bundles.lookup 0 = none := by
  obtain ⟨o, hrun⟩ := result_eq_some.mp (show result (do
    let st ← BundleCall.run (.set 1 (some (accessSettings 2)))
    let st' ← BundleCall.run (.remove 1)
    let h ← gets fun o => (o.handle 1, (o.bundles.lookup 0).isNone)
    pure (st, st', h)) (.new .vrf 0 samplePorts .reset) = some (0, 0, some 0, true) by
      decide +kernel)
  obtain ⟨st, o₁, hset, hrun⟩ := bind_ok.mp hrun
  obtain ⟨st', o₂, hremove, hend⟩ := bind_ok.mp hrun
  rw [gets_bind, pure_apply] at hend
  simp only [Except.ok.injEq, Prod.mk.injEq] at hend
  obtain ⟨⟨-, -, hhandle, hnone⟩, -⟩ := hend
  exact ⟨o₂, .tail (.tail .refl ⟨_, st, trivial, hset⟩) ⟨_, st', trivial, hremove⟩, hhandle,
    Option.isNone_iff_eq_none.mp hnone⟩

end

end SwitchdSai
