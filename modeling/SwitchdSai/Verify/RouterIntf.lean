import SwitchdSai.Verify.Bundle

/-!
# Creating and removing a router interface

What the router interface functions do to the interfaces of the hardware: a creation adds one under
an id that was free, and a removal takes away at most the one it was called for. Neither touches a
route.
-/

namespace SwitchdSai

open Exec

variable {hw hw' : Hw} {st : Int} {vrid handle rif rifHandle : Nat} {type : RouterIntfType}

/-- Every interface of `hw` other than those in `S` is one of `hw'`, and the routes are the same. -/
def Hw.RifsKept (S : Nat → Prop) (hw hw' : Hw) : Prop :=
  hw'.routes = hw.routes ∧ ∀ r, ¬S r → r ∈ hw.routerIntfs → r ∈ hw'.routerIntfs

instance (S : Nat → Prop) : IsPreorder Hw (Hw.RifsKept S) where
  refl _ := ⟨rfl, fun _ _ => id⟩
  trans _ _ _ h h' := ⟨h'.1.trans h.1, fun r hr hin => h'.2 r hr (h.2 r hr hin)⟩

section
variable {S : Nat → Prop}

theorem rifsKept_of_eq (hr : hw'.routes = hw.routes) (hi : hw'.routerIntfs = hw.routerIntfs) :
    Hw.RifsKept S hw hw' := ⟨hr, fun _ _ hin => hi ▸ hin⟩

theorem rifsKept_insert (hr : hw'.routes = hw.routes) {r : HwRouterIntf}
    (hi : hw'.routerIntfs = hw.routerIntfs.insert rif r) : Hw.RifsKept S hw hw' :=
  ⟨hr, fun _ _ hin => hi ▸ (AList.mem_insert _).mpr (.inr hin)⟩

theorem sxCall_kept : Rel (Hw.RifsKept S) sxCall :=
  Hw.callIf_rel (fun _ => rifsKept_of_eq rfl rfl) fun _ => rifsKept_of_eq rfl rfl

theorem choose_kept : Rel (Hw.RifsKept S) Hw.choose := fun _ _ _ h => by
  cases h
  exact rifsKept_of_eq rfl rfl

theorem bindCounter_kept {counter : Option Nat} (hw : Hw) :
    Hw.RifsKept S hw (hw.bindCounter rif counter) := by
  unfold Hw.bindCounter
  split
  · exact rifsKept_insert rfl rfl
  · exact rifsKept_of_eq rfl rfl

theorem intfParamsIfc_kept : Rel (Hw.RifsKept S) (intfParamsIfc type handle) := by
  cases type with
  | port =>
    exact (Rel.gets _).bind fun _ => Rel.bind sxCall_kept fun _ => (Rel.require _ _).bind fun _ =>
      Rel.pure _
  | vlan => exact Rel.pure _

theorem sxRouterInterfaceAdd_kept {ifc : Nat} :
    Rel (Hw.RifsKept S) (sxRouterInterfaceAdd vrid type ifc) := by
  refine Rel.bind choose_kept fun _ => (Rel.gets _).bind fun _ => Rel.bind ?_ fun _ => Rel.pure _
  exact Hw.callIf_rel (fun _ => rifsKept_of_eq rfl rfl) fun _ => rifsKept_insert rfl rfl

theorem sxRouterCounterCreate_kept : Rel (Hw.RifsKept S) sxRouterCounterCreate := by
  refine Rel.bind choose_kept fun _ => (Rel.gets _).bind fun _ => Rel.bind ?_ fun _ => Rel.pure _
  exact Hw.callIf_rel (fun _ => rifsKept_of_eq rfl rfl) fun _ => rifsKept_of_eq rfl rfl

theorem sxRouterInterfaceCounterBind_kept {counter : Nat} :
    Rel (Hw.RifsKept S) (sxRouterInterfaceCounterBind counter rif) :=
  Hw.callIf_rel (fun _ => rifsKept_of_eq rfl rfl) fun hw => bindCounter_kept hw.tick

theorem sxRouterInterfaceCounterUnbind_kept {counter : Nat} :
    Rel (Hw.RifsKept S) (sxRouterInterfaceCounterUnbind counter rif) :=
  Hw.callIf_rel (fun _ => rifsKept_of_eq rfl rfl) fun hw => bindCounter_kept hw.tick

theorem sxRouterCounterDestroy_kept {counter : Nat} :
    Rel (Hw.RifsKept S) (sxRouterCounterDestroy counter) :=
  Hw.callIf_rel (fun _ => rifsKept_of_eq rfl rfl) fun _ => rifsKept_of_eq rfl rfl

theorem sxRouterInterfaceGet_kept : Rel (Hw.RifsKept S) (sxRouterInterfaceGet rif) :=
  Hw.callIf_rel (fun _ => rifsKept_of_eq rfl rfl) fun _ => rifsKept_of_eq rfl rfl

end

/-- An added interface has an id that was not in use. -/
theorem sxRouterInterfaceAdd_ok {ifc : Nat} {status : SaiStatus}
    (h : sxRouterInterfaceAdd vrid type ifc hw = .ok ((status, rif), hw')) :
    rif ∉ hw.routerIntfs ∧ (status = .success → rif ∈ hw'.routerIntfs) ∧
      (hw.Willing → status = .success) := by
  obtain ⟨n, hw₁, h₁, h⟩ := bind_ok.mp h
  cases h₁
  rw [gets_bind] at h
  obtain ⟨status, hw₂, h₂, hend⟩ := bind_ok.mp h
  cases hend
  have hcall : Hw.Willing { hw with choices := hw.choices.tail } → status = .success :=
    fun hwill => (hwill.call h₂).1
  refine ⟨fresh_notMem _ _, fun hs => ?_, hcall⟩
  rcases Hw.call_cases h₂ with ⟨-, rfl⟩ | ⟨hne, -⟩
  · exact (AList.mem_insert _).mpr (.inl rfl)
  · exact absurd hs hne

theorem sxRouterCounterCreate_ok {counter : Nat} {status : SaiStatus}
    (h : sxRouterCounterCreate hw = .ok ((status, counter), hw')) :
    hw.Willing → status = .success := by
  obtain ⟨n, hw₁, h₁, h⟩ := bind_ok.mp h
  cases h₁
  rw [gets_bind] at h
  obtain ⟨status, hw₂, h₂, hend⟩ := bind_ok.mp h
  cases hend
  intro hwill
  have hwill₁ : Hw.Willing { hw with choices := hw.choices.tail } := hwill
  exact (hwill₁.call h₂).1

/-- A function returns at the first call that fails. -/
theorem orError_ok {α : Type} {status : SaiStatus} {a : α} {k : Exec Hw α} {r : α × Hw}
    (h : (if status ≠ .success then pure a else k) hw = .ok r) :
    (status ≠ .success ∧ r = (a, hw)) ∨ (status = .success ∧ k hw = .ok r) := by
  by_cases hs : status = .success
  · exact .inr ⟨hs, by simpa [hs] using h⟩
  · rw [if_pos hs] at h
    cases h
    exact .inl ⟨hs, rfl⟩

theorem sxError2Errno_ne_zero {status : SaiStatus} (h : status ≠ .success) :
    sxError2Errno status ≠ 0 := fun h0 => h (sxError2Errno_eq_zero.mp h0)

theorem opsSaiRouterIntfCreate_kept {S : Nat → Prop} :
    Rel (Hw.RifsKept S) (opsSaiRouterIntfCreate vrid type handle rifHandle) := by
  refine Rel.bind intfParamsIfc_kept fun _ => Rel.bind sxCall_kept fun _ => (Rel.pure _).ite ?_
  refine Rel.bind sxRouterInterfaceAdd_kept fun _ => (Rel.pure _).ite ?_
  refine Rel.bind sxRouterCounterCreate_kept fun _ => (Rel.pure _).ite ?_
  refine Rel.bind sxRouterInterfaceCounterBind_kept fun _ => (Rel.pure _).ite ?_
  refine (Rel.gets _).bind fun _ => (Rel.require _ _).bind fun _ => ?_
  exact Rel.bind (Rel.modify fun _ => rifsKept_of_eq rfl rfl) fun _ => Rel.pure _

/-- A creation that succeeds returns a new interface; it succeeds when every call does. -/
theorem opsSaiRouterIntfCreate_ok
    (h : opsSaiRouterIntfCreate vrid type handle rifHandle hw = .ok ((st, rif), hw')) :
    (st = 0 → rif ∉ hw.routerIntfs ∧ rif ∈ hw'.routerIntfs) ∧ (hw.Willing → st = 0) := by
  have hfail : ∀ {status hw₀ r}, status ≠ .success →
      ((st, rif), hw') = ((sxError2Errno status, r), hw₀) → (hw.Willing → status = .success) →
      (st = 0 → rif ∉ hw.routerIntfs ∧ rif ∈ hw'.routerIntfs) ∧ (hw.Willing → st = 0) := by
    intro status hw₀ r hs hend hsucc
    cases hend
    exact ⟨fun h0 => absurd h0 (sxError2Errno_ne_zero hs), fun hwill => absurd (hsucc hwill) hs⟩
  obtain ⟨ifc, hw₁, h₁, h⟩ := bind_ok.mp h
  obtain ⟨s₂, hw₂, h₂, h⟩ := bind_ok.mp h
  have hkept₂ : hw.RifsKept (fun _ => False) hw₂ :=
    trans_of _ (intfParamsIfc_kept _ _ _ h₁) (sxCall_kept _ _ _ h₂)
  have hwill₁ : hw.Willing → hw₁.Willing := Hw.same_willing intfParamsIfc_l2 _ _ _ h₁
  have hwill₂ : hw.Willing → hw₂.Willing := fun hw => Hw.same_willing sxCall_l2 _ _ _ h₂ (hwill₁ hw)
  rcases orError_ok h with ⟨hs, hend⟩ | ⟨rfl, h⟩
  · exact hfail hs hend fun hwill => ((hwill₁ hwill).call h₂).1
  obtain ⟨⟨s₃, rif₃⟩, hw₃, h₃, h⟩ := bind_ok.mp h
  obtain ⟨hfresh, hadded, hsucc₃⟩ := sxRouterInterfaceAdd_ok h₃
  have hwill₃ : hw.Willing → hw₃.Willing := fun hw =>
    Hw.same_willing sxRouterInterfaceAdd_l2 _ _ _ h₃ (hwill₂ hw)
  rcases orError_ok h with ⟨hs, hend⟩ | ⟨rfl, h⟩
  · exact hfail hs hend fun hwill => hsucc₃ (hwill₂ hwill)
  obtain ⟨⟨s₄, counter⟩, hw₄, h₄, h⟩ := bind_ok.mp h
  have hwill₄ : hw.Willing → hw₄.Willing := fun hw =>
    Hw.same_willing sxRouterCounterCreate_l2 _ _ _ h₄ (hwill₃ hw)
  have hin₄ : rif₃ ∈ hw₄.routerIntfs :=
    (sxRouterCounterCreate_kept (S := fun _ => False) _ _ _ h₄).2 rif₃ not_false (hadded rfl)
  rcases orError_ok h with ⟨hs, hend⟩ | ⟨rfl, h⟩
  · exact hfail hs hend fun hwill => sxRouterCounterCreate_ok h₄ (hwill₃ hwill)
  obtain ⟨s₅, hw₅, h₅, h⟩ := bind_ok.mp h
  have hin₅ : rif₃ ∈ hw₅.routerIntfs :=
    (sxRouterInterfaceCounterBind_kept (S := fun _ => False) _ _ _ h₅).2 rif₃ not_false hin₄
  rcases orError_ok h with ⟨hs, hend⟩ | ⟨rfl, hentry⟩
  · exact hfail hs hend fun hwill =>
      ((hwill₄ hwill).callIf (AList.lookup_isSome.mpr hin₄) h₅).1
  rw [gets_bind] at hentry
  obtain ⟨-, hentry⟩ := require_bind.mp hentry
  rw [modify_bind] at hentry
  cases hentry
  exact ⟨fun _ => ⟨fun hin => hfresh (hkept₂.2 rif not_false hin), hin₅⟩, fun _ => rfl⟩

/-- A removal that fails has removed nothing, and one that succeeds only its interface. -/
theorem opsSaiRouterIntfRemove_kept
    (h : opsSaiRouterIntfRemove rifHandle hw = .ok (st, hw')) :
    hw.RifsKept (· = rifHandle) hw' ∧ (st ≠ 0 → hw.RifsKept (fun _ => False) hw') := by
  rw [opsSaiRouterIntfRemove, gets_bind] at h
  obtain ⟨routerIntf, hfound, h⟩ := need_bind.mp h
  have hid : routerIntf.rifId = rifHandle := by
    have := List.find?_some hfound
    exact of_decide_eq_true this
  have hnone : ∀ {hw₁ S}, hw.RifsKept (fun _ => False) hw₁ → hw.RifsKept S hw₁ :=
    fun hk => ⟨hk.1, fun r _ => hk.2 r not_false⟩
  obtain ⟨s₁, hw₁, h₁, h⟩ := bind_ok.mp h
  have hk₁ : hw.RifsKept (fun _ => False) hw₁ := sxRouterInterfaceCounterUnbind_kept _ _ _ h₁
  rcases orError_ok h with ⟨-, hend⟩ | ⟨rfl, h⟩
  · cases hend
    exact ⟨hnone hk₁, fun _ => hk₁⟩
  obtain ⟨s₂, hw₂, h₂, h⟩ := bind_ok.mp h
  have hk₂ : hw.RifsKept (fun _ => False) hw₂ :=
    trans_of _ hk₁ (sxRouterCounterDestroy_kept _ _ _ h₂)
  rcases orError_ok h with ⟨-, hend⟩ | ⟨rfl, h⟩
  · cases hend
    exact ⟨hnone hk₂, fun _ => hk₂⟩
  obtain ⟨s₃, hw₃, h₃, h⟩ := bind_ok.mp h
  have hk₃ : hw.RifsKept (fun _ => False) hw₃ :=
    trans_of _ hk₂ (sxRouterInterfaceGet_kept _ _ _ h₃)
  rcases orError_ok h with ⟨-, hend⟩ | ⟨rfl, h⟩
  · cases hend
    exact ⟨hnone hk₃, fun _ => hk₃⟩
  obtain ⟨s₄, hw₄, h₄, h⟩ := bind_ok.mp h
  rcases Hw.callIf_cases h₄ with ⟨rfl, -, rfl⟩ | ⟨hs, rfl⟩
  · rcases orError_ok h with ⟨hs, -⟩ | ⟨-, h⟩
    · exact absurd rfl hs
    rw [modify_bind] at h
    cases h
    refine ⟨⟨hk₃.1, fun r hr hin => ?_⟩, fun h0 => absurd rfl h0⟩
    show r ∈ hw₃.routerIntfs.erase routerIntf.rifId
    rw [AList.mem_erase, hid]
    exact ⟨hr, hk₃.2 r not_false hin⟩
  · rcases orError_ok h with ⟨-, hend⟩ | ⟨hs', -⟩
    · cases hend
      exact ⟨hnone hk₃, fun _ => hk₃⟩
    · exact absurd hs' hs

theorem opsSaiRouterIntfSetState_kept {S : Nat → Prop} {state : Bool} :
    Rel (Hw.RifsKept S) (opsSaiRouterIntfSetState rifHandle state) := by
  have hset : ∀ r, Rel (Hw.RifsKept S) (sxRouterInterfaceStateSet r state) := by
    refine fun r => Hw.callIf_rel (fun _ => rifsKept_of_eq rfl rfl) fun hw => ?_
    split
    · exact rifsKept_insert rfl rfl
    · exact rifsKept_of_eq rfl rfl
  exact (Rel.gets _).bind fun _ => (Rel.need _ _).bind fun _ => (hset _).bind fun _ => Rel.pure _

/-! ## The router interface of a bundle -/

section
open OfprotoSai
variable {o o' : OfprotoSai} {p : OfpPort} {b : BundlePtr} {rifType : RouterIntfType}

theorem setRouterIntfHandle_frame {h : Option BundlePtr} :
    Frame (fun o => (o.vrid, o.bundles, o.hw)) (netdevSaiSetRouterIntfHandle p h) :=
  (ofport_rel p).bind fun _ => (Rel.require _ _).bind fun _ =>
    Rel.bind (modifyPort_rel fun _ _ _ => rfl) fun _ => Rel.pure _

/-- Setting handles cannot fail. -/
theorem setRouterIntfHandles_zero {h : Option BundlePtr} {ports : List OfpPort}
    (hm : (forEach ports fun p => netdevSaiSetRouterIntfHandle p h) o = .ok (st, o')) : st = 0 := by
  have hone : ∀ p, Succeeds (fun _ => True) (netdevSaiSetRouterIntfHandle p h) := fun p =>
    Succeeds.bind (fun _ _ _ _ => id) fun _ => Succeeds.bind (fun _ _ _ _ => id) fun _ =>
      Succeeds.bind (fun _ _ _ _ => id) fun _ => Succeeds.pure
  exact (Succeeds.forEach hone o st o' trivial hm).1

/-- Creating the router interface of a bundle: it fails and changes nothing but the hardware, or the
bundle records it and the ports on the list get the handle. -/
theorem routerIntfCreate_ok (h : routerIntfCreate b rifType handle o = .ok (st, o')) :
    ∃ bundle rifid hw, o.bundles.lookup b = some bundle ∧
      opsSaiRouterIntfCreate o.vrid rifType handle bundle.routerIntf.rifid o.hw =
        .ok ((st, rifid), hw) ∧
      ((st ≠ 0 ∧ o' = { o with hw := hw }) ∨
        st = 0 ∧ (forEach bundle.ports fun p => netdevSaiSetRouterIntfHandle p (some b))
          (OfprotoSai.setBundle b
            { bundle with
              routerIntf :=
                { bundle.routerIntf with
                  created := true, enabled := false, handle := handle, rifid := rifid } }
            { o with hw := hw }) = .ok (0, o')) := by
  obtain ⟨bundle, hb, h⟩ := ofbundle_bind.mp h
  rw [gets_bind] at h
  obtain ⟨⟨st₁, rifid⟩, o₁, h₁, h⟩ := bind_ok.mp h
  obtain ⟨hw, hhw, rfl⟩ := onHw_ok.mp h₁
  dsimp only at h
  split at h
  next h0 =>
    cases h
    exact ⟨bundle, rifid, hw, hb, hhw, .inl ⟨h0, rfl⟩⟩
  next h0 =>
    obtain ⟨bundle₁, hb₁, hset⟩ := modifyBundle_bind.mp h
    obtain rfl : bundle₁ = bundle := Option.some.inj (hb₁.symm.trans hb)
    obtain rfl : st = 0 := setRouterIntfHandles_zero hset
    obtain rfl : st₁ = 0 := not_not.mp h0
    exact ⟨bundle₁, rifid, hw, hb, hhw, .inr ⟨rfl, hset⟩⟩

variable [OvsLib] [Build]

/-- Giving up the router interface of a bundle: the local routes are removed first, then the handles
of the ports on the list are cleared, whatever becomes of the interface. -/
theorem ofbundleRouterIntfRemove_ok (h : ofbundleRouterIntfRemove b o = .ok (st, o')) :
    (localRoutesRemove b o = .ok (st, o') ∧ st ≠ 0) ∨
      ∃ o₁ bundle, localRoutesRemove b o = .ok (0, o₁) ∧ o₁.bundles.lookup b = some bundle ∧
        ((bundle.routerIntf.created = false ∧ st = 0 ∧ o' = o₁) ∨
          bundle.routerIntf.created = true ∧ ∃ o₂ hw,
            (forEach bundle.ports fun p => netdevSaiSetRouterIntfHandle p none) o₁ =
              .ok (0, o₂) ∧
            opsSaiRouterIntfRemove bundle.routerIntf.rifid o₂.hw = .ok (st, hw) ∧
            ((st ≠ 0 ∧ o' = { o₂ with hw := hw }) ∨ st = 0 ∧
              o' = OfprotoSai.setBundle b { bundle with routerIntf := .zero }
                { o₂ with hw := hw })) := by
  refine (thenOk_ok.mp h).imp_right ?_
  rintro ⟨o₁, hlocal, h⟩
  obtain ⟨bundle, hb, h⟩ := ofbundle_bind.mp h
  refine ⟨o₁, bundle, hlocal, hb, ?_⟩
  split at h
  next hc =>
    rcases thenOk_ok.mp h with ⟨hclear, h0⟩ | ⟨o₂, hclear, h⟩
    · exact absurd (setRouterIntfHandles_zero hclear) h0
    have hframe : Frame (fun o => (o.vrid, o.bundles, o.hw)) (forEach bundle.ports fun p =>
        netdevSaiSetRouterIntfHandle p none) := Rel.forEach fun _ => setRouterIntfHandle_frame
    have hbundles : o₂.bundles = o₁.bundles :=
      congrArg (fun t => t.2.1) (hframe _ _ _ hclear)
    rcases thenOk_ok.mp h with ⟨hfail, h0⟩ | ⟨o₃, hremove, hend⟩
    · obtain ⟨hw, hhw, rfl⟩ := onHw_ok.mp hfail
      exact .inr ⟨hc, o₂, hw, hclear, hhw, .inl ⟨h0, rfl⟩⟩
    · obtain ⟨hw, hhw, rfl⟩ := onHw_ok.mp hremove
      obtain ⟨bundle₁, hb₁, hend⟩ := modifyBundle_bind.mp hend
      cases hend
      have hb₁ : o₂.bundles.lookup b = some bundle₁ := hb₁
      obtain rfl : bundle₁ = bundle := by
        rw [hbundles] at hb₁
        exact Option.some.inj (hb₁.symm.trans hb)
      exact .inr ⟨hc, o₂, hw, hclear, hhw, .inr ⟨rfl, rfl⟩⟩
  next hc =>
    cases h
    exact .inl ⟨Bool.eq_false_iff.mpr hc, rfl, rfl⟩

/-- The handle of the router interface that settings ask for with a netdev as the first slave. -/
def routerIntfHandle (netdev : NetdevSai) (s : OfprotoBundleSettings) :
    Option (RouterIntfType × Nat) :=
  match netdev.type with
  | .internal => some (.vlan, handleOfInt s.vlan)
  | .system => some (.port, netdev.netdevSaiHwIdGet)
  | .loopback | .vlansubint => none

omit [OvsLib] [Build] in
theorem routerIntfHandle_of_netdevs {s : OfprotoBundleSettings} {port port' : OfportSai}
    (hnet : o'.netdevs = o.netdevs)
    (hp : o.ofports p = some port) (hp' : o'.ofports p = some port') :
    routerIntfHandle port'.netdev s = routerIntfHandle port.netdev s := by
  have := congrFun hnet p
  simp only [netdevs, hp, hp', Option.map_some, Option.some.injEq, NetdevSai.mk.injEq] at this
  obtain ⟨-, htype, hid, -⟩ := this
  simp only [routerIntfHandle, htype, NetdevSai.netdevSaiHwIdGet, hid]

/-- A reconfiguration of the router interface by the type of the first slave. -/
theorem ofbundleRouterIntfReconfigure_cases {s : OfprotoBundleSettings}
    (h : ofbundleRouterIntfReconfigure b s o = .ok (st, o')) :
    o.type = .vrf ∧ ∃ slave, s.slaves.head?.or s.slavesBeyond = some slave ∧
      ((o.ofports slave = none ∧ st = -1 ∧ o' = o) ∨ ∃ port, o.ofports slave = some port ∧
        ((port.netdev.type = .vlansubint ∧ st = 0 ∧ o' = o) ∨
          (port.netdev.type = .loopback ∧ st = 0 ∧ ∃ bundle,
            o.bundles.lookup b = some bundle ∧ o' = o.setBundle b
              { bundle with routerIntf := { bundle.routerIntf with isLoopback := true } }) ∨
          ∃ rifType handle, routerIntfHandle port.netdev s = some (rifType, handle) ∧
            routerIntfApply b rifType handle s.enable o = .ok (st, o'))) := by
  rw [ofbundleRouterIntfReconfigure, gets_bind] at h
  obtain ⟨htype, h⟩ := require_bind.mp h
  obtain ⟨slave, hslave, h⟩ := need_bind.mp h
  refine ⟨of_decide_eq_true htype, slave, hslave, ?_⟩
  rw [gets_bind] at h
  cases hport : o.ofports slave with
  | none =>
    have hnone : o.getOfpPort slave = none := by simp [OfprotoSai.getOfpPort, hport]
    rw [hnone] at h
    cases h
    exact .inl ⟨rfl, rfl, rfl⟩
  | some port =>
    have hsome : o.getOfpPort slave = some slave := by simp [OfprotoSai.getOfpPort, hport]
    rw [hsome] at h
    obtain ⟨port₁, hport₁, h₁⟩ := ofport_bind.mp h
    obtain rfl : port₁ = port := Option.some.inj (hport₁.symm.trans hport)
    refine .inr ⟨port₁, rfl, ?_⟩
    cases hnet : port₁.netdev.type <;> simp only [hnet] at h₁
    case internal => exact .inr (.inr ⟨_, _, by simp [routerIntfHandle, hnet], h₁⟩)
    case system => exact .inr (.inr ⟨_, _, by simp [routerIntfHandle, hnet], h₁⟩)
    case vlansubint =>
      cases h₁
      exact .inl ⟨rfl, rfl, rfl⟩
    case loopback =>
      obtain ⟨bundle, hb, hend⟩ := modifyBundle_bind.mp h₁
      cases hend
      exact .inr (.inl ⟨rfl, rfl, bundle, hb, rfl⟩)

end

end SwitchdSai
