import SwitchdSai.Verify.NeighborsLive
import SwitchdSai.Verify.Reports
import SwitchdSai.Verify.RifFollows
import SwitchdSai.Verify.VlanScript

/-!
# Applying the same settings twice

After a call of `__bundle_set` in which nothing has failed, the same call finds the ports, the VLANs
and the router interface as it wants them and issues no call for them. A primary address that is
flagged is added again, and so is a secondary address that is looked up in the table of the other
version.
-/

namespace SwitchdSai

open Exec OfprotoSai

variable {o o' o₁ : OfprotoSai} {b : BundlePtr} {s : OfprotoBundleSettings} {st : Int}
  {bundle : OfbundleSai} {p : OfpPort}

/-! ## Programs that issue no call -/

/-- `o'` differs from `o` at most in the order in which tables are walked. -/
structure Alike (o o' : OfprotoSai) : Prop where
  type : o'.type = o.type
  vrid : o'.vrid = o.vrid
  ofports : o'.ofports = o.ofports
  lookup : ∀ b, o'.bundles.lookup b = o.bundles.lookup b
  hw : ∃ cs, o'.hw = { o.hw with choices := cs }

instance : IsPreorder OfprotoSai Alike where
  refl o := ⟨rfl, rfl, rfl, fun _ => rfl, o.hw.choices, rfl⟩
  trans _ _ _ h h' := by
    obtain ⟨cs, hcs⟩ := h'.hw
    obtain ⟨ds, hds⟩ := h.hw
    exact ⟨h'.type.trans h.type, h'.vrid.trans h.vrid, h'.ofports.trans h.ofports,
      fun b => (h'.lookup b).trans (h.lookup b), cs, by rw [hcs, hds]⟩

theorem Alike.bundlesBy {γ : Type} {f : OfbundleSai → γ} (h : Alike o o') :
    o'.bundlesBy f = o.bundlesBy f := funext fun b => congrArg (·.map f) (h.lookup b)

theorem Alike.netdevs (h : Alike o o') : o'.netdevs = o.netdevs := by
  unfold OfprotoSai.netdevs
  rw [h.ofports]

theorem alike_choices {cs : List Nat} : Alike o { o with hw := { o.hw with choices := cs } } :=
  ⟨rfl, rfl, rfl, fun _ => rfl, cs, rfl⟩

theorem Alike.outcomes (h : Alike o o') : o'.hw.outcomes = o.hw.outcomes := by
  obtain ⟨cs, hcs⟩ := h.hw
  rw [hcs]

/-- From the states that are alike to `o`, `m` succeeds and issues no call. -/
def Idles (o : OfprotoSai) (m : Exec OfprotoSai Int) : Prop :=
  ∀ o₁, Alike o o₁ → Ends m o₁ fun st o' => st = 0 ∧ Alike o o'

namespace Idles

variable {α : Type} {m k : Exec OfprotoSai Int}

theorem pure : Idles o (pure 0) := fun _ h => Ends.pure ⟨rfl, h⟩

theorem thenOk (hm : Idles o m) (hk : Idles o k) : Idles o (m.thenOk k) := fun o₁ h =>
  (hm o₁ h).bind fun st o₂ ⟨h0, h₂⟩ => by
    rw [if_pos h0]
    exact hk o₂ h₂

theorem forEach {l : List α} {f : α → Exec OfprotoSai Int} (h : ∀ a ∈ l, Idles o (f a)) :
    Idles o (forEach l f) := by
  induction l with
  | nil => exact pure
  | cons a l ih =>
    exact (h a (List.mem_cons_self ..)).thenOk (ih fun b hb => h b (List.mem_cons_of_mem _ hb))

/-- A part of the state is read that the states alike to `o` have in common. -/
theorem read_bind {a : α} {n : Exec OfprotoSai α} {k : α → Exec OfprotoSai Int}
    (hn : ∀ o₁, Alike o o₁ → n o₁ = .ok (a, o₁)) (hk : Idles o (k a)) : Idles o (n >>= k) :=
  fun o₁ h => by
    rw [Ends, bind_of_ok (hn o₁ h)]
    exact hk o₁ h

theorem gets_bind {f : OfprotoSai → α} {k : α → Exec OfprotoSai Int}
    (hf : ∀ o₁, Alike o o₁ → f o₁ = f o) (hk : Idles o (k (f o))) : Idles o (gets f >>= k) :=
  read_bind (fun o₁ h => by rw [gets_apply, hf o₁ h]) hk

theorem ofbundle_bind {k : OfbundleSai → Exec OfprotoSai Int}
    (hb : o.bundles.lookup b = some bundle) (hk : Idles o (k bundle)) :
    Idles o (ofbundle b >>= k) :=
  read_bind (fun _ h => ofbundle_apply ((h.lookup b).trans hb)) hk

theorem ofport_bind {port : OfportSai} {k : OfportSai → Exec OfprotoSai Int}
    (hp : o.ofports p = some port) (hk : Idles o (k port)) : Idles o (ofport p >>= k) :=
  read_bind (fun _ h => ofport_apply ((congrFun h.ofports p).trans hp)) hk

theorem require_bind {e : Halt} {c : Bool} {k : Unit → Exec OfprotoSai Int} (hc : c = true)
    (hk : Idles o (k ())) : Idles o (Exec.require e c >>= k) :=
  read_bind (fun _ _ => require_ok.mpr ⟨hc, rfl⟩) hk

theorem need_bind {e : Halt} {a : α} {x : Option α} {k : α → Exec OfprotoSai Int}
    (hx : x = some a) (hk : Idles o (k a)) : Idles o (need e x >>= k) :=
  read_bind (fun _ _ => need_ok.mpr ⟨a, hx, rfl⟩) hk

/-- A table is walked in some order. -/
theorem walkTable_bind {table : List α} {k : List α → Exec OfprotoSai Int}
    (hk : ∀ l, l.Perm table → Idles o (k l)) : Idles o (walkTable table >>= k) := by
  intro o₁ h
  have hwalk : walkTable table o₁ = .ok (walk (o₁.hw.choices.headD 0) table,
      { o₁ with hw := { o₁.hw with choices := o₁.hw.choices.tail } }) := rfl
  rw [Ends, bind_of_ok hwalk]
  exact hk _ (walk_perm _ _) _ (trans_of Alike h alike_choices)

/-- Writing what is there. -/
theorem modifyBundle {f : OfbundleSai → OfbundleSai} (hb : o.bundles.lookup b = some bundle)
    (hf : f bundle = bundle) : Idles o (do modifyBundle b f; return 0) := by
  intro o₁ h
  have hmodify : OfprotoSai.modifyBundle b f o₁ = .ok ((), o₁.setBundle b bundle) :=
    modifyBundle_ok.mpr ⟨bundle, (h.lookup b).trans hb, by rw [hf]⟩
  have hsame : Alike o₁ (o₁.setBundle b bundle) := by
    refine ⟨rfl, rfl, rfl, fun b' => ?_, _, rfl⟩
    rw [setBundle_lookup]
    split
    next hbb => rw [hbb, h.lookup, hb]
    next => rfl
  rw [Ends, bind_of_ok hmodify]
  exact Ends.pure ⟨rfl, trans_of Alike h hsame⟩

/-- A status that is dropped. -/
theorem drop (hm : Idles o m) (hk : Idles o k) : Idles o (do let _ ← m; k) := fun o₁ h =>
  (hm o₁ h).bind fun _ o₂ h₂ => hk o₂ h₂.2

end Idles

/-! ## Programs that issue a call or not -/

/-- From the states that are alike to `o` and have outcomes left, `m` takes one. -/
def Takes (o : OfprotoSai) (m : Exec OfprotoSai Int) : Prop :=
  ∀ o₁ st o', Alike o o₁ → m o₁ = .ok (st, o') → o₁.hw.outcomes ≠ [] →
    o'.hw.outcomes.length < o₁.hw.outcomes.length

/-- `m` issues no call if `c`, and some call otherwise. -/
structure IdlesIff (o : OfprotoSai) (c : Prop) (m : Exec OfprotoSai Int) : Prop where
  idles : c → Idles o m
  takes : ¬c → Takes o m

namespace Takes

variable {α : Type} {m k : Exec OfprotoSai Int}

theorem bind {k : Int → Exec OfprotoSai Int} (hm : Takes o m)
    (hk : ∀ st, Rel Evolves (k st)) : Takes o (m >>= k) := by
  intro o₁ st o' h hrun hout
  obtain ⟨st₁, o₂, h₁, h₂⟩ := bind_ok.mp hrun
  exact (hk _ _ _ _ h₂).outcomes.length_le.trans_lt (hm _ _ _ h h₁ hout)

theorem thenOk (hm : Takes o m) (hk : Rel Evolves k) : Takes o (m.thenOk k) :=
  hm.bind fun _ => Rel.ite hk (Rel.pure _)

/-- What follows a program that idles. -/
theorem after {k : Int → Exec OfprotoSai Int} (hm : Idles o m) (hk : Takes o (k 0)) :
    Takes o (m >>= k) := by
  intro o₁ st o' h hrun hout
  obtain ⟨st₁, o₂, h₁, rfl, h₂⟩ := hm o₁ h
  rw [bind_of_ok h₁] at hrun
  have hsame : o₂.hw.outcomes = o₁.hw.outcomes := by rw [h₂.outcomes, h.outcomes]
  rw [← hsame] at hout ⊢
  exact hk _ _ _ h₂ hrun hout

theorem read_bind {a : α} {n : Exec OfprotoSai α} {k : α → Exec OfprotoSai Int}
    (hn : ∀ o₁, Alike o o₁ → n o₁ = .ok (a, o₁)) (hk : Takes o (k a)) : Takes o (n >>= k) :=
  fun o₁ st o' h hrun hout => by
    rw [bind_of_ok (hn o₁ h)] at hrun
    exact hk o₁ st o' h hrun hout

theorem walkTable_bind {table : List α} {k : List α → Exec OfprotoSai Int}
    (hk : ∀ l, l.Perm table → Takes o (k l)) : Takes o (walkTable table >>= k) := by
  intro o₁ st o' h hrun hout
  obtain ⟨l, o₂, hwalk, hrun⟩ := bind_ok.mp hrun
  obtain ⟨hperm, cs, rfl⟩ := walkTable_ok hwalk
  have hlt := hk l hperm _ st o' (trans_of Alike h alike_choices) hrun
  exact hlt hout

end Takes

namespace IdlesIff

variable {α : Type} {m k : Exec OfprotoSai Int} {c d : Prop}

theorem of_idles (h : Idles o m) : IdlesIff o True m := ⟨fun _ => h, fun hn => absurd trivial hn⟩

theorem of_takes (h : Takes o m) : IdlesIff o False m := ⟨nofun, fun _ => h⟩

theorem congr (h : IdlesIff o c m) (hcd : c ↔ d) : IdlesIff o d m :=
  ⟨fun hd => h.idles (hcd.mpr hd), fun hd => h.takes (mt hcd.mp hd)⟩

theorem thenOk (hm : IdlesIff o c m) (hk : IdlesIff o d k) (hrel : Rel Evolves k) :
    IdlesIff o (c ∧ d) (m.thenOk k) := by
  refine ⟨fun h => (hm.idles h.1).thenOk (hk.idles h.2), fun h => ?_⟩
  by_cases hc : c
  · exact Takes.after (hm.idles hc) (hk.takes fun hd => h ⟨hc, hd⟩)
  · exact (hm.takes hc).thenOk hrel

theorem forEach {l : List α} {f : α → Exec OfprotoSai Int} {c : α → Prop}
    (h : ∀ a ∈ l, IdlesIff o (c a) (f a)) (hrel : ∀ a, Rel Evolves (f a)) :
    IdlesIff o (∀ a ∈ l, c a) (forEach l f) := by
  induction l with
  | nil => exact (of_idles Idles.pure).congr (by simp)
  | cons a l ih =>
    refine ((h a (List.mem_cons_self ..)).thenOk (ih fun b hb => h b (List.mem_cons_of_mem _ hb))
      (Rel.forEach hrel)).congr ?_
    rw [List.forall_mem_cons]

theorem read_bind {a : α} {n : Exec OfprotoSai α} {k : α → Exec OfprotoSai Int}
    (hn : ∀ o₁, Alike o o₁ → n o₁ = .ok (a, o₁)) (hk : IdlesIff o c (k a)) :
    IdlesIff o c (n >>= k) :=
  ⟨fun hc => Idles.read_bind hn (hk.idles hc), fun hc => Takes.read_bind hn (hk.takes hc)⟩

theorem ofbundle_bind {k : OfbundleSai → Exec OfprotoSai Int}
    (hb : o.bundles.lookup b = some bundle) (hk : IdlesIff o c (k bundle)) :
    IdlesIff o c (ofbundle b >>= k) :=
  read_bind (fun _ h => ofbundle_apply ((h.lookup b).trans hb)) hk

theorem walkTable_bind {table : List α} {k : List α → Exec OfprotoSai Int}
    (hk : ∀ l, l.Perm table → IdlesIff o c (k l)) : IdlesIff o c (walkTable table >>= k) :=
  ⟨fun hc => Idles.walkTable_bind fun l hl => (hk l hl).idles hc,
    fun hc => Takes.walkTable_bind fun l hl => (hk l hl).takes hc⟩

/-- A step that is made when `flag` is set. -/
theorem flagged {flag : Bool} (h : flag = true → IdlesIff o c m) :
    IdlesIff o (flag = true → c) (if flag then m else pure 0) := by
  cases flag with
  | true => exact (h rfl).congr (by simp)
  | false => exact (of_idles Idles.pure).congr (by simp)

/-- What follows a program whose status is dropped and that idles. -/
theorem after (hm : Idles o m) (hk : IdlesIff o c k) : IdlesIff o c (do let _ ← m; k) :=
  ⟨fun hc => hm.drop (hk.idles hc), fun hc => Takes.after hm (hk.takes hc)⟩

end IdlesIff

/-! ## Ports and VLANs -/

/-- Settings that are recorded leave nothing to remove and nothing to add. -/
theorem changedTrunks_same (h : bundle.vlanSettings = s.vlanSettings) :
    changedTrunks bundle s = (0, 0) := by
  have hzero : ∀ {x : VlanBitmap}, (∀ v, ¬x.getLsbD v = true) → x = 0 := fun hx =>
    BitVec.eq_of_getLsbD_eq fun v _ => (Bool.eq_false_iff.mpr (hx v)).trans BitVec.getLsbD_zero.symm
  refine Prod.ext (hzero fun v => ?_) (hzero fun v => ?_)
  · rw [changedTrunks_added, h]
    rintro ⟨ht, hnot | hnative, hother⟩
    · cases ht.symm.trans hnot
    · exact hother hnative
  · rw [changedTrunks_removed, h]
    rintro ⟨ht, hnot, -⟩
    cases ht.symm.trans hnot

theorem vlanPortLeave_nothing {hwId : Nat} : vlanPortLeave bundle false 0 hwId = pure 0 := by
  unfold vlanPortLeave opsSaiVlanTrunksPortDel trunksPortSet
  rw [ones_zero]
  cases bundle.vlanMode <;> rfl

theorem vlanPortJoin_nothing {hwId : Nat} : vlanPortJoin s false 0 hwId = pure 0 := by
  unfold vlanPortJoin opsSaiVlanTrunksPortAdd trunksPortSet
  rw [ones_zero]
  cases s.vlanMode <;> rfl

theorem forEachPort_idles {ports : List OfpPort} {f : Nat → Exec Hw Int}
    (hf : ∀ hwId, f hwId = pure 0) (hports : ∀ p ∈ ports, ∃ port, o.ofports p = some port) :
    Idles o (forEachPort ports f) :=
  Idles.forEach fun p hp => by
    obtain ⟨port, hport⟩ := hports p hp
    refine Idles.ofport_bind hport ?_
    rw [hf]
    exact Idles.pure

theorem nativeInRange_of_wf {v : VlanSettings} (h : v.WF) :
    nativeInRange v.vlanMode v.vlan = true := by
  have hr := h.range
  unfold nativeInRange PortVlanMode.native VLAN_BITMAP_SIZE
  cases hm : v.vlanMode <;> simp [hm] at hr ⊢ <;> omega

theorem vlanReconfigure_idles (hb : o.bundles.lookup b = some bundle)
    (hsame : bundle.vlanSettings = s.vlanSettings)
    (hrange : nativeInRange s.vlanMode s.vlan = true)
    (hports : ∀ p ∈ bundle.ports, ∃ port, o.ofports p = some port) :
    Idles o (vlanReconfigure b s) := by
  have hvlan : bundle.vlan = s.vlan := congrArg VlanSettings.vlan hsame
  have hmode : bundle.vlanMode = s.vlanMode := congrArg VlanSettings.vlanMode hsame
  have htrunks : bundle.trunks = s.trunks := congrArg VlanSettings.trunks hsame
  refine Idles.ofbundle_bind hb (Idles.require_bind ?_ ?_)
  · rw [hmode, hvlan, Bool.and_self]
    exact hrange
  · rw [changedTrunks_same hsame, hvlan, hmode]
    simp only [bne_self_eq_false, Bool.or_false]
    refine (forEachPort_idles (fun _ => vlanPortLeave_nothing) hports).thenOk ?_
    refine (forEachPort_idles (fun _ => vlanPortJoin_nothing) hports).thenOk ?_
    refine Idles.modifyBundle hb ?_
    rw [OfbundleSai.trunksRealloc_eq, ← hvlan, ← hmode, ← htrunks]

section
variable [OvsLib] [Build]

/-- The ports of the bundle are the slaves. -/
theorem ofbundlePortsReconfigure_idles (hb : o.bundles.lookup b = some bundle)
    (hsame : bundle.vlanSettings = s.vlanSettings)
    (hrange : nativeInRange s.vlanMode s.vlan = true)
    (hports : ∀ p, p ∈ bundle.ports ↔ o.isSlave s p = true)
    (hslaves : ∀ p ∈ s.slaves, ∃ port, o.ofports p = some port) :
    Idles o (ofbundlePortsReconfigure b s) := by
  have hlive : ∀ p ∈ bundle.ports, ∃ port, o.ofports p = some port := by
    intro p hp
    obtain ⟨slave, hslave, hget⟩ := isSlave_iff.mp ((hports p).mp hp)
    obtain ⟨port, hport, rfl⟩ := Option.map_eq_some_iff.mp hget
    exact ⟨port, hport⟩
  refine Idles.thenOk (Idles.ofbundle_bind hb (Idles.forEach fun p hp => ?_))
    ((vlanReconfigure_idles hb hsame hrange hlive).thenOk
      (Idles.forEach fun slave hslave => ?_))
  · -- every port is a slave
    refine Idles.gets_bind (fun o₁ h => congrFun (isSlave_of_netdevs h.netdevs) p) ?_
    rw [if_pos ((hports p).mp hp)]
    exact Idles.pure
  · -- every slave is a port
    refine Idles.gets_bind (fun o₁ h => congrFun (getOfpPort_of_netdevs h.netdevs) slave)
      (Idles.ofbundle_bind hb ?_)
    obtain ⟨port, hport⟩ := hslaves slave hslave
    have hget : o.getOfpPort slave = some slave := by simp [OfprotoSai.getOfpPort, hport]
    have hin : slave ∈ bundle.ports := (hports slave).mpr (isSlave_iff.mpr ⟨slave, hslave, hget⟩)
    rw [hget, if_pos (List.any_eq_true.mpr ⟨slave, hin, decide_eq_true rfl⟩)]
    exact Idles.pure

/-! ## The router interface -/

theorem routerIntfApply_idles {rifType : RouterIntfType} {handle : Nat} {enable : Bool}
    (hb : o.bundles.lookup b = some bundle) (hc : bundle.routerIntf.created = true)
    (hh : bundle.routerIntf.handle = handle) (he : bundle.routerIntf.enabled = enable) :
    Idles o (routerIntfApply b rifType handle enable) := by
  refine Idles.ofbundle_bind hb (Idles.thenOk ?_ (Idles.ofbundle_bind hb (Idles.thenOk ?_ ?_)))
  · rw [if_neg (by simp [hh])]
    exact Idles.pure
  · rw [if_pos hc]
    exact Idles.pure
  · refine Idles.ofbundle_bind hb ?_
    rw [if_neg (by simp [he])]
    exact Idles.pure

/-- A reconfiguration of the router interface finds what one that has succeeded leaves. -/
theorem ofbundleRouterIntfReconfigure_idles {o₀ : OfprotoSai} {port port₀ : OfportSai}
    (hslaves : s.slaves = [p]) (hport₀ : o₀.ofports p = some port₀)
    (hport : o.ofports p = some port) (hnet : o.netdevs = o₀.netdevs) (hvrf : o.type = .vrf)
    (hrun : ofbundleRouterIntfReconfigure b s o₀ = .ok (0, o₁))
    (hb : o.bundles.lookup b = some bundle)
    (hrif : o₁.bundlesBy (·.routerIntf) b = some bundle.routerIntf) :
    Idles o (ofbundleRouterIntfReconfigure b s) := by
  have hget : o.getOfpPort p = some p := by simp [OfprotoSai.getOfpPort, hport]
  have hsame := congrFun hnet p
  simp only [OfprotoSai.netdevs, hport, hport₀, Option.map_some, Option.some.injEq] at hsame
  have htype : port.netdev.type = port₀.netdev.type := congrArg (·.type) hsame
  have hid : port.netdev.netdevSaiHwIdGet = port₀.netdev.netdevSaiHwIdGet :=
    congrArg (·.netdevSaiHwIdGet) hsame
  refine Idles.gets_bind (fun _ h => h.type) (Idles.require_bind (decide_eq_true hvrf) ?_)
  refine Idles.need_bind (a := p) (by rw [hslaves]; rfl) ?_
  refine Idles.gets_bind (fun _ h => congrFun (getOfpPort_of_netdevs h.netdevs) p) ?_
  rw [hget]
  refine Idles.ofport_bind hport ?_
  rw [htype, hid]
  have happly : ∀ {rifType handle}, routerIntfHandle port₀.netdev s = some (rifType, handle) →
      Idles o (routerIntfApply b rifType handle s.enable) := fun hh => by
    obtain ⟨r, hr, hc, hh, he⟩ :=
      routerIntfApply_record (routerIntfApply_of_handle hslaves hport₀ hh hrun)
    cases hr.symm.trans hrif
    exact routerIntfApply_idles hb hc hh he
  cases hnet : port₀.netdev.type with
  | internal => exact happly (by rw [routerIntfHandle, hnet])
  | system => exact happly (by rw [routerIntfHandle, hnet])
  | vlansubint => exact Idles.pure
  | loopback =>
    -- the bundle is marked already
    refine Idles.modifyBundle hb ?_
    suffices hmark : bundle.routerIntf.isLoopback = true by
      rw [← hmark]
    obtain ⟨-, slave, hslave, hcase⟩ := ofbundleRouterIntfReconfigure_cases hrun
    rw [hslaves] at hslave
    obtain rfl : p = slave := Option.some.inj hslave
    rcases hcase with ⟨hnone, -⟩ | ⟨port', hport', hcase⟩
    · cases hnone.symm.trans hport₀
    cases hport'.symm.trans hport₀
    rcases hcase with ⟨hnet', -⟩ | ⟨-, -, bundle₀, -, rfl⟩ | ⟨rifType, handle, hh, -⟩
    · cases hnet'.symm.trans hnet
    · rw [setBundle_routerIntf] at hrif
      rw [← Option.some.inj hrif]
    · rw [routerIntfHandle, hnet] at hh
      cases hh

/-! ## The addresses -/

section
variable {isIpv6 : Bool} {ip : String} {r r' : IpRecord}

/-- The text of an address makes a host route. -/
def Programs (ip : String) (isIpv6 : Bool) : Prop := (ipHostRoute ip isIpv6).isSome

omit [Build] in
theorem ofprotoIpAdd_programs (h : ofprotoIpAdd ip isIpv6 o = .ok (0, o')) :
    Programs ip isIpv6 := by
  obtain ⟨pfx, hpfx, -⟩ := ofprotoIpAdd_hw h
  exact Option.isSome_of_eq_some hpfx

theorem ofprotoIpRemove_programs (h : ofprotoIpRemove ip isIpv6 o = .ok (0, o')) :
    Programs ip isIpv6 := by
  obtain ⟨pfx, hpfx, -⟩ := ofprotoIpRemove_hw h
  exact Option.isSome_of_eq_some hpfx

omit [Build] in
theorem ofprotoIpAdd_takes (h : Programs ip isIpv6) : Takes o (ofprotoIpAdd ip isIpv6) := by
  intro o₁ st o' _ hrun hout
  obtain ⟨pfx, o₂, hprefix, hcall⟩ := bind_ok.mp hrun
  obtain ⟨rfl, rfl⟩ := ofprotoIpPrefix_ok hprefix
  obtain ⟨hw, hadd, rfl⟩ := onHw_ok.mp hcall
  obtain ⟨pfx, hpfx⟩ := Option.isSome_iff_exists.mp h
  unfold ipHostRoute at hpfx
  rw [opsSaiRouteIpToMeAdd, hpfx] at hadd
  obtain ⟨status, hw₁, hcall, hend⟩ := bind_ok.mp hadd
  cases hend
  have htail : hw.outcomes = o₂.hw.outcomes.tail := by
    rcases Hw.call_cases hcall with ⟨-, rfl⟩ | ⟨-, rfl⟩ <;> rfl
  rw [htail]
  have := List.length_pos_iff.mpr hout
  rw [List.length_tail]
  omega

/-- An address that is found among the secondary ones. -/
def IpRecord.Found (r : IpRecord) (ip : String) : Prop :=
  ip ∈ r.secondary (OvsLib.addrIsIpv6 ip)

omit [Build] in
theorem ipSecondaryFind_iff : bundle.ipSecondaryFind ip = true ↔ bundle.ipRecord.Found ip := by
  simp [OfbundleSai.ipSecondaryFind, IpRecord.Found, OfbundleSai.ipRecord]

theorem ipPrimaryReconfigure_idlesIff {new : Option String}
    (hb : o.bundles.lookup b = some bundle) (hnew : bundle.primary isIpv6 = new)
    (hprograms : ∀ ip ∈ new, Programs ip isIpv6) :
    IdlesIff o (new = none) (ipPrimaryReconfigure b isIpv6 new) := by
  refine IdlesIff.ofbundle_bind hb ?_
  rw [hnew]
  cases new with
  | none => exact (IdlesIff.of_idles (Idles.thenOk Idles.pure Idles.pure)).congr (by simp)
  | some ip =>
    -- the address that is recorded is added once more
    have hadd : Takes o ((ofprotoIpAdd ip isIpv6).thenOk do
        modifyBundle b (OfbundleSai.setPrimary isIpv6 (some ip))
        return 0) :=
      (ofprotoIpAdd_takes (hprograms ip rfl)).thenOk
        ((setPrimary_sameButIp.mono fun _ _ => SameButIp.evolves).bind fun _ => Rel.pure _)
    refine (IdlesIff.of_takes (Takes.after ?_ hadd)).congr (by simp)
    dsimp only
    rw [if_pos rfl]
    exact Idles.pure

theorem ofbundleIpSecondaryReconfigure_idlesIff (hb : o.bundles.lookup b = some bundle)
    (hold : ∀ ip ∈ bundle.secondary isIpv6, ip ∈ s.secondary isIpv6)
    (hnew : ∀ ip ∈ s.secondary isIpv6, bundle.ipRecord.Found ip ∨ Programs ip false) :
    IdlesIff o (∀ ip ∈ s.secondary isIpv6, bundle.ipRecord.Found ip)
      (ofbundleIpSecondaryReconfigure b s isIpv6) := by
  refine IdlesIff.ofbundle_bind hb (IdlesIff.walkTable_bind fun oldIps hperm =>
    IdlesIff.walkTable_bind fun newIps hperm' => ?_)
  have hmem : ∀ ip, ip ∈ newIps ↔ ip ∈ s.secondary isIpv6 := fun ip => by
    rw [hperm'.mem_iff]
    exact List.mem_dedup
  refine (IdlesIff.thenOk (c := True) (d := ∀ ip ∈ newIps, bundle.ipRecord.Found ip)
    (IdlesIff.of_idles (Idles.forEach fun ip hip => ?_))
    (IdlesIff.forEach (fun ip hip => IdlesIff.ofbundle_bind hb ?_) fun ip => ?_) ?_).congr ?_
  · -- every address that is recorded is wanted
    have hin : (if isIpv6 then s.ip6AddressSecondary else s.ip4AddressSecondary).contains ip =
        true := List.contains_iff_mem.mpr (hold ip (hperm.mem_iff.mp hip))
    rw [if_pos hin]
    exact Idles.pure
  · by_cases hin : bundle.ipRecord.Found ip
    · rw [if_pos (ipSecondaryFind_iff.2 hin)]
      exact (IdlesIff.of_idles Idles.pure).congr (by simp [hin])
    · rw [if_neg (mt ipSecondaryFind_iff.1 hin)]
      have hprograms := (hnew ip ((hmem ip).mp hip)).resolve_left hin
      refine (IdlesIff.of_takes ((ofprotoIpAdd_takes hprograms).thenOk ?_)).congr (by simp [hin])
      exact (setSecondary_sameButIp.mono fun _ _ => SameButIp.evolves).bind fun _ => Rel.pure _
  · exact (ofbundle_rel b).bind fun _ => (Rel.pure _).ite
      (ipSecondaryAdd_sameButIp.mono fun _ _ => SameButIp.evolves)
  · exact Rel.forEach fun ip => (ofbundle_rel b).bind fun _ => (Rel.pure _).ite
      (ipSecondaryAdd_sameButIp.mono fun _ _ => SameButIp.evolves)
  · simp only [true_and, hmem]

/-- What a reconfiguration of the addresses that succeeds says about the record that it leaves. -/
structure OfprotoBundleSettings.Settles (s : OfprotoBundleSettings) (r : IpRecord) : Prop where
  primary : ∀ v, s.ipChange.primary v = true → r.primary v = s.primary v
  added : ∀ v, s.ipChange.primary v = true → ∀ ip ∈ s.primary v, Programs ip v
  secondary : ∀ v, s.ipChange.secondary v = true → ∀ ip ∈ r.secondary v, ip ∈ s.secondary v
  found : ∀ v, s.ipChange.secondary v = true → ∀ ip ∈ s.secondary v, r.Found ip ∨ Programs ip false

theorem ofbundleIpReconfigure_idlesIff (hb : o.bundles.lookup b = some bundle)
    (h : s.Settles bundle.ipRecord) :
    IdlesIff o ((∀ v, s.ipChange.primary v = true → s.primary v = none) ∧
        ∀ v, s.ipChange.secondary v = true → ∀ ip ∈ s.secondary v, bundle.ipRecord.Found ip)
      (ofbundleIpReconfigure b s) := by
  have hprimary := fun v (hc : s.ipChange.primary v = true) =>
    ipPrimaryReconfigure_idlesIff hb (h.primary v hc) (h.added v hc)
  have hsecondary := fun v (hc : s.ipChange.secondary v = true) =>
    ofbundleIpSecondaryReconfigure_idlesIff hb (h.secondary v hc) (h.found v hc)
  have hrel₂ : ∀ {v : Bool} {new : Option String},
      Rel Evolves (if s.ipChange.primary v then ipPrimaryReconfigure b v new else pure 0) :=
    Rel.ite (ipPrimaryReconfigure_sameButIp.mono fun _ _ => SameButIp.evolves) (Rel.pure _)
  have hrel₃ : ∀ {v : Bool}, Rel Evolves
      (if s.ipChange.secondary v then ofbundleIpSecondaryReconfigure b s v else pure 0) :=
    Rel.ite (ofbundleIpSecondaryReconfigure_sameButIp.mono fun _ _ => SameButIp.evolves)
      (Rel.pure _)
  refine ((IdlesIff.flagged (hprimary false)).thenOk ((IdlesIff.flagged (hprimary true)).thenOk
    ((IdlesIff.flagged (hsecondary false)).thenOk (IdlesIff.flagged (hsecondary true)) hrel₃)
    (hrel₃.thenOk hrel₃)) (hrel₂.thenOk (hrel₃.thenOk hrel₃))).congr ?_
  simp only [Bool.forall_bool]
  tauto

/-! ### The addresses after a reconfiguration -/

/-- The secondary addresses that are recorded stay recorded. -/
def RecordGrows (b : BundlePtr) (o o' : OfprotoSai) : Prop :=
  ∀ r, o.ipRecord b = some r →
    ∃ r', o'.ipRecord b = some r' ∧ ∀ v ip, ip ∈ r.secondary v → ip ∈ r'.secondary v

instance : IsPreorder OfprotoSai (RecordGrows b) where
  refl _ r hr := ⟨r, hr, fun _ _ => id⟩
  trans _ _ _ h h' r hr := by
    obtain ⟨r₁, hr₁, hgrows⟩ := h r hr
    obtain ⟨r₂, hr₂, hgrows'⟩ := h' r₁ hr₁
    exact ⟨r₂, hr₂, fun v ip hip => hgrows' v ip (hgrows v ip hip)⟩

omit [Build] in
theorem ipSecondaryAdd_grows : Rel (RecordGrows b) (ipSecondaryAdd b isIpv6 ip) := by
  refine Rel.thenOk (ofprotoIpAdd_ipRecord.mono fun o o' h r hr => ?_)
    (Rel.bind (modifyBundle_rel fun o bundle hb r hr => ?_) fun _ => Rel.pure _)
  · exact ⟨r, (congrFun h b).trans hr, fun _ _ => id⟩
  · obtain rfl := ipRecord_of_lookup_eq hr hb
    refine ⟨_, ipRecord_of_lookup ((setBundle_lookup ..).trans (if_pos rfl)), fun v ip hip => ?_⟩
    rw [setSecondary_ipRecord]
    by_cases hv : v = isIpv6
    · subst hv
      rw [IpRecord.setSecondary_secondary]
      exact List.mem_cons_of_mem _ hip
    · rwa [IpRecord.setSecondary_of_ne hv]

omit [Build] in
/-- After the last loop every new address is found, or it has been added. -/
theorem secondaryAdd_found {ips : List String} (hr : o.ipRecord b = some r)
    (h : (forEach ips fun ip => do
      let bundle ← ofbundle b
      if bundle.ipSecondaryFind ip then pure 0 else ipSecondaryAdd b isIpv6 ip) o = .ok (0, o')) :
    ∃ r', o'.ipRecord b = some r' ∧ (∀ ip ∈ ips, r'.Found ip ∨ Programs ip false) ∧
      ∀ ip, r.Found ip → r'.Found ip := by
  have hgrows : ∀ ip, Rel (RecordGrows b) (do
      let bundle ← ofbundle b
      if bundle.ipSecondaryFind ip then pure 0 else ipSecondaryAdd b isIpv6 ip) := fun _ =>
    (ofbundle_rel b).bind fun _ => (Rel.pure _).ite ipSecondaryAdd_grows
  obtain ⟨r', hr', hkept⟩ := Rel.forEach hgrows _ _ _ h r hr
  refine ⟨r', hr', fun ip hip => ?_, fun ip hip => hkept _ _ hip⟩
  obtain ⟨o₁, o₂, h₁, hturn, h₂⟩ := Rel.forEach_turn hgrows h hip
  obtain ⟨bundle, hb, hturn⟩ := ofbundle_bind.1 hturn
  split at hturn
  next hfind =>
    cases hturn
    obtain ⟨r₂, hr₂, hkept₂⟩ := h₂ _ (ipRecord_of_lookup hb)
    cases hr₂.symm.trans hr'
    exact .inl (hkept₂ _ _ (ipSecondaryFind_iff.1 hfind))
  next =>
    obtain ⟨o₃, hadd, -⟩ := thenOk_zero.mp hturn
    exact .inr (ofprotoIpAdd_programs hadd)

theorem ofbundleIpSecondaryReconfigure_found (hr : o.ipRecord b = some r)
    (h : ofbundleIpSecondaryReconfigure b s isIpv6 o = .ok (0, o')) :
    ∃ r', o'.ipRecord b = some r' ∧
      (∀ ip ∈ s.secondary isIpv6, r'.Found ip ∨ Programs ip false) ∧
      ∀ ip, r.Found ip → r'.Found ip ∨ Programs ip false := by
  obtain ⟨oldIps, newIps, o₁, o₂, hold, hmem, hr₁, hremove, hadd⟩ :=
    ofbundleIpSecondaryReconfigure_zero hr h
  have hperm : (r.secondary isIpv6).Perm (oldIps ++ []) := by
    rw [List.append_nil]
    exact hold.symm
  obtain ⟨kept, hr₂, hkept⟩ := secondaryRemove_record hr₁ hperm hremove
  obtain ⟨r', hr', hfound, hgrows⟩ := secondaryAdd_found hr₂ hadd
  refine ⟨r', hr', fun ip hip => hfound ip ((hmem ip).mpr hip), fun ip hip => ?_⟩
  by_cases hv : OvsLib.addrIsIpv6 ip = isIpv6
  · -- an address of the table that is reconfigured
    rw [IpRecord.Found, hv] at hip
    by_cases hwanted : ip ∈ s.secondary isIpv6
    · refine .inl (hgrows ip ?_)
      rw [IpRecord.Found, hv, IpRecord.setSecondary_secondary, hkept.mem_iff, List.append_nil,
        List.mem_filter]
      exact ⟨hold.mem_iff.mpr hip, decide_eq_true hwanted⟩
    · obtain ⟨o₃, o₄, -, hturn, -⟩ := Rel.forEach_turn (R := SameButIp)
        (fun _ => (Rel.pure _).ite ipSecondaryRemove_sameButIp) hremove (hold.mem_iff.mpr hip)
      rw [if_neg (by simpa using hwanted)] at hturn
      obtain ⟨o₅, hdel, -⟩ := thenOk_zero.mp hturn
      exact .inr (ofprotoIpRemove_programs hdel)
  · refine .inl (hgrows ip ?_)
    rw [IpRecord.Found, IpRecord.setSecondary_of_ne hv]
    exact hip

theorem secondaryStep_found {c : Bool} (hr : o.ipRecord b = some r)
    (h : (if c then ofbundleIpSecondaryReconfigure b s isIpv6 else pure 0) o = .ok (0, o')) :
    ∃ r', o'.ipRecord b = some r' ∧
      (c = true → ∀ ip ∈ s.secondary isIpv6, r'.Found ip ∨ Programs ip false) ∧
      ∀ ip, r.Found ip → r'.Found ip ∨ Programs ip false := by
  cases c with
  | true =>
    obtain ⟨r', hr', hfound, hkept⟩ := ofbundleIpSecondaryReconfigure_found hr h
    exact ⟨r', hr', fun _ => hfound, hkept⟩
  | false =>
    cases h
    exact ⟨r, hr, nofun, fun _ => .inl⟩

/-- A primary address of the settings has been added. -/
theorem ipPrimaryReconfigure_programs {new : Option String}
    (h : ipPrimaryReconfigure b isIpv6 new o = .ok (0, o')) : ∀ ip ∈ new, Programs ip isIpv6 := by
  rintro ip rfl
  obtain ⟨bundle, -, h⟩ := ofbundle_bind.1 h
  obtain ⟨o₁, -, hadd⟩ := thenOk_zero.mp h
  obtain ⟨o₂, hadd, -⟩ := thenOk_zero.mp hadd
  exact ofprotoIpAdd_programs hadd

omit [Build] in
theorem IpRecord.Follows.wanted (h : r.Follows s r') {v : Bool}
    (hc : s.ipChange.secondary v = true) : ∀ ip ∈ r'.secondary v, ip ∈ s.secondary v := by
  intro ip hip
  cases v with
  | false => exact ((h.secondary4 hc ip).mp hip).1
  | true => exact ((h.secondary6 hc ip).mp hip).1

omit [Build] in
/-- A secondary address of the settings is recorded if its text is of its version. -/
theorem IpRecord.Follows.recorded (h : r.Follows s r') {v : Bool}
    (hc : s.ipChange.secondary v = true) (hip : ip ∈ s.secondary v)
    (htext : OvsLib.addrIsIpv6 ip = v) : ip ∈ r'.secondary v := by
  cases v with
  | false => exact (h.secondary4 hc ip).mpr ⟨hip, .inr (.inl htext)⟩
  | true => exact (h.secondary6 hc ip).mpr ⟨hip, .inr (.inl htext)⟩

/-- A reconfiguration of the addresses that succeeds. -/
theorem ofbundleIpReconfigure_settles (hr : o.ipRecord b = some r)
    (h : ofbundleIpReconfigure b s o = .ok (0, o')) :
    ∃ r', o'.ipRecord b = some r' ∧ r.Follows s r' ∧ s.Settles r' := by
  obtain ⟨r', hr', hfollows⟩ := ofbundleIpReconfigure_record hr h
  obtain ⟨o₁, h₁, h⟩ := thenOk_zero.mp h
  obtain ⟨o₂, h₂, h⟩ := thenOk_zero.mp h
  obtain ⟨o₃, h₃, h₄⟩ := thenOk_zero.mp h
  have hr₂ := primaryStep_record (primaryStep_record hr h₁) h₂
  obtain ⟨r₃, hr₃, hfound₄, -⟩ := secondaryStep_found hr₂ h₃
  obtain ⟨r₄, hr₄, hfound₆, hkept⟩ := secondaryStep_found hr₃ h₄
  cases hr₄.symm.trans hr'
  refine ⟨r', hr', hfollows, fun v hc => ?_, fun v hc => ?_, fun v hc => hfollows.wanted hc,
    fun v hc ip hip => ?_⟩
  · rw [hfollows.primary v, if_pos hc]
  · cases v with
    | false =>
      rw [if_pos (show s.ipChange.primaryIpv4 = true from hc)] at h₁
      exact ipPrimaryReconfigure_programs h₁
    | true =>
      rw [if_pos (show s.ipChange.primaryIpv6 = true from hc)] at h₂
      exact ipPrimaryReconfigure_programs h₂
  · cases v with
    | false => exact (hfound₄ hc ip hip).elim (hkept ip) .inr
    | true => exact hfound₆ hc ip hip

/-- Nothing is left to do for the addresses once the settings have been applied to a bundle that has
recorded `r`: no primary address is given that is flagged, and a secondary address with a text of
the other version is recorded for that version. -/
structure OfprotoBundleSettings.Settled (s : OfprotoBundleSettings) (r : IpRecord) : Prop where
  primary : ∀ v, s.ipChange.primary v = true → s.primary v = none
  secondary : ∀ v, s.ipChange.secondary v = true → ∀ ip ∈ s.secondary v,
    OvsLib.addrIsIpv6 ip ≠ v →
    ip ∈ if s.ipChange.secondary (!v) then s.secondary (!v) else r.secondary (!v)

omit [Build] in
theorem IpRecord.Follows.settled_iff (h : r.Follows s r') :
    ((∀ v, s.ipChange.primary v = true → s.primary v = none) ∧
      ∀ v, s.ipChange.secondary v = true → ∀ ip ∈ s.secondary v, r'.Found ip) ↔ s.Settled r := by
  have hother : ∀ {v ip}, OvsLib.addrIsIpv6 ip = (!v) →
      (r'.Found ip ↔ ip ∈ if s.ipChange.secondary (!v) then s.secondary (!v)
        else r.secondary (!v)) := fun {v ip} htext => by
    rw [Found, htext]
    split
    next hc => exact ⟨h.wanted hc ip, fun hip => h.recorded hc hip htext⟩
    next hc => rw [h.kept _ (by simpa using hc)]
  refine ⟨fun ⟨hp, hs⟩ => ⟨hp, fun v hc ip hip htext => ?_⟩, fun hsettled =>
    ⟨hsettled.primary, fun v hc ip hip => ?_⟩⟩
  · exact (hother (Bool.eq_not.mpr htext)).mp (hs v hc ip hip)
  · by_cases htext : OvsLib.addrIsIpv6 ip = v
    · rw [Found, htext]
      exact h.recorded hc hip htext
    · exact (hother (Bool.eq_not.mpr htext)).mpr (hsettled.secondary v hc ip hip htext)

end

/-! ## Runs -/

/-- Routes and host entries change neither the ports of bundles nor their aux. -/
abbrev SameLinks (o o' : OfprotoSai) : Prop :=
  (fun o : OfprotoSai => (o.ofports, o.bundlesBy fun bundle => (bundle.ports, bundle.aux))) o' =
    (fun o : OfprotoSai => (o.ofports, o.bundlesBy fun bundle => (bundle.ports, bundle.aux))) o

omit [OvsLib] [Build] in
theorem SameLinks.inv (h : SameLinks o o') (hinv : o.links.WF ∧ o.AuxInj) :
    o'.links.WF ∧ o'.AuxInj := by
  obtain ⟨hports, hbundles⟩ := Prod.ext_iff.mp h
  have hlinks : o'.links = o.links := Links.ext
    (funext fun p => congrArg (·.bind (·.bundle)) (congrFun hports p))
    (bundlesBy_of (k := Prod.fst) hbundles fun _ => rfl)
  have haux : o'.bundlesBy (·.aux) = o.bundlesBy (·.aux) :=
    bundlesBy_of (k := Prod.snd) hbundles fun _ => rfl
  refine ⟨hlinks ▸ hinv.1, fun b b' a hb hb' => hinv.2 b b' a ?_ ?_⟩
  · rwa [← haux]
  · rwa [← haux]

section
variable {γ : Type} {f : OfbundleSai → γ}

omit [OvsLib] [Build] in
theorem onHw_bundlesBy {α : Type} {m : Exec Hw α} :
    Frame (fun o => (o.ofports, o.bundlesBy f)) (onHw m) := onHw_rel fun _ _ _ _ => rfl

omit [OvsLib] [Build] in
theorem modifyBundle_bundlesBy {g : OfbundleSai → OfbundleSai}
    (h : ∀ bundle, f (g bundle) = f bundle) :
    Frame (fun o => (o.ofports, o.bundlesBy f)) (modifyBundle b g) :=
  modifyBundle_rel fun _ bundle hb => Prod.ext rfl (setBundle_bundlesBy hb (h bundle))

/-- Routes change neither the ports nor what does not depend on the local routes of a bundle. -/
theorem l3RouteAction_bundlesBy {action : OfprotoRouteAction} {routep : OfprotoRoute}
    (hf : ∀ bundle routes, f { bundle with localRoutes := routes } = f bundle) :
    Frame (fun o => (o.ofports, o.bundlesBy f)) (l3RouteAction action routep) := by
  refine l3RouteAction_rel (fun _ => onHw_bundlesBy) onHw_bundlesBy (fun b pfx => ?_)
    fun b pfx => ?_
  · refine (ofbundle_rel b).bind fun _ => (Rel.require _ _).bind fun _ => Rel.bind (Rel.gets _) ?_
    intro vrid
    exact Rel.bind onHw_bundlesBy fun _ =>
      Rel.bind (modifyBundle_bundlesBy fun _ => hf _ _) fun _ => Rel.pure _
  · refine (ofbundle_rel b).bind fun _ => (Rel.gets _).bind fun _ => Rel.ite ?_ (Rel.pure _)
    exact Rel.thenOk onHw_bundlesBy
      (Rel.bind (modifyBundle_bundlesBy fun _ => hf _ _) fun _ => Rel.pure _)

omit [Build] in
/-- Host entries change neither the ports nor what does not depend on the neighbors of a bundle. -/
theorem NeighborCall.run_bundlesBy {aux : Nat} {c : NeighborCall}
    (hf : ∀ bundle neighbors, f { bundle with neighbors := neighbors } = f bundle) :
    Frame (fun o => (o.ofports, o.bundlesBy f)) (c.run aux) := by
  have hmodify : ∀ {b g}, Frame (fun o => (o.ofports, o.bundlesBy f)) (modifyNeighbors b g) :=
    fun {_ _} => Rel.bind (modifyBundle_bundlesBy fun _ => hf _ _) fun _ => Rel.pure _
  intro o st o' h
  cases c with
  | add ip mac =>
    obtain ⟨b, bundle, -, -, h⟩ := l3HostBundle_ok h
    refine Rel.ite (Rel.pure _) (Rel.ite hmodify ?_) _ _ _ h
    exact (hmodify.ite (Rel.pure _)).thenOk (Rel.thenOk onHw_bundlesBy hmodify)
  | delete ip =>
    obtain ⟨b, bundle, -, -, h⟩ := l3HostBundle_ok h
    dsimp only at h
    cases hfind : neighEntryHashFind ip bundle.neighbors with
    | none =>
      rw [hfind] at h
      cases h
      rfl
    | some e =>
      simp only [hfind] at h
      exact Rel.thenOk ((Rel.pure _).ite onHw_bundlesBy) hmodify _ _ _ h

end

variable [OpenswitchIdl] {aux : Nat} {port : OfportSai}

theorem HostCall.run_inv {c : HostCall} (h : c.run o = .ok (st, o'))
    (hinv : o.links.WF ∧ o.AuxInj) : o'.links.WF ∧ o'.AuxInj := by
  cases c with
  | vrf c =>
    cases c with
    | bundle c => exact BundleCall.run_inv h hinv
    | route action routep =>
      exact SameLinks.inv (l3RouteAction_bundlesBy (fun _ _ => rfl) _ _ _ h) hinv
  | host aux c => exact SameLinks.inv (NeighborCall.run_bundlesBy (fun _ _ => rfl) _ _ _ h) hinv

/-! ## The whole call -/

/-- `__bundle_set` for settings that are given, returning at the first failure. -/
def bundleSetStrict (aux : Nat) (s : OfprotoBundleSettings) : Exec OfprotoSai Int := do
  if s.name = OpenswitchIdl.DEFAULT_BRIDGE_NAME then return 0
  let b ← ofbundleLookupOrCreate aux s
  (ofbundlePortsReconfigure b s).thenOk do
    if 1 < s.slaves.length then return -1
    let type ← gets OfprotoSai.type
    if type = .vrf then
      (ofbundleRouterIntfReconfigure b s).thenOk (ofbundleIpReconfigure b s)
    else return 0

/-- The steps of `__bundle_set` with one slave when none of them fails. -/
theorem bundleSetStrict_zero (hname : s.name ≠ OpenswitchIdl.DEFAULT_BRIDGE_NAME)
    (hslaves : s.slaves = [p]) (h : bundleSetStrict aux s o = .ok (0, o')) :
    ∃ b o₁ o₂, ofbundleLookupOrCreate aux s o = .ok (b, o₁) ∧
      ofbundlePortsReconfigure b s o₁ = .ok (0, o₂) ∧
      ((o₂.type ≠ .vrf ∧ o' = o₂) ∨ ∃ o₃, o₂.type = .vrf ∧
        ofbundleRouterIntfReconfigure b s o₂ = .ok (0, o₃) ∧
        ofbundleIpReconfigure b s o₃ = .ok (0, o')) := by
  rw [bundleSetStrict, if_neg hname] at h
  obtain ⟨b, o₁, hlookup, h⟩ := bind_ok.mp h
  obtain ⟨o₂, hports, h⟩ := thenOk_zero.mp h
  rw [if_neg (by simp [hslaves]), gets_bind] at h
  refine ⟨b, o₁, o₂, hlookup, hports, ?_⟩
  split at h
  next hvrf =>
    obtain ⟨o₃, hrif, hip⟩ := thenOk_zero.mp h
    exact .inr ⟨o₃, hvrf, hrif, hip⟩
  next hvrf =>
    cases h
    exact .inl ⟨hvrf, rfl⟩

/-- A call in which nothing fails is a call of `__bundle_set`. -/
theorem bundleSet_of_strict (hslaves : s.slaves = [p]) (h : bundleSetStrict aux s o = .ok (0, o')) :
    bundleSet aux (some s) o = .ok (0, o') := by
  by_cases hname : s.name = OpenswitchIdl.DEFAULT_BRIDGE_NAME
  · rw [bundleSetStrict, if_pos hname] at h
    cases h
    rw [bundleSet, if_pos hname]
    rfl
  · obtain ⟨b, o₁, o₂, hlookup, hports, hrest⟩ := bundleSetStrict_zero hname hslaves h
    rw [bundleSet, if_neg hname, bind_of_ok hlookup, bundleApply]
    refine thenOk_zero.mpr ⟨o₂, hports, ?_⟩
    rw [if_neg (by simp [hslaves]), gets_bind]
    rcases hrest with ⟨hvrf, rfl⟩ | ⟨o₃, hvrf, hrif, hip⟩
    · rw [if_neg hvrf]
      rfl
    · rw [if_pos hvrf, bind_of_ok hrif, bind_of_ok hip]
      rfl

/-- The addresses recorded in the bundle with the given aux, if there is one. -/
def OfprotoSai.ipRecordOf (aux : Nat) (o : OfprotoSai) : IpRecord :=
  match o.bundles.entries.find? fun e => e.2.aux = aux with
  | some e => e.2.ipRecord
  | none => ⟨fun _ => none, fun _ => []⟩

omit [OvsLib] [Build] [OpenswitchIdl] in
theorem ofbundleLookup_apply (h0 : aux ≠ 0) : ofbundleLookup aux o =
    .ok ((o.bundles.entries.find? fun e => e.2.aux = aux).map fun e => e.1, o) := by
  rw [ofbundleLookup, bind_of_ok (require_ok.mpr ⟨decide_eq_true h0, rfl⟩)]
  rfl

omit [OvsLib] [Build] [OpenswitchIdl] in
theorem ofbundleLookupOrCreate_ipRecord (h : ofbundleLookupOrCreate aux s o = .ok (b, o')) :
    aux ≠ 0 ∧ o'.ipRecord b = some (o.ipRecordOf aux) := by
  obtain ⟨found, o₁, hlookup, h⟩ := bind_ok.mp h
  have h0 : aux ≠ 0 := of_decide_eq_true (require_bind.mp hlookup).1
  refine ⟨h0, ?_⟩
  cases hlookup.symm.trans (ofbundleLookup_apply h0)
  unfold OfprotoSai.ipRecordOf
  cases hfind : o.bundles.entries.find? fun e => e.2.aux = aux with
  | some e =>
    rw [hfind] at h
    cases h
    exact ipRecord_of_lookup (AList.mem_lookup_iff.mpr (List.mem_of_find?_eq_some hfind))
  | none =>
    rw [hfind] at h
    obtain ⟨cs, -, rfl⟩ := ofbundleCreate_ok h
    refine (ipRecord_of_lookup ((setBundle_lookup ..).trans (if_pos rfl))).trans (congrArg some ?_)
    refine IpRecord.mk.injEq .. |>.mpr ⟨funext fun v => ?_, funext fun v => ?_⟩ <;> cases v <;> rfl

omit [OvsLib] [Build] [OpenswitchIdl] in
/-- A bundle with the given aux is the one that is looked up. -/
theorem ofbundleLookupOrCreate_found (h0 : aux ≠ 0) (ha : o.AuxInj)
    (hb : o.bundlesBy (·.aux) b = some aux) : ofbundleLookupOrCreate aux s o = .ok (b, o) := by
  obtain ⟨-, hsome, hnone⟩ := ofbundleLookup_ok (ofbundleLookup_apply (o := o) h0)
  rw [ofbundleLookupOrCreate, bind_of_ok (ofbundleLookup_apply h0)]
  cases hfind : (o.bundles.entries.find? fun e => e.2.aux = aux).map fun e => e.1 with
  | none => exact absurd hb (hnone hfind b)
  | some b' =>
    rw [ha b' b aux (hsome b' hfind) hb]
    rfl

/-- What the ports of a bundle, its VLAN settings and its aux are once its ports have been
reconfigured. -/
structure PortsSet (o : OfprotoSai) (b : BundlePtr) (aux : Nat) (s : OfprotoBundleSettings)
    (bundle : OfbundleSai) : Prop where
  lookup : o.bundles.lookup b = some bundle
  aux : bundle.aux = aux
  vlanSettings : bundle.vlanSettings = s.vlanSettings
  ports : ∀ p, p ∈ bundle.ports ↔ o.isSlave s p = true

omit [OpenswitchIdl] in
theorem ofbundlePortsReconfigure_portsSet (hl : o.links.WF)
    (haux : o.bundlesBy (·.aux) b = some aux)
    (h : ofbundlePortsReconfigure b s o = .ok (0, o')) : ∃ bundle, PortsSet o' b aux s bundle := by
  have hevolves := ofbundlePortsReconfigure_evolves _ _ _ h
  have howner := ofbundlePortsReconfigure_owner hl h
  have hl' := ofbundlePortsReconfigure_wf _ _ _ h hl
  obtain ⟨bundle, hb⟩ := ofbundlePortsReconfigure_live h
  refine ⟨bundle, hb, ?_, ?_, fun p => ?_⟩
  · have := hevolves.aux b bundle.aux (by simp [bundlesBy, hb])
    exact Option.some.inj (this.symm.trans haux)
  · -- the slaves are added after the VLANs have been set
    obtain ⟨o₁, hremove, h⟩ := thenOk_zero.mp h
    obtain ⟨o₂, hvlan, hadd⟩ := thenOk_zero.mp h
    obtain ⟨bundle₁, o₃, o₄, -, -, -, rfl⟩ := vlanReconfigure_zero hvlan
    have hshrink : Rel (BundlesShrink OfbundleSai.vlanSettings) (portsAdd b s) :=
      portsAdd_rel fun _ => ofbundlePortAdd_shrink fun _ _ => rfl
    obtain ⟨bundle₂, hb₂, hsame⟩ := (hshrink _ _ _ hadd).lookup hb
    rw [setBundle_lookup, if_pos rfl, Option.some.injEq] at hb₂
    rw [hsame, ← hb₂]
    rfl
  · rw [hl'.mem_iff (links_members hb), howner p, isSlave_of_netdevs hevolves.netdevs]

/-- The fields of a bundle that this is about. -/
def PortsSet.fields (bundle : OfbundleSai) : Nat × VlanSettings × List OfpPort :=
  (bundle.aux, bundle.vlanSettings, bundle.ports)

omit [OvsLib] [Build] [OpenswitchIdl] in
theorem PortsSet.withOutcomes {bundle : OfbundleSai} {outcomes : List SaiStatus}
    (h : PortsSet o b aux s bundle) : PortsSet (o.withOutcomes outcomes) b aux s bundle :=
  ⟨h.lookup, h.aux, h.vlanSettings, h.ports⟩

omit [OvsLib] [Build] [OpenswitchIdl] in
theorem PortsSet.of_same {bundle : OfbundleSai} (h : PortsSet o b aux s bundle)
    (hnet : o'.netdevs = o.netdevs)
    (hsame : o'.bundlesBy PortsSet.fields = o.bundlesBy PortsSet.fields) :
    ∃ bundle', PortsSet o' b aux s bundle' := by
  have := congrFun hsame b
  rw [bundlesBy, bundlesBy, h.lookup, Option.map_some] at this
  obtain ⟨bundle', hb', hfields⟩ := Option.map_eq_some_iff.mp this
  simp only [fields, Prod.mk.injEq] at hfields
  obtain ⟨haux, hvlan, hports⟩ := hfields
  refine ⟨bundle', hb', haux.trans h.aux, hvlan.trans h.vlanSettings, fun p => ?_⟩
  rw [hports, h.ports p, isSlave_of_netdevs hnet]

omit [OpenswitchIdl] in
/-- The steps of a call on a bundle that is as the call before has left it. -/
theorem bundleApply_idlesIff {bundle : OfbundleSai} {c : Prop} (hset : PortsSet o b aux s bundle)
    (hslaves : s.slaves = [p]) (hport : o.ofports p = some port) (hwf : s.vlanSettings.WF)
    (hrif : o.type = .vrf → Idles o (ofbundleRouterIntfReconfigure b s))
    (hip : o.type = .vrf → IdlesIff o c (ofbundleIpReconfigure b s)) :
    IdlesIff o (o.type = .vrf → c) (bundleApply b s) := by
  have hlive : ∀ slave ∈ s.slaves, ∃ port, o.ofports slave = some port := by
    rw [hslaves]
    rintro slave hslave
    obtain rfl := List.mem_singleton.mp hslave
    exact ⟨port, hport⟩
  have hports := ofbundlePortsReconfigure_idles hset.lookup hset.vlanSettings
    (nativeInRange_of_wf hwf) hset.ports hlive
  have hrest : IdlesIff o (o.type = .vrf → c) (do
      if 1 < s.slaves.length then return -1
      let type ← gets OfprotoSai.type
      if type = .vrf then
        let _ ← ofbundleRouterIntfReconfigure b s
        let _ ← ofbundleIpReconfigure b s
        return 0
      else return 0) := by
    rw [if_neg (by simp [hslaves])]
    refine IdlesIff.read_bind (a := o.type) (fun o₁ h => by rw [gets_apply, h.type]) ?_
    by_cases hvrf : o.type = .vrf
    · rw [if_pos hvrf]
      refine (IdlesIff.after (c := c) (hrif hvrf) ⟨fun hc => ?_, fun hc => ?_⟩).congr
        (by simp [hvrf])
      · exact ((hip hvrf).idles hc).drop Idles.pure
      · exact ((hip hvrf).takes hc).bind fun _ => Rel.pure _
    · rw [if_neg hvrf]
      exact (IdlesIff.of_idles Idles.pure).congr (by simp [hvrf])
  refine ⟨fun hc => hports.thenOk (hrest.idles hc), fun hc => ?_⟩
  exact Takes.after hports (hrest.takes hc)

omit [OvsLib] [Build] [OpenswitchIdl] in
theorem OfprotoSai.AuxInj.of_bundlesBy (ha : o.AuxInj)
    (h : o'.bundlesBy (·.aux) = o.bundlesBy (·.aux)) : o'.AuxInj := fun b b' a hb hb' =>
  ha b b' a (h ▸ hb) (h ▸ hb')

theorem bundleSet_idlesIff_of {bundle : OfbundleSai} {c : Prop}
    (hname : s.name ≠ OpenswitchIdl.DEFAULT_BRIDGE_NAME) (h0 : aux ≠ 0) (ha : o.AuxInj)
    (hset : PortsSet o b aux s bundle) (hslaves : s.slaves = [p]) (hport : o.ofports p = some port)
    (hwf : s.vlanSettings.WF)
    (hrif : o.type = .vrf → Idles o (ofbundleRouterIntfReconfigure b s))
    (hip : o.type = .vrf → IdlesIff o c (ofbundleIpReconfigure b s)) :
    IdlesIff o (o.type = .vrf → c) (bundleSet aux (some s)) := by
  rw [bundleSet, if_neg hname]
  refine IdlesIff.read_bind (fun o₁ h => ofbundleLookupOrCreate_found h0 ?_ ?_)
    (bundleApply_idlesIff hset hslaves hport hwf hrif hip)
  · exact ha.of_bundlesBy h.bundlesBy
  · rw [h.bundlesBy, OfprotoSai.bundlesBy, hset.lookup, Option.map_some, hset.aux]

/-- A call in which nothing fails, and the call after it. -/
theorem bundleSet_idlesIff (hl : o.links.WF) (ha : o.AuxInj)
    (hname : s.name ≠ OpenswitchIdl.DEFAULT_BRIDGE_NAME) (hslaves : s.slaves = [p])
    (hport : o.ofports p = some port) (hwf : s.vlanSettings.WF)
    (h : bundleSetStrict aux s o = .ok (0, o₁)) (outcomes : List SaiStatus) :
    IdlesIff (o₁.withOutcomes outcomes) (o.type = .vrf → s.Settled (o.ipRecordOf aux))
      (bundleSet aux (some s)) := by
  obtain ⟨b, o₂, o₃, hlookup, hports, hrest⟩ := bundleSetStrict_zero hname hslaves h
  obtain ⟨hl₂, ha₂, hnet₂⟩ := ofbundleLookupOrCreate_inv hl ha hlookup
  obtain ⟨h0, hr₂⟩ := ofbundleLookupOrCreate_ipRecord hlookup
  have hfound : o₂.bundlesBy (·.aux) b = some aux ∧ o₂.type = o.type := by
    rcases ofbundleLookupOrCreate_ok hlookup with ⟨rfl, haux⟩ | ⟨-, hcreate⟩
    · exact ⟨haux, rfl⟩
    · obtain ⟨cs, -, rfl⟩ := ofbundleCreate_ok hcreate
      refine ⟨?_, rfl⟩
      rw [bundlesBy, setBundle_lookup, if_pos rfl]
      rfl
  have hevolves := ofbundlePortsReconfigure_evolves _ _ _ hports
  have htype : o₃.type = o.type := hevolves.type.trans hfound.2
  have ha₃ : o₃.AuxInj := hevolves.auxInj ha₂
  have hnet₃ : o₃.netdevs = o.netdevs := hevolves.netdevs.trans hnet₂
  obtain ⟨port₃, hport₃⟩ := exists_port_of_netdevs hnet₃ hport
  obtain ⟨bundle₃, hset₃⟩ := ofbundlePortsReconfigure_portsSet hl₂ hfound.1 hports
  rcases hrest with ⟨hvrf, rfl⟩ | ⟨o₄, hvrf, hrif, hip⟩
  · -- an ofproto that is no VRF
    refine (bundleSet_idlesIff_of (c := True) hname h0 (o := o₁.withOutcomes outcomes) ha₃
      hset₃.withOutcomes hslaves hport₃ hwf (fun h => absurd h hvrf)
      fun h => absurd h hvrf).congr ?_
    rw [← htype]
    exact iff_of_true (fun _ => trivial) fun h => absurd h hvrf
  · have hrif' := ofbundleRouterIntfReconfigure_sameButRif _ _ _ hrif
    have hip' := ofbundleIpReconfigure_sameButIp _ _ _ hip
    have hnet₁ : o₁.netdevs = o₃.netdevs := hip'.evolves.netdevs.trans hrif'.evolves.netdevs
    have hsame := (bundlesBy_of (k := PortsSet.fields) hip'.bundles fun _ => rfl).trans
      (bundlesBy_of (k := PortsSet.fields) hrif'.bundles fun _ => rfl)
    have ha₁ : o₁.AuxInj := hip'.evolves.auxInj (hrif'.evolves.auxInj ha₃)
    obtain ⟨bundle, hset⟩ := hset₃.of_same hnet₁ hsame
    obtain ⟨port₁, hport₁⟩ := exists_port_of_netdevs hnet₁ hport₃
    have htype₁ : o₁.type = o.type := hip'.type.trans (hrif'.type.trans htype)
    -- the record of the addresses before and after
    obtain ⟨bundle₂, hb₂, hconfig⟩ :=
      (ofbundlePortsReconfigure_configsShrink _ _ _ hports).lookup hset₃.lookup
    have hr₄ : o₄.ipRecord b = some (o.ipRecordOf aux) := by
      have hsame : o₄.ipRecord = o₃.ipRecord :=
        bundlesBy_of (k := OfbundleSai.ipRecord) hrif'.bundles fun _ => rfl
      rw [hsame, ← hr₂, ipRecord_of_lookup hset₃.lookup, ipRecord_of_lookup hb₂]
      exact congrArg (fun c => some c.ipRecord) hconfig
    obtain ⟨r', hr', hfollows, hsettles⟩ := ofbundleIpReconfigure_settles hr₄ hip
    obtain rfl := ipRecord_of_lookup_eq hr' hset.lookup
    have hrif₄ : o₄.bundlesBy (·.routerIntf) b = some bundle.routerIntf := by
      rw [← hip'.routerIntf, OfprotoSai.bundlesBy, hset.lookup, Option.map_some]
    have hagain : o₁.type = .vrf →
        Idles (o₁.withOutcomes outcomes) (ofbundleRouterIntfReconfigure b s) := fun hvrf₁ =>
      ofbundleRouterIntfReconfigure_idles (o := o₁.withOutcomes outcomes) hslaves hport₃ hport₁
        hnet₁ hvrf₁ hrif hset.lookup hrif₄
    have hips := (ofbundleIpReconfigure_idlesIff (o := o₁.withOutcomes outcomes) hset.lookup
      hsettles).congr hfollows.settled_iff
    refine (bundleSet_idlesIff_of hname h0 (o := o₁.withOutcomes outcomes) ha₁ hset.withOutcomes
      hslaves hport₁ hwf hagain fun _ => hips).congr ?_
    rw [← htype₁]
    rfl

/-- `__bundle_set` that returns zero has not failed when no call for router interfaces and addresses
has, and no local route stays. -/
theorem bundleSetStrict_of_succeeding (hslaves : s.slaves = [p]) (hport : o.ofports p = some port)
    (hcalls : (Calls.bundleSet aux s).Succeeding o)
    (hlocals : ∀ b o₁ o₂ handle, ofbundleLookupOrCreate aux s o = .ok (b, o₁) →
      ofbundlePortsReconfigure b s o₁ = .ok (0, o₂) → ¬o₂.LocalsStay b handle)
    (h : bundleSet aux (some s) o = .ok (0, o')) : bundleSetStrict aux s o = .ok (0, o') := by
  have hclean : (Calls.bundleSet aux s).Clean o :=
    ((Calls.bundleSet_drops o 0 o' (by rwa [Calls.bundleSet_prog])).mp hcalls).2
  by_cases hname : s.name = OpenswitchIdl.DEFAULT_BRIDGE_NAME
  · rw [bundleSet, if_pos hname] at h
    rw [bundleSetStrict, if_pos hname]
    exact h
  rw [bundleSet, if_neg hname] at h
  obtain ⟨b, o₁, hlookup, h⟩ := bind_ok.mp h
  rw [bundleSetStrict, if_neg hname, bind_of_ok hlookup]
  rw [Calls.bundleSet, if_neg hname] at hclean
  have hclean := (Traced.clean_quiet_bind hlookup).mp hclean
  have hsame : o₁.type = o.type ∧ o₁.ofports = o.ofports := by
    rcases ofbundleLookupOrCreate_ok hlookup with ⟨rfl, -⟩ | ⟨-, hcreate⟩
    · exact ⟨rfl, rfl⟩
    · obtain ⟨cs, -, rfl⟩ := ofbundleCreate_ok hcreate
      exact ⟨rfl, rfl⟩
  by_cases hvrf : o₁.type = .vrf
  · obtain ⟨o₂, st₁, o₃, st₂, hports, hvrf₂, hrif, hip⟩ := bundleApply_vrf hvrf hslaves h
    have hnet := (ofbundlePortsReconfigure_evolves _ _ _ hports).netdevs
    rw [← hsame.2] at hport
    obtain ⟨port₂, hport₂⟩ := exists_port_of_netdevs hnet hport
    obtain ⟨rfl, hstay⟩ := bundleApply_clean hvrf₂ hslaves hport₂ hports hrif hip hclean
    have h0 : st₁ = 0 := by
      obtain ⟨-, slave, hslave, hcase⟩ := ofbundleRouterIntfReconfigure_cases hrif
      rw [hslaves] at hslave
      obtain rfl : p = slave := Option.some.inj hslave
      rcases hcase with ⟨hnone, -⟩ | ⟨port', hport', hcase⟩
      · cases hnone.symm.trans hport₂
      cases hport'.symm.trans hport₂
      rcases hcase with ⟨-, h0, -⟩ | ⟨-, h0, -⟩ | ⟨rifType, handle, hh, -⟩
      · exact h0
      · exact h0
      · exact (hstay rifType handle hh).resolve_right (hlocals b o₁ o₂ handle hlookup hports)
    subst h0
    refine thenOk_zero.mpr ⟨o₂, hports, ?_⟩
    rw [if_neg (by simp [hslaves]), gets_bind, if_pos hvrf₂]
    exact thenOk_zero.mpr ⟨o₃, hrif, hip⟩
  · obtain ⟨o₂, hports, h⟩ := thenOk_zero.mp h
    have hvrf₂ : o₂.type ≠ .vrf := by
      rwa [(ofbundlePortsReconfigure_evolves _ _ _ hports).type]
    rw [if_neg (by simp [hslaves]), gets_bind, if_neg hvrf₂] at h
    refine thenOk_zero.mpr ⟨o₂, hports, ?_⟩
    rw [if_neg (by simp [hslaves]), gets_bind, if_neg hvrf₂]
    exact h

/-- **Applying the same settings twice**: after a call of `__bundle_set` in which nothing has
failed, the same call takes no outcome, so that it issues no call to the hardware, and changes
nothing, exactly if there is nothing left to do for the addresses. In an ofproto that is no VRF
there never is. -/
theorem bundleSet_again_iff {type : OfprotoType} {vrid : Nat}
    {ofports : OfpPort → Option OfportSai} {hw : Hw} (hnew : Unbundled ofports)
    (H : Reaches (fun _ _ => True) HostCall.run (.new type vrid ofports hw) o)
    (hslaves : s.slaves = [p]) (hport : o.ofports p = some port) (hwf : s.vlanSettings.WF)
    (h : bundleSetStrict aux s o = .ok (0, o₁)) :
    bundleSet aux (some s) o = .ok (0, o₁) ∧
      ((∀ outcomes, ∃ o₂, bundleSet aux (some s) (o₁.withOutcomes outcomes) = .ok (0, o₂) ∧
          Alike (o₁.withOutcomes outcomes) o₂) ↔
        s.name = OpenswitchIdl.DEFAULT_BRIDGE_NAME ∨ o.type ≠ .vrf ∨
          s.Settled (o.ipRecordOf aux)) := by
  refine ⟨bundleSet_of_strict hslaves h, ?_⟩
  obtain ⟨hl, ha⟩ := H.invariant (I := fun o => o.links.WF ∧ o.AuxInj)
    (fun _ _ _ _ _ => HostCall.run_inv) (new_inv hnew)
  by_cases hname : s.name = OpenswitchIdl.DEFAULT_BRIDGE_NAME
  · refine iff_of_true (fun outcomes => ⟨_, ?_, refl_of Alike _⟩) (.inl hname)
    rw [bundleSet, if_pos hname]
    rfl
  have hiff := bundleSet_idlesIff hl ha hname hslaves hport hwf h
  have hcond : (s.name = OpenswitchIdl.DEFAULT_BRIDGE_NAME ∨ o.type ≠ .vrf ∨
      s.Settled (o.ipRecordOf aux)) ↔ (o.type = .vrf → s.Settled (o.ipRecordOf aux)) := by
    tauto
  rw [hcond]
  constructor
  · intro hagain
    by_contra hc
    obtain ⟨o₂, hrun, halike⟩ := hagain [.success]
    have hsome : (o₁.withOutcomes [.success]).hw.outcomes ≠ [] := List.cons_ne_nil _ _
    have htakes := (hiff [.success]).takes hc _ _ _ (refl_of Alike _) hrun hsome
    rw [halike.outcomes] at htakes
    exact lt_irrefl _ htakes
  · intro hc outcomes
    obtain ⟨st, o₂, hrun, rfl, halike⟩ := (hiff outcomes).idles hc _ (refl_of Alike _)
    exact ⟨o₂, hrun, halike⟩

end

/-! ### Examples -/

section
attribute [local instance] sampleOvs sampleBuild sampleIdl

/-- Port 1 in access mode for VLAN 2, with a secondary address. -/
def secondarySettings : OfprotoBundleSettings :=
  { accessSettings 2 with
    ipChange := ⟨false, false, true, false⟩, ip4AddressSecondary := ["10.0.0.2/24"] }

/-- The secondary address is found in its table. -/
theorem bundleSet_again_iff_secondary :
    ∃ o₁, bundleSetStrict 1 secondarySettings (.new .vrf 0 samplePorts .reset) = .ok (0, o₁) ∧
      ∀ outcomes, ∃ o₂,
        bundleSet 1 (some secondarySettings) (o₁.withOutcomes outcomes) = .ok (0, o₂) ∧
        Alike (o₁.withOutcomes outcomes) o₂ := by
  obtain ⟨o₁, h⟩ := result_eq_some.mp (show result (bundleSetStrict 1 secondarySettings)
    (.new .vrf 0 samplePorts .reset) = some 0 by decide +kernel)
  have hwf : secondarySettings.vlanSettings.WF := ⟨by decide, by decide, rfl⟩
  have hsettled : secondarySettings.Settled
      (OfprotoSai.ipRecordOf 1 (.new .vrf 0 samplePorts .reset)) := ⟨by decide, by decide⟩
  exact ⟨o₁, h, (bundleSet_again_iff (p := 1) samplePorts_unbundled .refl rfl rfl hwf h).2.mpr
    (.inr (.inr hsettled))⟩

/-- The primary address is added once more. -/
theorem bundleSet_not_again :
    ∃ o₁, bundleSetStrict 1 primarySettings (.new .vrf 0 samplePorts .reset) = .ok (0, o₁) ∧
      ¬∀ outcomes, ∃ o₂,
        bundleSet 1 (some primarySettings) (o₁.withOutcomes outcomes) = .ok (0, o₂) ∧
        Alike (o₁.withOutcomes outcomes) o₂ := by
  obtain ⟨o', hrun⟩ := result_eq_some.mp (show result (do
    let st₁ ← bundleSetStrict 1 primarySettings
    modify (OfprotoSai.withOutcomes [.success])
    let st₂ ← bundleSet 1 (some primarySettings)
    let left ← gets fun o => o.hw.outcomes
    pure (st₁, st₂, left)) (.new .vrf 0 samplePorts .reset) = some (0, 0, []) by decide +kernel)
  obtain ⟨st₁, o₁, h, hrun⟩ := bind_ok.mp hrun
  rw [modify_bind] at hrun
  obtain ⟨st₂, o₂, hagain, hend⟩ := bind_ok.mp hrun
  rw [gets_bind, pure_apply] at hend
  simp only [Except.ok.injEq, Prod.mk.injEq] at hend
  obtain ⟨⟨rfl, -, hleft⟩, -⟩ := hend
  refine ⟨o₁, h, fun hall => ?_⟩
  obtain ⟨o₃, hrun, halike⟩ := hall [.success]
  cases hagain.symm.trans hrun
  cases hleft.symm.trans halike.outcomes

end

end SwitchdSai
