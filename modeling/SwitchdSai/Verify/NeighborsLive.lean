import SwitchdSai.Verify.Configs
import SwitchdSai.Verify.LocalRoutes
import SwitchdSai.Verify.Neighbors

/-!
# The neighbor caches of bundles over whole runs

Every bundle caches the neighbors on its own router interface. Deleting an interface deletes the
neighbors on it, but no operation empties the cache of the bundle. In a run the caches mirror the
hardware as long as no settings take the interface of a bundle away whose cache has an entry with a
MAC (`neighbors_survive_of_safe`).
-/

namespace SwitchdSai

open Exec OfprotoSai

/-! ## The hardware -/

namespace Hw

/-- The neighbors on an interface, if there is one. -/
def neighborsOn (hw : Hw) : Option Nat → SxIpAddr → Option EthAddr
  | some rif => hw.neighbors rif
  | none => fun _ => none

/-- A neighbor is on an interface that exists. -/
def NeighborsLive (hw : Hw) : Prop :=
  ∀ rif addr eth, hw.neighbors rif addr = some eth → rif ∈ hw.routerIntfs

end Hw

section
variable {hw hw' : Hw} {st : Int} {vrid handle rif rifHandle : Nat} {type : RouterIntfType}

theorem callIf_neighbors {valid : Hw → Bool} {effect : Hw → Hw}
    (he : ∀ hw, (effect hw).neighbors = hw.neighbors) :
    Frame Hw.neighbors (Hw.callIf valid effect) :=
  Hw.callIf_rel (fun _ => rfl) fun hw => he hw.tick

theorem bindCounter_neighbors {counter : Option Nat} (hw : Hw) :
    (hw.bindCounter rif counter).neighbors = hw.neighbors := by
  unfold Hw.bindCounter
  split <;> rfl

theorem choose_neighbors : Frame Hw.neighbors Hw.choose := fun _ _ _ h => by
  cases h
  rfl

theorem intfParamsIfc_neighbors : Frame Hw.neighbors (intfParamsIfc type handle) := by
  cases type with
  | port =>
    exact (Rel.gets _).bind fun _ => Rel.bind (callIf_neighbors fun _ => rfl) fun _ =>
      (Rel.require _ _).bind fun _ => Rel.pure _
  | vlan => exact Rel.pure _

theorem opsSaiRouterIntfCreate_neighbors :
    Frame Hw.neighbors (opsSaiRouterIntfCreate vrid type handle rifHandle) := by
  have hcall : ∀ {effect : Hw → Hw}, (∀ hw, (effect hw).neighbors = hw.neighbors) →
      Frame Hw.neighbors (Hw.call effect) := fun he => callIf_neighbors he
  refine Rel.bind intfParamsIfc_neighbors fun ifc => (hcall fun _ => rfl).bind fun _ =>
    (Rel.pure _).ite ?_
  refine Rel.bind (Rel.bind choose_neighbors fun _ => (Rel.gets _).bind fun _ =>
    Rel.bind (hcall fun _ => rfl) fun _ => Rel.pure _) fun _ => (Rel.pure _).ite ?_
  refine Rel.bind (Rel.bind choose_neighbors fun _ => (Rel.gets _).bind fun _ =>
    Rel.bind (hcall fun _ => rfl) fun _ => Rel.pure _) fun _ => (Rel.pure _).ite ?_
  refine Rel.bind (callIf_neighbors bindCounter_neighbors) fun _ => (Rel.pure _).ite ?_
  refine (Rel.gets _).bind fun _ => (Rel.require _ _).bind fun _ => ?_
  exact Rel.bind (Rel.modify fun _ => rfl) fun _ => Rel.pure _

theorem opsSaiRouterIntfSetState_neighbors {state : Bool} :
    Frame Hw.neighbors (opsSaiRouterIntfSetState rifHandle state) := by
  refine (Rel.gets _).bind fun _ => (Rel.need _ _).bind fun _ => Rel.bind ?_ fun _ => Rel.pure _
  refine callIf_neighbors fun hw => ?_
  split <;> rfl

/-- The neighbors on an interface go with it. -/
theorem opsSaiRouterIntfRemove_neighbors
    (h : opsSaiRouterIntfRemove rifHandle hw = .ok (st, hw')) :
    hw'.neighbors = if st = 0 then Function.update hw.neighbors rifHandle fun _ => none
      else hw.neighbors := by
  have hdestroy : ∀ c, Frame Hw.neighbors (sxRouterCounterDestroy c) := fun _ =>
    callIf_neighbors fun _ => rfl
  have hget : ∀ r, Frame Hw.neighbors (sxRouterInterfaceGet r) := fun _ =>
    callIf_neighbors fun _ => rfl
  rw [opsSaiRouterIntfRemove, gets_bind] at h
  obtain ⟨routerIntf, hfound, h⟩ := need_bind.mp h
  have hid : routerIntf.rifId = rifHandle := of_decide_eq_true (List.find?_some hfound :)
  obtain ⟨s₁, hw₁, h₁, h⟩ := bind_ok.mp h
  have hn₁ : hw₁.neighbors = hw.neighbors := callIf_neighbors bindCounter_neighbors _ _ _ h₁
  rcases orError_ok h with ⟨hs, hend⟩ | ⟨rfl, h⟩
  · cases hend
    rw [if_neg (sxError2Errno_ne_zero hs), hn₁]
  obtain ⟨s₂, hw₂, h₂, h⟩ := bind_ok.mp h
  have hn₂ : hw₂.neighbors = hw₁.neighbors := hdestroy _ _ _ _ h₂
  rcases orError_ok h with ⟨hs, hend⟩ | ⟨rfl, h⟩
  · cases hend
    rw [if_neg (sxError2Errno_ne_zero hs), hn₂, hn₁]
  obtain ⟨s₃, hw₃, h₃, h⟩ := bind_ok.mp h
  have hn₃ : hw₃.neighbors = hw₂.neighbors := hget _ _ _ _ h₃
  rcases orError_ok h with ⟨hs, hend⟩ | ⟨rfl, h⟩
  · cases hend
    rw [if_neg (sxError2Errno_ne_zero hs), hn₃, hn₂, hn₁]
  obtain ⟨s₄, hw₄, h₄, h⟩ := bind_ok.mp h
  rcases Hw.callIf_cases h₄ with ⟨rfl, -, rfl⟩ | ⟨hs, rfl⟩
  · rcases orError_ok h with ⟨hs, -⟩ | ⟨-, h⟩
    · exact absurd rfl hs
    rw [modify_bind] at h
    cases h
    rw [if_pos rfl, ← hn₁, ← hn₂, ← hn₃, ← hid]
    rfl
  · rcases orError_ok h with ⟨-, hend⟩ | ⟨hs', -⟩
    · cases hend
      rw [if_neg (sxError2Errno_ne_zero hs), ← hn₁, ← hn₂, ← hn₃]
      rfl
    · exact absurd hs' hs

end

/-! ## The invariant -/

/-- The router interface of a bundle and the neighbors it caches there. -/
def OfbundleSai.cache (bundle : OfbundleSai) : Option Nat × List NeighborEntry :=
  (bundle.rif, bundle.neighbors)

variable {o o' : OfprotoSai} {b : BundlePtr} {bundle : OfbundleSai} {p : OfpPort} {aux : Nat}
  {s : OfprotoBundleSettings} {st : Int} {D : BundlePtr → Prop} {l : List NeighborEntry}

section
variable [OvsLib]

/-- Local routes and neighbors are on existing interfaces, and the cache of each bundle in `D`
mirrors the neighbors on its interface. -/
structure NeighborsOk (D : BundlePtr → Prop) (o : OfprotoSai) : Prop where
  locals : LocalRoutesOk o
  live : o.hw.NeighborsLive
  caches : ∀ b bundle, D b → o.bundles.lookup b = some bundle →
    CacheOk bundle.neighbors (o.hw.neighborsOn bundle.rif)

/-- Without a MAC in the cache, there is no neighbor to mirror. -/
theorem CacheOk.of_empty (hl : UniqueIps l) (h : ∀ e ∈ l, e.macAddress = "") :
    CacheOk l fun _ => none := by
  refine ⟨hl, fun e he hmac => absurd (h e he) hmac, ⟨fun e he addr eth hrow => ?_, ?_⟩⟩
  · exact absurd (h e he) (NeighborEntry.row_eq_some.mp hrow).1
  · intro addr eth hnone
    cases hnone

omit [OvsLib] in
/-- No neighbor has changed, no interface has gone, and each bundle that is not new has the
interface and the cache it had. -/
structure CachesShrink (o o' : OfprotoSai) : Prop where
  neighbors : o'.hw.neighbors = o.hw.neighbors
  rifs : ∀ r ∈ o.hw.routerIntfs, r ∈ o'.hw.routerIntfs
  caches : ∀ b c, o'.bundlesBy OfbundleSai.cache b = some c →
    c = (none, []) ∨ o.bundlesBy OfbundleSai.cache b = some c

omit [OvsLib] in
instance : IsPreorder OfprotoSai CachesShrink where
  refl _ := ⟨rfl, fun _ => id, fun _ _ => .inr⟩
  trans _ _ _ h h' := ⟨h'.neighbors.trans h.neighbors, fun r hr => h'.rifs r (h.rifs r hr),
    fun b c hc => (h'.caches b c hc).elim .inl (h.caches b c)⟩

theorem CachesShrink.ok (h : CachesShrink o o') (hlocals : LocalRoutesOk o')
    (hok : NeighborsOk D o) : NeighborsOk D o' := by
  refine ⟨hlocals, fun rif addr eth hn => h.rifs rif (hok.live rif addr eth (h.neighbors ▸ hn)),
    fun b bundle hD hb => ?_⟩
  have hon : o'.hw.neighborsOn = o.hw.neighborsOn := by
    funext r
    cases r with
    | none => rfl
    | some rif => exact congrFun h.neighbors rif
  rw [hon]
  rcases h.caches b bundle.cache (by simp [bundlesBy, hb]) with hnew | hold
  · obtain ⟨hrif, hl⟩ : bundle.rif = none ∧ bundle.neighbors = [] := Prod.mk.inj hnew
    rw [hrif, hl]
    exact CacheOk.of_empty List.nodup_nil fun _ he => absurd he List.not_mem_nil
  · obtain ⟨bundle₁, hb₁, hc⟩ := Option.map_eq_some_iff.mp hold
    obtain ⟨hrif, hl⟩ : bundle₁.rif = bundle.rif ∧ bundle₁.neighbors = bundle.neighbors :=
      Prod.mk.inj hc
    rw [← hrif, ← hl]
    exact hok.caches b bundle₁ hD hb₁

theorem cachesShrink_keeps {α : Type} {m : Exec OfprotoSai α} (hlocals : Keeps LocalRoutesOk m)
    (h : Rel CachesShrink m) : Keeps (NeighborsOk D) m := fun o a o' hm hok =>
  (h o a o' hm).ok (hlocals o a o' hm hok.locals) hok

/-! ## What touches no neighbor -/

omit [OvsLib] in
theorem cachesShrink_of_eq (hn : o'.hw.neighbors = o.hw.neighbors)
    (hr : ∀ r ∈ o.hw.routerIntfs, r ∈ o'.hw.routerIntfs)
    (hc : o'.bundlesBy OfbundleSai.cache = o.bundlesBy OfbundleSai.cache) : CachesShrink o o' :=
  ⟨hn, hr, fun _ _ h => .inr (hc ▸ h)⟩

omit [OvsLib] in
theorem SameButVlan.cachesShrink (h : SameButVlan o o') : CachesShrink o o' := by
  have hintfs : o'.hw.routerIntfs = o.hw.routerIntfs := congrArg Hw.L3.routerIntfs h.hw.1
  exact cachesShrink_of_eq (congrArg Hw.L3.neighbors h.hw.1) (fun _ hr => hintfs ▸ hr)
    (bundlesBy_of (k := OfbundleSai.cache) h.bundles fun _ => rfl)

omit [OvsLib] in
theorem onHw_routes_cachesShrink {α : Type} {m : Exec Hw α} (h : Rel (Hw.Same Hw.butRoutes) m) :
    Rel CachesShrink (onHw m) :=
  onHw_rel fun o a hw hm => by
    obtain ⟨hsame, -⟩ := h _ a hw hm
    have hintfs : hw.routerIntfs = o.hw.routerIntfs := congrArg Hw.ButRoutes.routerIntfs hsame
    exact cachesShrink_of_eq (congrArg Hw.ButRoutes.neighbors hsame) (fun _ hr => hintfs ▸ hr) rfl

omit [OvsLib] in
theorem choose_cachesShrink : Rel CachesShrink (onHw Hw.choose) :=
  onHw_routes_cachesShrink (Hw.choose_same fun _ _ => rfl)

omit [OvsLib] in
theorem SameButIp.cachesShrink (h : SameButIp o o') : CachesShrink o o' := by
  have hintfs : o'.hw.routerIntfs = o.hw.routerIntfs :=
    congrArg Hw.ButRoutes.routerIntfs h.hw.same.1
  exact cachesShrink_of_eq (congrArg Hw.ButRoutes.neighbors h.hw.same.1) (fun _ hr => hintfs ▸ hr)
    (bundlesBy_of (k := OfbundleSai.cache) h.bundles fun _ => rfl)

omit [OvsLib] in
theorem onHw_cachesShrink {α : Type} {m : Exec Hw α} (hn : Frame Hw.neighbors m)
    (hr : Rel (Hw.RifsKept fun _ => False) m) : Rel CachesShrink (onHw m) :=
  onHw_rel fun _ a hw hm =>
    cachesShrink_of_eq (hn _ a hw hm) (fun r => (hr _ a hw hm).2 r not_false) rfl

omit [OvsLib] in
theorem modifyBundle_cachesShrink {f : OfbundleSai → OfbundleSai}
    (h : ∀ x, (f x).cache = x.cache) : Rel CachesShrink (modifyBundle b f) :=
  modifyBundle_rel fun _ bundle hb =>
    cachesShrink_of_eq rfl (fun _ => id) (setBundle_bundlesBy hb (h bundle))

omit [OvsLib] in
theorem setRouterIntfHandle_cachesShrink {h : Option BundlePtr} :
    Rel CachesShrink (netdevSaiSetRouterIntfHandle p h) := by
  refine setRouterIntfHandle_frame.mono fun o o' heq => ?_
  obtain ⟨-, hb, hhw⟩ : o'.vrid = o.vrid ∧ o'.bundles = o.bundles ∧ o'.hw = o.hw := by
    simpa using heq
  refine cachesShrink_of_eq (by rw [hhw]) (fun r hr => by rwa [hhw]) ?_
  unfold bundlesBy
  rw [hb]

omit [OvsLib] in
theorem ofbundlePortDel_cachesShrink : Rel CachesShrink (ofbundlePortDel p) := by
  intro o st o' h
  obtain ⟨port, b, bundle, hw, -, -, hb, hvlans, rfl⟩ := ofbundlePortDel_ok h
  obtain ⟨hl3, -⟩ := Rel.ite portVlansLeave_l3 (Rel.pure 0) _ _ _ hvlans
  have hintfs : hw.routerIntfs = o.hw.routerIntfs := congrArg Hw.L3.routerIntfs hl3
  exact cachesShrink_of_eq (congrArg Hw.L3.neighbors hl3) (fun _ hr => hintfs ▸ hr)
    (setBundle_bundlesBy hb rfl)

/-! ## The router interface -/

section
variable [Build]

theorem localRoutesRemove_cachesShrink : Rel CachesShrink (localRoutesRemove b) := by
  have hwalk : ∀ {table : List String}, Rel CachesShrink (walkTable table) := fun {_} =>
    Rel.bind choose_cachesShrink fun _ => Rel.pure _
  have hremove : ∀ vrid addr, Rel CachesShrink (onHw (opsSaiRouteRemove vrid addr)) := fun _ _ =>
    onHw_routes_cachesShrink (routeRemove_noLocalAdded.mono fun _ _ h => h.same)
  refine (ofbundle_rel b).bind fun _ => (Rel.gets _).bind fun _ => hwalk.bind fun _ => ?_
  refine Rel.forEach fun _ => (hremove _ _).thenOk ?_
  exact Rel.bind (modifyBundle_cachesShrink fun _ => rfl) fun _ => Rel.pure _

/-- Giving up the interface of a bundle, when its cache is empty or does not matter. -/
theorem ofbundleRouterIntfRemove_neighborsOk
    (hempty : D b → ∀ bundle, o.bundles.lookup b = some bundle →
      ∀ e ∈ bundle.neighbors, e.macAddress = "")
    (h : ofbundleRouterIntfRemove b o = .ok (st, o')) (hok : NeighborsOk D o) :
    NeighborsOk D o' := by
  have hlocals' := ofbundleRouterIntfRemove_localsOk _ _ _ h hok.locals
  rcases ofbundleRouterIntfRemove_ok h with ⟨hfail, -⟩ | ⟨o₁, bundle, hlocal, hb, hrest⟩
  · exact (localRoutesRemove_cachesShrink _ _ _ hfail).ok hlocals' hok
  have hlocals₁ := (localRoutesRemove_ok hok.locals hlocal).1
  have hshrink₁ := localRoutesRemove_cachesShrink _ _ _ hlocal
  rcases hrest with ⟨-, -, rfl⟩ | ⟨hc, o₂, hw, hclear, hhw, hend⟩
  · exact hshrink₁.ok hlocals' hok
  have hclears : Rel CachesShrink (forEach bundle.ports fun p =>
      netdevSaiSetRouterIntfHandle p none) := Rel.forEach fun _ => setRouterIntfHandle_cachesShrink
  have hlocals₂ := (setRouterIntfHandles_localsShrink _ _ _ hclear).ok hlocals₁
  have hok₂ := (hclears _ _ _ hclear).ok hlocals₂ (hshrink₁.ok hlocals₁ hok)
  obtain ⟨hkept, hfailed⟩ := opsSaiRouterIntfRemove_kept hhw
  have hneighbors := opsSaiRouterIntfRemove_neighbors hhw
  rcases hend with ⟨h0, rfl⟩ | ⟨rfl, rfl⟩
  · rw [if_neg h0] at hneighbors
    have hshrink : CachesShrink o₂ { o₂ with hw := hw } :=
      cachesShrink_of_eq hneighbors (fun r => (hfailed h0).2 r not_false) rfl
    exact hshrink.ok hlocals' hok₂
  rw [if_pos rfl] at hneighbors
  have hframe : Frame (fun o => (o.vrid, o.bundles, o.hw)) (forEach bundle.ports fun p =>
      netdevSaiSetRouterIntfHandle p none) := Rel.forEach fun _ => setRouterIntfHandle_frame
  have hbundles : o₂.bundles = o₁.bundles := congrArg (fun t => t.2.1) (hframe _ _ _ hclear)
  have hb₂ : o₂.bundles.lookup b = some bundle := hbundles ▸ hb
  have hrif : o₂.rif b = some bundle.routerIntf.rifid := by
    rw [rif_of_lookup hb₂, OfbundleSai.rif, if_pos hc]
  have hother : ∀ rif, rif ≠ bundle.routerIntf.rifid → hw.neighbors rif = o₂.hw.neighbors rif := by
    intro rif hne
    rw [hneighbors, Function.update_of_ne hne]
  refine ⟨hlocals', fun rif addr eth hn => ?_, fun b' bundle' hD hb' => ?_⟩
  · by_cases hr : rif = bundle.routerIntf.rifid
    · subst hr
      rw [setBundle_hw, hneighbors, Function.update_self] at hn
      cases hn
    · rw [setBundle_hw, hother rif hr] at hn
      exact hkept.2 rif hr (hok₂.live rif addr eth hn)
  · rw [setBundle_lookup] at hb'
    split at hb'
    next hbb =>
      subst hbb
      cases hb'
      -- the cache is as it was before
      have hcache := (trans_of CachesShrink hshrink₁ (hclears _ _ _ hclear)).caches b' bundle.cache
        (by simp [bundlesBy, hb₂])
      refine CacheOk.of_empty (hok₂.caches b' bundle hD hb₂).unique fun e he => ?_
      rcases hcache with hnew | hold
      · rw [show bundle.neighbors = [] from (Prod.mk.inj hnew).2] at he
        cases he
      · obtain ⟨bundle₀, hb₀, hc₀⟩ := Option.map_eq_some_iff.mp hold
        exact hempty hD bundle₀ hb₀ e ((Prod.mk.inj hc₀).2 ▸ he)
    next hne =>
      have hb₂' : o₂.bundles.lookup b' = some bundle' := hb'
      have hcache := hok₂.caches b' bundle' hD hb₂'
      rw [setBundle_hw]
      cases hrif' : bundle'.rif with
      | none =>
        rw [hrif'] at hcache
        exact hcache
      | some rif =>
        rw [hrif'] at hcache
        have hne' : rif ≠ bundle.routerIntf.rifid := by
          rintro rfl
          exact hne (hlocals₂.distinct b' b _ ((rif_of_lookup hb₂').trans hrif') hrif)
        show CacheOk bundle'.neighbors (hw.neighbors rif)
        rw [hother rif hne']
        exact hcache

omit [Build] in
/-- There is no neighbor on a new interface, and the cache of its bundle has no MAC. -/
theorem routerIntfCreate_neighborsOk {rifType : RouterIntfType} {handle : Nat}
    (hnot : ∀ bundle, o.bundles.lookup b = some bundle → bundle.routerIntf.created = false)
    (h : routerIntfCreate b rifType handle o = .ok (st, o')) (hok : NeighborsOk D o) :
    NeighborsOk D o' := by
  have hlocals' := routerIntfCreate_localsOk _ _ _ h hok.locals
  obtain ⟨bundle, rifid, hw, hb, hhw, hend⟩ := routerIntfCreate_ok h
  have hneighbors : hw.neighbors = o.hw.neighbors := opsSaiRouterIntfCreate_neighbors _ _ _ hhw
  have hkept := opsSaiRouterIntfCreate_kept (S := fun _ => False) _ _ _ hhw
  rcases hend with ⟨-, rfl⟩ | ⟨h0, hset⟩
  · have hshrink : CachesShrink o { o with hw := hw } :=
      cachesShrink_of_eq hneighbors (fun r => hkept.2 r not_false) rfl
    exact hshrink.ok hlocals' hok
  obtain ⟨hnew, hin⟩ := (opsSaiRouterIntfCreate_ok hhw).1 h0
  have hsets : Rel CachesShrink (forEach bundle.ports fun p =>
      netdevSaiSetRouterIntfHandle p (some b)) :=
    Rel.forEach fun _ => setRouterIntfHandle_cachesShrink
  refine (hsets _ _ _ hset).ok hlocals' ⟨hok.locals.take hnew hin rfl hkept,
    fun rif addr eth hn => ?_, fun b' bundle' hD hb' => ?_⟩
  · exact hkept.2 rif not_false (hok.live rif addr eth (hneighbors ▸ hn))
  · have hon : hw.neighborsOn = o.hw.neighborsOn := by
      funext r
      cases r with
      | none => rfl
      | some rif => exact congrFun hneighbors rif
    rw [setBundle_hw]
    show CacheOk bundle'.neighbors (hw.neighborsOn bundle'.rif)
    rw [hon]
    rw [setBundle_lookup] at hb'
    split at hb'
    next hbb =>
      subst hbb
      cases hb'
      have hcache := hok.caches b' bundle hD hb
      have hnone : bundle.rif = none := by
        rw [OfbundleSai.rif, hnot bundle hb]
        rfl
      have hempty : o.hw.neighbors rifid = fun _ => none := by
        funext addr
        cases hn : o.hw.neighbors rifid addr with
        | none => rfl
        | some eth => exact absurd (hok.live rifid addr eth hn) hnew
      rw [hnone] at hcache
      show CacheOk bundle.neighbors (o.hw.neighbors rifid)
      rw [hempty]
      exact hcache
    next => exact hok.caches b' bundle' hD hb'

/-- Settings take the interface of a bundle away: it has another handle than they ask for. -/
def OfprotoSai.DropsRif (o : OfprotoSai) (s : OfprotoBundleSettings) (bundle : OfbundleSai) :
    Prop :=
  bundle.routerIntf.created = true ∧ ∃ slave port rifType handle,
    s.slaves.head?.or s.slavesBeyond = some slave ∧ o.ofports slave = some port ∧
    routerIntfHandle port.netdev s = some (rifType, handle) ∧ bundle.routerIntf.handle ≠ handle

theorem routerIntfApply_neighborsOk {rifType : RouterIntfType} {handle : Nat} {enable : Bool}
    (hempty : D b → ∀ bundle, o.bundles.lookup b = some bundle →
      bundle.routerIntf.created = true → bundle.routerIntf.handle ≠ handle →
      ∀ e ∈ bundle.neighbors, e.macAddress = "")
    (h : routerIntfApply b rifType handle enable o = .ok (st, o')) (hok : NeighborsOk D o) :
    NeighborsOk D o' := by
  have henable : Keeps (NeighborsOk D) (routerIntfEnable b enable) := by
    refine cachesShrink_keeps (localsShrink_keeps routerIntfEnable_localsShrink) ?_
    refine routerIntfEnable_rel (fun _ => onHw_cachesShrink opsSaiRouterIntfSetState_neighbors
      opsSaiRouterIntfSetState_kept) (modifyBundle_cachesShrink fun _ => rfl)
  obtain ⟨bundle, hb, h⟩ := ofbundle_bind.mp h
  have hremove : ∀ {st₁ o₁},
      (if bundle.routerIntf.created && bundle.routerIntf.handle != handle then
        ofbundleRouterIntfRemove b else pure 0) o = .ok (st₁, o₁) → NeighborsOk D o₁ := by
    intro st₁ o₁ h₁
    split at h₁
    next hdrop =>
      simp only [Bool.and_eq_true, bne_iff_ne, ne_eq] at hdrop
      refine ofbundleRouterIntfRemove_neighborsOk (fun hD bundle' hb' => ?_) h₁ hok
      cases hb.symm.trans hb'
      exact hempty hD bundle hb hdrop.1 hdrop.2
    next =>
      cases h₁
      exact hok
  rcases thenOk_ok.mp h with ⟨h₁, -⟩ | ⟨o₁, h₁, h⟩
  · exact hremove h₁
  have hok₁ := hremove h₁
  obtain ⟨bundle₁, hb₁, h⟩ := ofbundle_bind.mp h
  have hcreate : ∀ {st₂ o₂}, (if bundle₁.routerIntf.created then pure 0
      else routerIntfCreate b rifType handle) o₁ = .ok (st₂, o₂) → NeighborsOk D o₂ := by
    intro st₂ o₂ h₂
    split at h₂
    next =>
      cases h₂
      exact hok₁
    next hc =>
      refine routerIntfCreate_neighborsOk (fun bundle' hb' => ?_) h₂ hok₁
      cases hb₁.symm.trans hb'
      exact Bool.eq_false_iff.mpr hc
  rcases thenOk_ok.mp h with ⟨h₂, -⟩ | ⟨o₂, h₂, h⟩
  · exact hcreate h₂
  · exact henable _ _ _ h (hcreate h₂)

theorem ofbundleRouterIntfReconfigure_neighborsOk
    (hempty : D b → ∀ bundle, o.bundles.lookup b = some bundle → o.DropsRif s bundle →
      ∀ e ∈ bundle.neighbors, e.macAddress = "")
    (h : ofbundleRouterIntfReconfigure b s o = .ok (st, o')) (hok : NeighborsOk D o) :
    NeighborsOk D o' := by
  have hlocals' := ofbundleRouterIntfReconfigure_localsOk _ _ _ h hok.locals
  obtain ⟨-, slave, hslave, ⟨-, -, rfl⟩ | ⟨port, hport, hcases⟩⟩ :=
    ofbundleRouterIntfReconfigure_cases h
  · exact hok
  rcases hcases with ⟨-, -, rfl⟩ | ⟨-, -, bundle, hb, rfl⟩ | ⟨rifType, handle, hhandle, happly⟩
  · exact hok
  · refine CachesShrink.ok (o := o) ?_ hlocals' hok
    exact cachesShrink_of_eq rfl (fun _ => id) (setBundle_bundlesBy hb rfl)
  · refine routerIntfApply_neighborsOk (fun hD bundle hb hc hne => ?_) happly hok
    exact hempty hD bundle hb ⟨hc, slave, port, rifType, handle, hslave, hport, hhandle, hne⟩

/-! ## The operations on bundles -/

omit [Build] in
theorem ofbundlePortDel_neighborsOk : Keeps (NeighborsOk D) (ofbundlePortDel p) :=
  cachesShrink_keeps ofbundlePortDel_localsOk ofbundlePortDel_cachesShrink

/-- The cache of a bundle that is destroyed does not matter any more. -/
theorem ofbundleDestroy_neighborsOk :
    Keeps (NeighborsOk fun _ => True) (ofbundleDestroy b) := by
  intro o _ o' h hok
  have hlocals' := ofbundleDestroy_localsOk _ _ _ h hok.locals
  obtain ⟨st₁, o₁, st₂, o₂, bundle, o₃, hip, hrif, -, hports, rfl⟩ := ofbundleDestroy_ok h
  have hbut : NeighborsOk (· ≠ b) o :=
    ⟨hok.locals, hok.live, fun b' bundle _ => hok.caches b' bundle trivial⟩
  have hipKeeps : Keeps (NeighborsOk (· ≠ b)) (ofbundleIpRemove b) := cachesShrink_keeps
    (localsShrink_keeps (ofbundleIpRemove_sameButIp.mono fun _ _ => SameButIp.localsShrink))
    (ofbundleIpRemove_sameButIp.mono fun _ _ => SameButIp.cachesShrink)
  have hok₂ := ofbundleRouterIntfRemove_neighborsOk (fun hne => absurd rfl hne) hrif
    (hipKeeps _ _ _ hip hbut)
  have hdel : Keeps (NeighborsOk (· ≠ b))
      (forAll bundle.ports fun p => do let _ ← ofbundlePortDel p; pure ()) :=
    Rel.forAll fun _ => Rel.bind ofbundlePortDel_neighborsOk fun _ => Rel.pure _
  have hok₃ := hdel _ _ _ hports hok₂
  refine ⟨hlocals', hok₃.live, fun b' bundle' _ hb' => ?_⟩
  rw [lookup_erase] at hb'
  split at hb'
  next => cases hb'
  next hne => exact hok₃.caches b' bundle' hne hb'

theorem bundleRemove_neighborsOk : Keeps (NeighborsOk fun _ => True) (bundleRemove p) :=
  bundleRemove_rel (fun _ => ofbundlePortDel_neighborsOk) fun _ => ofbundleDestroy_neighborsOk

theorem ofbundlePortAdd_neighborsOk {sPort : Option OfpPort} :
    Keeps (NeighborsOk fun _ => True) (ofbundlePortAdd b sPort) := by
  intro o st o' h hok
  have hlocals' := ofbundlePortAdd_localsOk _ _ _ h hok.locals
  obtain ⟨p, port, o₁, port₁, bundle, hw, -, -, hremove, -, hb, hvlans, rfl⟩ :=
    ofbundlePortAdd_ok h
  have hok₁ := bundleRemove_neighborsOk _ _ _ hremove hok
  obtain ⟨hl3, -⟩ := Rel.ite portVlansJoin_l3 (Rel.pure 0) _ _ _ hvlans
  have hintfs : hw.routerIntfs = o₁.hw.routerIntfs := congrArg Hw.L3.routerIntfs hl3
  refine (CachesShrink.ok ?_ hlocals' hok₁)
  exact cachesShrink_of_eq (congrArg Hw.L3.neighbors hl3) (fun _ hr => hintfs ▸ hr)
    (setBundle_bundlesBy hb rfl)

theorem ofbundlePortsReconfigure_neighborsOk :
    Keeps (NeighborsOk fun _ => True) (ofbundlePortsReconfigure b s) := by
  refine ofbundlePortsReconfigure_rel (fun _ => ofbundlePortDel_neighborsOk)
    (cachesShrink_keeps ?_ ?_) fun _ => ofbundlePortAdd_neighborsOk
  · exact localsShrink_keeps (vlanReconfigure_sameButVlan.mono fun _ _ => SameButVlan.localsShrink)
  · exact vlanReconfigure_sameButVlan.mono fun _ _ => SameButVlan.cachesShrink

omit [OvsLib] [Build] in
/-- Moving ports changes nothing of what decides whether an interface is taken away. -/
theorem OfprotoSai.DropsRif.of_configs (hnet : o'.netdevs = o.netdevs) {bundle' : OfbundleSai}
    (hc : bundle'.config = bundle.config) (h : o'.DropsRif s bundle') : o.DropsRif s bundle := by
  obtain ⟨hcr, slave, port, rifType, handle, hslave, hport, hhandle, hne⟩ := h
  have hrif : bundle'.routerIntf = bundle.routerIntf := (congrArg OfbundleSai.routerIntf hc :)
  have hp := congrFun hnet slave
  simp only [netdevs, hport, Option.map_some] at hp
  obtain ⟨port', hport', -⟩ := Option.map_eq_some_iff.mp hp.symm
  refine ⟨hrif ▸ hcr, slave, port', rifType, handle, hslave, hport', ?_, hrif ▸ hne⟩
  exact (routerIntfHandle_of_netdevs hnet.symm hport hport').trans hhandle

theorem bundleApply_neighborsOk
    (hempty : s.slaves.length ≤ 1 → ∀ bundle, o.bundles.lookup b = some bundle →
      o.DropsRif s bundle → ∀ e ∈ bundle.neighbors, e.macAddress = "")
    (h : bundleApply b s o = .ok (st, o')) (hok : NeighborsOk (fun _ => True) o) :
    NeighborsOk (fun _ => True) o' := by
  rcases thenOk_ok.mp h with ⟨hports, -⟩ | ⟨o₁, hports, h⟩
  · exact ofbundlePortsReconfigure_neighborsOk _ _ _ hports hok
  have hok₁ := ofbundlePortsReconfigure_neighborsOk _ _ _ hports hok
  split at h
  next =>
    cases h
    exact hok₁
  next hone =>
    rw [gets_bind] at h
    split at h
    next =>
      obtain ⟨st₁, o₂, hrif, h⟩ := bind_ok.mp h
      obtain ⟨st₂, o₃, hip, hend⟩ := bind_ok.mp h
      cases hend
      have hok₂ := ofbundleRouterIntfReconfigure_neighborsOk (fun _ bundle' hb' hdrop => ?_)
        hrif hok₁
      · refine ((ofbundleIpReconfigure_sameButIp _ _ _ hip).cachesShrink).ok ?_ hok₂
        exact ((ofbundleIpReconfigure_sameButIp _ _ _ hip).localsShrink).ok hok₂.locals
      · obtain ⟨bundle, hb, hc⟩ :=
          (ofbundlePortsReconfigure_configsShrink _ _ _ hports).lookup hb'
        have hdrop := hdrop.of_configs (ofbundlePortsReconfigure_evolves _ _ _ hports).netdevs hc
        have hl : bundle'.neighbors = bundle.neighbors := (congrArg OfbundleSai.neighbors hc :)
        rw [hl]
        exact hempty (by omega) bundle hb hdrop
    next =>
      cases h
      exact hok₁

omit [OvsLib] [Build] in
theorem ofbundleLookupOrCreate_cachesShrink :
    Rel CachesShrink (ofbundleLookupOrCreate aux s) := by
  refine ofbundleLookupOrCreate_rel fun o b cs _ => ⟨rfl, fun _ => id, fun b' c hc => ?_⟩
  rw [bundlesBy, setBundle_lookup] at hc
  split at hc
  next =>
    cases hc
    exact .inl rfl
  next => exact .inr hc

/-! ## The operations on routes -/

omit [Build] in
theorem opsSaiRouteLocalAdd_butRoutes {vrid rifid : Nat} {pfx : String} :
    Rel (Hw.Same Hw.butRoutes) (opsSaiRouteLocalAdd vrid pfx rifid) := by
  unfold opsSaiRouteLocalAdd
  split
  next => exact Rel.pure _
  next =>
    exact Rel.bind (Hw.callIf_same (fun _ => rfl) fun _ => ⟨rfl, rfl⟩) fun _ => Rel.pure _

theorem l3RouteAction_cachesShrink {action : OfprotoRouteAction} {routep : OfprotoRoute} :
    Rel CachesShrink (l3RouteAction action routep) := by
  refine l3RouteAction_rel (fun hm => onHw_routes_cachesShrink (hm.mono fun _ _ h => h.same))
    choose_cachesShrink (fun b pfx => ?_) fun b pfx => ?_
  · refine (ofbundle_rel b).bind fun _ => (Rel.require _ _).bind fun _ => (Rel.gets _).bind fun _ =>
      (onHw_routes_cachesShrink opsSaiRouteLocalAdd_butRoutes).bind fun _ => ?_
    exact Rel.bind (modifyBundle_cachesShrink fun _ => rfl) fun _ => Rel.pure _
  · refine (ofbundle_rel b).bind fun _ => (Rel.gets _).bind fun _ =>
      Rel.ite (Rel.thenOk ?_ ?_) (Rel.pure _)
    · exact onHw_routes_cachesShrink (routeRemove_noLocalAdded.mono fun _ _ h => h.same)
    · exact Rel.bind (modifyBundle_cachesShrink fun _ => rfl) fun _ => Rel.pure _

/-! ## The operations on host entries -/

omit [OvsLib] [Build] in
/-- A bundle without its cache of neighbors. -/
def OfbundleSai.butNeighbors (bundle : OfbundleSai) : OfbundleSai := { bundle with neighbors := [] }

omit [OvsLib] [Build] in
/-- Only the neighbors on the interface `rifid` have changed. -/
structure Hw.OnlyNeighbors (rifid : Nat) (hw hw' : Hw) : Prop where
  routes : hw'.routes = hw.routes
  routerIntfs : hw'.routerIntfs = hw.routerIntfs
  neighbors : ∀ rif, rif ≠ rifid → hw'.neighbors rif = hw.neighbors rif

instance {rifid : Nat} : IsPreorder Hw (Hw.OnlyNeighbors rifid) where
  refl _ := ⟨rfl, rfl, fun _ _ => rfl⟩
  trans _ _ _ h h' := ⟨h'.routes.trans h.routes, h'.routerIntfs.trans h.routerIntfs,
    fun rif hne => (h'.neighbors rif hne).trans (h.neighbors rif hne)⟩

omit [OvsLib] [Build] in
/-- Only the cache of the bundle `b` has changed, and the neighbors on the interface `rifid`. -/
structure OnlyNeighbors (b : BundlePtr) (rifid : Nat) (o o' : OfprotoSai) : Prop where
  vrid : o'.vrid = o.vrid
  only : OnlyBundle b o o'
  bundles : o'.bundlesBy OfbundleSai.butNeighbors = o.bundlesBy OfbundleSai.butNeighbors
  hw : Hw.OnlyNeighbors rifid o.hw o'.hw

instance {rifid : Nat} : IsPreorder OfprotoSai (OnlyNeighbors b rifid) where
  refl _ := ⟨rfl, refl_of _ _, rfl, refl_of _ _⟩
  trans _ _ _ h h' := ⟨h'.vrid.trans h.vrid, trans_of _ h.only h'.only,
    h'.bundles.trans h.bundles, trans_of _ h.hw h'.hw⟩

variable {rifid : Nat} {ip mac : String}

omit [OvsLib] [Build] in
theorem modifyNeighbors_onlyNeighbors {f : List NeighborEntry → List NeighborEntry} :
    Rel (OnlyNeighbors b rifid) (modifyNeighbors b f) := by
  refine Rel.bind (modifyBundle_rel fun o bundle hb => ?_) fun _ => Rel.pure _
  exact ⟨rfl, setBundle_only, setBundle_bundlesBy hb rfl, refl_of _ _⟩

omit [Build] in
theorem neighborAction_onlyNeighbors {mac : Option String} :
    Rel (OnlyNeighbors b rifid)
      (onHw (do return sxError2Errno (← neighborAction ip mac rifid))) := by
  have hset : ∀ addr eth, Rel (Hw.OnlyNeighbors rifid) (sxNeighSet rifid addr eth) := fun _ _ =>
    Hw.callIf_rel (fun _ => ⟨rfl, rfl, fun _ _ => rfl⟩) fun _ =>
      ⟨rfl, rfl, fun _ hne => Function.update_of_ne hne ..⟩
  have haction : Rel (Hw.OnlyNeighbors rifid) (neighborAction ip mac rifid) := by
    unfold neighborAction
    split
    · split
      · exact hset _ _
      · exact Rel.pure _
    · split
      · exact hset _ _
      · exact Rel.pure _
  refine onHw_rel fun o a hw hm => ⟨rfl, onlyBundle_of_eq rfl, rfl, ?_⟩
  exact Rel.bind haction (fun _ => Rel.pure _) _ a hw hm

omit [OvsLib] [Build] in
theorem l3HostBundle_ok {α : Type} {k : BundlePtr × OfbundleSai → Exec OfprotoSai α}
    {r : α × OfprotoSai} (h : (l3HostBundle aux >>= k) o = .ok r) :
    ∃ b bundle, o.FoundBy aux b bundle ∧ bundle.routerIntf.created = true ∧
      k (b, bundle) o = .ok r := by
  obtain ⟨⟨b, bundle⟩, o₁, hhost, hk⟩ := bind_ok.mp h
  obtain ⟨found, o₂, hlookup, hneed⟩ := bind_ok.mp hhost
  obtain ⟨rfl, -, -⟩ := ofbundleLookup_ok hlookup
  obtain ⟨b₁, rfl, hread⟩ := need_bind.mp hneed
  obtain ⟨bundle₁, hb, hassert⟩ := ofbundle_bind.mp hread
  obtain ⟨hc, hend⟩ := require_bind.mp hassert
  cases hend
  exact ⟨b, bundle, ⟨hlookup, hb⟩, hc, hk⟩

omit [Build] in
/-- A call on the neighbors of `aux` works on one bundle, which has an interface. -/
theorem NeighborCall.run_onlyNeighbors {c : NeighborCall} (h : c.run aux o = .ok (st, o')) :
    ∃ b bundle, o.FoundBy aux b bundle ∧ bundle.routerIntf.created = true ∧
      OnlyNeighbors b bundle.routerIntf.rifid o o' := by
  cases c with
  | add ip mac =>
    obtain ⟨b, bundle, hf, hc, h⟩ := l3HostBundle_ok h
    refine ⟨b, bundle, hf, hc, Rel.ite (Rel.pure _) (Rel.ite ?_ ?_) _ _ _ h⟩
    · exact modifyNeighbors_onlyNeighbors
    · refine (Rel.ite modifyNeighbors_onlyNeighbors (Rel.pure _)).thenOk ?_
      exact Rel.thenOk neighborAction_onlyNeighbors modifyNeighbors_onlyNeighbors
  | delete ip =>
    obtain ⟨b, bundle, hf, hc, h⟩ := l3HostBundle_ok h
    refine ⟨b, bundle, hf, hc, ?_⟩
    dsimp only at h
    cases he : neighEntryHashFind ip bundle.neighbors with
    | none =>
      rw [he] at h
      cases h
      exact refl_of _ _
    | some e =>
      simp only [he] at h
      refine Rel.thenOk ((Rel.pure _).ite ?_) ?_ _ _ _ h
      · exact neighborAction_onlyNeighbors
      · exact modifyNeighbors_onlyNeighbors

omit [OvsLib] [Build] in
theorem OnlyNeighbors.localsShrink (h : OnlyNeighbors b rifid o o') : LocalsShrink o o' :=
  localsShrink_of_eq h.vrid ⟨fun _ _ _ hr => h.hw.routes ▸ hr, fun _ hr => h.hw.routerIntfs ▸ hr⟩
    (bundlesBy_of (k := (·.rif)) h.bundles fun _ => rfl)
    (bundlesBy_of (k := (·.localRoutes)) h.bundles fun _ => rfl)

omit [Build] in
/-- A safe call on the neighbors of a bundle keeps its cache a mirror, and every other one. -/
theorem NeighborCall.run_neighborsOk {c : NeighborCall}
    (hsafe : ∀ b bundle, o.FoundBy aux b bundle → c.Safe b o)
    (h : c.run aux o = .ok (st, o')) (hok : NeighborsOk (fun _ => True) o) :
    NeighborsOk (fun _ => True) o' := by
  obtain ⟨b, bundle, hf, hc, honly⟩ := run_onlyNeighbors h
  have hrif : bundle.rif = some bundle.routerIntf.rifid := if_pos hc
  have hlocals' := honly.localsShrink.ok hok.locals
  have hrif' : ∀ b', o'.rif b' = o.rif b' := by
    intro b'
    have hmap : o'.bundlesBy (·.rif) = o.bundlesBy (·.rif) :=
      bundlesBy_of (k := (·.rif)) honly.bundles fun _ => rfl
    have := congrFun hmap b'
    unfold bundlesBy at this
    unfold OfprotoSai.rif
    cases hb : o.bundles.lookup b' <;> cases hb' : o'.bundles.lookup b' <;> simp_all
  have hcache := hok.caches b bundle trivial hf.2
  rw [hrif] at hcache
  obtain ⟨bundle', hf', hid, hcache'⟩ :=
    run_mirrored (hsafe b bundle hf) h ⟨bundle, hf, rfl, hcache⟩
  have hb' : bundle'.rif = some bundle.routerIntf.rifid := by
    rw [← rif_of_lookup hf'.2, hrif', rif_of_lookup hf.2, hrif]
  refine ⟨hlocals', fun rif addr eth hn => ?_, fun b₁ bundle₁ _ hb₁ => ?_⟩
  · rw [honly.hw.routerIntfs]
    by_cases hr : rif = bundle.routerIntf.rifid
    · subst hr
      exact hok.locals.exists_rif b _ ((rif_of_lookup hf.2).trans hrif)
    · rw [honly.hw.neighbors rif hr] at hn
      exact hok.live rif addr eth hn
  · by_cases hbb : b₁ = b
    · subst hbb
      cases hf'.2.symm.trans hb₁
      rw [hb']
      exact hcache'
    · have hold : o.bundles.lookup b₁ = some bundle₁ := honly.only b₁ hbb ▸ hb₁
      have hcache₁ := hok.caches b₁ bundle₁ trivial hold
      cases hr₁ : bundle₁.rif with
      | none =>
        rw [hr₁] at hcache₁
        exact hcache₁
      | some rif =>
        rw [hr₁] at hcache₁
        have hne : rif ≠ bundle.routerIntf.rifid := by
          rintro rfl
          exact hbb (hok.locals.distinct b₁ b _ ((rif_of_lookup hold).trans hr₁)
            ((rif_of_lookup hf.2).trans hrif))
        show CacheOk bundle₁.neighbors (o'.hw.neighbors rif)
        rw [honly.hw.neighbors rif hne]
        exact hcache₁

/-! ## Runs -/

/-- A call on the bundles, routes or host entries of an ofproto. -/
inductive HostCall where
  | vrf (c : VrfCall)
  | host (aux : Nat) (c : NeighborCall)

variable [OpenswitchIdl]

def HostCall.run : HostCall → Exec OfprotoSai Int
  | .vrf c => c.run
  | .host aux c => c.run aux

/-- The calls that keep every cache a mirror. New settings may not take away the interface of a
bundle that has cached a MAC. -/
def HostCall.Safe (o : OfprotoSai) : HostCall → Prop
  | .vrf (.bundle (.set aux (some s))) => s.name ≠ OpenswitchIdl.DEFAULT_BRIDGE_NAME →
      s.slaves.length ≤ 1 → ∀ b bundle, o.bundles.lookup b = some bundle → bundle.aux = aux →
      o.DropsRif s bundle → ∀ e ∈ bundle.neighbors, e.macAddress = ""
  | .vrf _ => True
  | .host aux c => ∀ b bundle, o.FoundBy aux b bundle → c.Safe b o

theorem BundleCall.run_neighborsOk {c : BundleCall} (hsafe : HostCall.Safe o (.vrf (.bundle c)))
    (h : c.run o = .ok (st, o')) (hok : NeighborsOk (fun _ => True) o) :
    NeighborsOk (fun _ => True) o' := by
  cases c with
  | set aux s =>
    cases s with
    | none =>
      obtain ⟨found, o₁, hlookup, h⟩ := bind_ok.mp h
      obtain ⟨rfl, -, -⟩ := ofbundleLookup_ok hlookup
      cases found with
      | none =>
        cases h
        exact hok
      | some b =>
        obtain ⟨_, o₂, hdestroy, hend⟩ := bind_ok.mp h
        cases hend
        exact ofbundleDestroy_neighborsOk _ _ _ hdestroy hok
    | some s =>
      rw [BundleCall.run, bundleSet] at h
      split at h
      next =>
        cases h
        exact hok
      next hname =>
        obtain ⟨b, o₁, hfind, h⟩ := bind_ok.mp h
        have hok₁ := cachesShrink_keeps ofbundleLookupOrCreate_localsOk
          ofbundleLookupOrCreate_cachesShrink _ _ _ hfind hok
        refine bundleApply_neighborsOk (fun hone bundle hb hdrop => ?_) h hok₁
        rcases ofbundleLookupOrCreate_ok hfind with ⟨rfl, haux⟩ | ⟨-, hcreate⟩
        · simp only [bundlesBy, hb, Option.map_some, Option.some.injEq] at haux
          exact hsafe hname hone b bundle hb haux hdrop
        · -- a new bundle has no interface
          obtain ⟨cs, -, rfl⟩ := ofbundleCreate_ok hcreate
          rw [setBundle_lookup, if_pos rfl] at hb
          cases hb
          cases hdrop.1
  | remove p =>
    obtain ⟨_, o₁, hremove, hend⟩ := bind_ok.mp h
    cases hend
    exact bundleRemove_neighborsOk _ _ _ hremove hok

theorem HostCall.run_neighborsOk {c : HostCall} (hsafe : c.Safe o) (h : c.run o = .ok (st, o'))
    (hok : NeighborsOk (fun _ => True) o) : NeighborsOk (fun _ => True) o' := by
  cases c with
  | vrf c =>
    cases c with
    | bundle c => exact BundleCall.run_neighborsOk hsafe h hok
    | route action routep =>
      exact cachesShrink_keeps l3RouteAction_localsOk l3RouteAction_cachesShrink _ _ _ h hok
  | host aux c => exact NeighborCall.run_neighborsOk hsafe h hok

omit [Build] [OpenswitchIdl] in
theorem new_neighborsOk {type : OfprotoType} {vrid : Nat} {ofports : OfpPort → Option OfportSai}
    {hw : Hw} (hroutes : ∀ vrid pfx, hw.routes vrid pfx = none)
    (hneighbors : ∀ rif addr, hw.neighbors rif addr = none) :
    NeighborsOk (fun _ => True) (.new type vrid ofports hw) := by
  refine ⟨new_localsOk hroutes, fun rif addr eth hn => ?_, fun b bundle _ hb => by cases hb⟩
  cases (hneighbors rif addr).symm.trans hn

/-- **Cached neighbors survive**: in every state of a run of safe calls on an ofproto, every cached
entry with a MAC is programmed on the current interface of its bundle, and an add that succeeds
leaves its MAC programmed there. -/
theorem neighbors_survive_of_safe {type : OfprotoType} {vrid : Nat}
    {ofports : OfpPort → Option OfportSai} {hw : Hw}
    (hroutes : ∀ vrid pfx, hw.routes vrid pfx = none)
    (hneighbors : ∀ rif addr, hw.neighbors rif addr = none)
    (H : Reaches HostCall.Safe HostCall.run (.new type vrid ofports hw) o)
    (hb : o.bundles.lookup b = some bundle) :
    (∀ e ∈ bundle.neighbors, e.macAddress ≠ "" → bundle.routerIntf.created = true ∧
      ∃ addr eth, opsSaiCommonIpToSxIp e.ipAddress = some addr ∧
        OvsLib.ethAddrFromString e.macAddress = some eth ∧
        o.hw.neighbors bundle.routerIntf.rifid addr = some eth) ∧
    ∀ ip mac o', o.FoundBy aux b bundle → NeighborCall.Safe b o (.add ip mac) → mac ≠ "" →
      addL3HostEntry aux ip mac o = .ok (0, o') → ∃ addr eth,
        opsSaiCommonIpToSxIp ip = some addr ∧ OvsLib.ethAddrFromString mac = some eth ∧
          o'.hw.neighbors bundle.routerIntf.rifid addr = some eth := by
  have hok := H.invariant (fun _ _ hsafe _ _ => HostCall.run_neighborsOk hsafe)
    (new_neighborsOk hroutes hneighbors)
  have hcache := hok.caches b bundle trivial hb
  refine ⟨fun e he hmac => ?_, fun ip mac o' hf hsafe hmac hadd => ?_⟩
  · obtain ⟨⟨addr, eth⟩, hrow⟩ := Option.isSome_iff_exists.mp (hcache.parsed e he hmac)
    obtain ⟨-, haddr, heth⟩ := NeighborEntry.row_eq_some.mp hrow
    have hn := hcache.mirrors.sound e he addr eth hrow
    cases hc : bundle.routerIntf.created with
    | true =>
      rw [OfbundleSai.rif, if_pos hc] at hn
      exact ⟨rfl, addr, eth, haddr, heth, hn⟩
    | false =>
      rw [OfbundleSai.rif, hc] at hn
      cases hn
  · obtain ⟨b₁, bundle₁, hf₁, hc, -⟩ := l3HostBundle_ok hadd
    cases hf.1.symm.trans hf₁.1
    cases hf.2.symm.trans hf₁.2
    rw [OfbundleSai.rif, if_pos hc] at hcache
    exact (addL3HostEntry_mirrored hsafe hadd ⟨bundle, hf, rfl, hcache⟩).2 rfl hmac

end

end

section
attribute [local instance] sampleOvs sampleBuild sampleIdl

/-- A neighbor that has been added is programmed. -/
theorem neighbors_survive_of_safe_add : ∃ (o : OfprotoSai) (bundle : OfbundleSai),
    Reaches HostCall.Safe HostCall.run (.new .vrf 0 samplePorts .reset) o ∧
      o.bundles.lookup 0 = some bundle ∧
      ∃ e ∈ bundle.neighbors, e.macAddress = "00:00:00:00:00:01" ∧
        ∃ addr eth, o.hw.neighbors bundle.routerIntf.rifid addr = some eth := by
  obtain ⟨o, hrun⟩ := result_eq_some.mp (show result (do
    let _ ← HostCall.run (.vrf (.bundle (.set 1 (some (accessSettings 2)))))
    let l ← gets fun o => decide (o.bundlesBy (·.neighbors) 0 = some [])
    let found ← ofbundleLookup 1
    let _ ← HostCall.run (.host 1 (.add "10.0.0.1" "00:00:00:00:00:01"))
    let l' ← gets fun o => decide (o.bundlesBy (·.neighbors) 0 =
      some [⟨"10.0.0.1", "00:00:00:00:00:01"⟩])
    pure (l, found, l')) (.new .vrf 0 samplePorts .reset) = some (true, some 0, true) by
      decide +kernel)
  obtain ⟨st, o₁, hset, hrun⟩ := bind_ok.mp hrun
  rw [gets_bind] at hrun
  obtain ⟨found, o₂, hlookup, hrun⟩ := bind_ok.mp hrun
  obtain ⟨rfl, -, -⟩ := ofbundleLookup_ok hlookup
  obtain ⟨st', o₃, hadd, hend⟩ := bind_ok.mp hrun
  rw [gets_bind, pure_apply] at hend
  simp only [Except.ok.injEq, Prod.mk.injEq] at hend
  obtain ⟨⟨hl, rfl, hl'⟩, -⟩ := hend
  have hl := of_decide_eq_true hl
  have hsafe : HostCall.Safe o₂ (.host 1 (.add "10.0.0.1" "00:00:00:00:00:01")) := by
    intro b bundle hf bundle' addr eth hb' _ _ _ _ e he
    cases hf.1.symm.trans hlookup
    cases hf.2.symm.trans hb'
    simp only [bundlesBy, hf.2, Option.map_some, Option.some.injEq] at hl
    rw [hl] at he
    cases he
  have hsafe₀ : HostCall.Safe (.new .vrf 0 samplePorts .reset)
      (.vrf (.bundle (.set 1 (some (accessSettings 2))))) := by
    intro _ _ b bundle hb
    cases hb
  have H : Reaches HostCall.Safe HostCall.run (.new .vrf 0 samplePorts .reset) o₃ :=
    .tail (.tail .refl ⟨_, st, hsafe₀, hset⟩) ⟨_, st', hsafe, hadd⟩
  obtain ⟨bundle, hb, hbl⟩ := Option.map_eq_some_iff.mp (of_decide_eq_true hl')
  have hmem : (⟨"10.0.0.1", "00:00:00:00:00:01"⟩ : NeighborEntry) ∈ bundle.neighbors := by
    rw [hbl]
    exact List.mem_singleton_self _
  have hsurvive := @neighbors_survive_of_safe o₃ 0 bundle 1 _ _ _ _ _ _ _ (fun _ _ => rfl)
    (fun _ _ => rfl) H hb
  obtain ⟨-, addr, eth, -, -, hn⟩ := hsurvive.1 _ hmem (by decide)
  exact ⟨o₃, bundle, H, hb, _, hmem, rfl, addr, eth, hn⟩

/-- The bundle moves from port 1 to port 2 and gets a new interface, but keeps the cached neighbor,
which is on neither. Adding it again returns 0 and programs nothing. -/
theorem neighbors_lost :
    ∃ o o' : OfprotoSai, Reaches (fun _ _ => True) HostCall.run
        (.new .vrf 0 samplePorts .reset) o ∧
      (o.bundlesBy (·.routerIntf) 0).map (·.created) = some true ∧
      o.bundlesBy (·.neighbors) 0 = some [⟨"10.0.0.1", "00:00:00:00:00:01"⟩] ∧
      (o.rif 0).map (o.hw.neighbors · sampleIp) = some none ∧
      HostCall.run (.host 1 (.add "10.0.0.1" "00:00:00:00:00:01")) o = .ok (0, o') ∧
      (o'.rif 0).map (o'.hw.neighbors · sampleIp) = some none := by
  obtain ⟨o, hrun⟩ := result_eq_some.mp (show result (do
    let st₁ ← HostCall.run (.vrf (.bundle (.set 1 (some (accessSettings 2)))))
    let st₂ ← HostCall.run (.host 1 (.add "10.0.0.1" "00:00:00:00:00:01"))
    let st₃ ← HostCall.run
      (.vrf (.bundle (.set 1 (some { accessSettings 2 with slaves := [2] }))))
    let r ← gets fun o => decide ((o.bundlesBy (·.routerIntf) 0).map (·.created) = some true ∧
      o.bundlesBy (·.neighbors) 0 = some [⟨"10.0.0.1", "00:00:00:00:00:01"⟩] ∧
      (o.rif 0).map (o.hw.neighbors · sampleIp) = some none)
    let st₄ ← HostCall.run (.host 1 (.add "10.0.0.1" "00:00:00:00:00:01"))
    let r' ← gets fun o => decide ((o.rif 0).map (o.hw.neighbors · sampleIp) = some none)
    pure (st₁, st₂, st₃, r, st₄, r')) (.new .vrf 0 samplePorts .reset) =
      some (0, 0, 0, true, 0, true) by decide +kernel)
  obtain ⟨st₁, o₁, h₁, hrun⟩ := bind_ok.mp hrun
  obtain ⟨st₂, o₂, h₂, hrun⟩ := bind_ok.mp hrun
  obtain ⟨st₃, o₃, h₃, hrun⟩ := bind_ok.mp hrun
  rw [gets_bind] at hrun
  obtain ⟨st₄, o₄, h₄, hend⟩ := bind_ok.mp hrun
  rw [gets_bind, pure_apply] at hend
  simp only [Except.ok.injEq, Prod.mk.injEq] at hend
  obtain ⟨⟨rfl, rfl, rfl, hr, rfl, hr'⟩, -⟩ := hend
  obtain ⟨hcreated, hcached, hnone⟩ := of_decide_eq_true hr
  have H : Reaches (fun _ _ => True) HostCall.run (.new .vrf 0 samplePorts .reset) o₃ :=
    .tail (.tail (.tail .refl ⟨_, 0, trivial, h₁⟩) ⟨_, 0, trivial, h₂⟩) ⟨_, 0, trivial, h₃⟩
  exact ⟨o₃, o₄, H, hcreated, hcached, hnone, h₄, of_decide_eq_true hr'⟩

end

end SwitchdSai
