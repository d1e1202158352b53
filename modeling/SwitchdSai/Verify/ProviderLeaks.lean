import SwitchdSai.Verify.Leaks
import SwitchdSai.Verify.Provider

/-!
# Everything in the hardware has an owner

When every call into the hardware succeeds, the router interfaces of the SDK are those of the
bundles, its counters are bound to them, and its virtual routers are those of the VRFs, in every
state of a run of the provider (`resources_owned`). Local routes are removed where they are recorded
before a bundle goes, and the bundles of a VRF go before the VRF.
-/

namespace SwitchdSai

open Exec Provider OfprotoSai

variable {s s' : Provider} {p q : OfprotoPtr} {record : OfprotoRecord} {hw hw' : Hw} {st : Int}

/-! ## The virtual routers -/

/-- A virtual router without interfaces is removed. -/
theorem ofprotoDestroy_willing (h : ofprotoDestroy p s = .ok ((), s'))
    (hp : s.ofprotos.lookup p = some record) (htype : record.type = .vrf) (hwill : s.hw.Willing)
    (hin : record.vrid ∈ s.routers)
    (hunused : ∀ rif intf, s.hw.routerIntfs.lookup rif = some intf → intf.vrid ≠ record.vrid) :
    s'.routers = s.routers.erase record.vrid := by
  obtain ⟨_, s₁, hdes, hend⟩ := bind_ok.mp h
  cases hend
  obtain ⟨record', hp', hdes⟩ := ofproto_bind.mp hdes
  obtain rfl : record' = record := Option.some.inj (hp'.symm.trans hp)
  rw [if_pos htype] at hdes
  obtain ⟨st, s₂, hremove, hdes⟩ := bind_ok.mp hdes
  cases hdes
  obtain ⟨status, s₃, hdel, hend⟩ := bind_ok.mp hremove
  cases hend
  rw [sxRouterDelete, gets_bind] at hdel
  obtain ⟨status', s₄, hcall, hdel⟩ := bind_ok.mp hdel
  obtain ⟨hw, hhw, rfl⟩ := provider_onHw_ok.mp hcall
  have hvalid : (decide (record'.vrid ∈ s.routers) &&
      s.hw.routerIntfs.entries.all fun e => decide (e.2.vrid ≠ record'.vrid)) = true := by
    rw [Bool.and_eq_true, List.all_eq_true]
    exact ⟨decide_eq_true hin, fun e he => decide_eq_true (hunused e.1 e.2
      (AList.mem_lookup_iff.mpr he))⟩
  obtain ⟨rfl, -⟩ := hwill.callIf hvalid hhw
  rw [if_pos rfl] at hdel
  cases hdel
  rfl

theorem Hw.Idle.rifTables (h : hw.Idle hw') : hw'.rifTables = hw.rifTables := by
  obtain ⟨hl3, -⟩ := h
  exact congrArg (fun t : Hw.L3 => (⟨t.routerIntfs, t.counters, t.allRouterIntf⟩ : RifTables)) hl3

/-- A counter of the SDK is bound to one interface. -/
theorem RifTables.Ok.counter_iff {t : RifTables} (h : t.Ok) {counter : Nat} :
    counter ∈ t.counters ↔
      ∃! rif, ∃ intf, t.routerIntfs.lookup rif = some intf ∧ intf.counter = some counter := by
  constructor
  · intro hin
    obtain ⟨e, he, rfl⟩ := (h.counters counter).mp hin
    refine ⟨e.rifId, h.bound e he, ?_⟩
    rintro rif ⟨intf, hi, hc⟩
    have hin : rif ∈ t.routerIntfs := AList.lookup_isSome.mp (Option.isSome_of_eq_some hi)
    obtain ⟨e', he', rfl⟩ := (h.recorded rif).mp hin
    obtain ⟨intf', hi', hc'⟩ := h.bound e' he'
    obtain rfl : intf' = intf := Option.some.inj (hi'.symm.trans hi)
    rw [List.inj_on_of_nodup_map h.counterIds he' he (Option.some.inj (hc'.symm.trans hc))]
  · rintro ⟨rif, ⟨intf, hi, hc⟩, -⟩
    exact h.counter_mem hi hc

/-! ## The invariant -/

section
variable [OvsLib]

/-- Everything in the hardware has an owner, and no virtual router is listed twice. -/
structure Accounts (s : Provider) : Prop where
  inv : ProviderInv s
  sound : s.hw.RifsSound
  owned : FullyOwned s.owns s.content
  nodup : s.routers.Nodup

omit [OvsLib] in
theorem provider_content_rif_isSome {rif : Nat} :
    (s.content (.rif rif)).isSome ↔ rif ∈ s.hw.routerIntfs := content_rif_isSome

omit [OvsLib] in
theorem provider_content_router_isSome {v : Nat} :
    (s.content (.router v)).isSome ↔ v ∈ s.routers := by
  rw [provider_content_router]
  split
  next hv => exact iff_of_true rfl hv
  next hv => exact iff_of_false Bool.false_ne_true hv

/-- An interface belongs to a virtual router that is owned with it. -/
theorem ProviderInv.router_of_rif (hinv : ProviderInv s) {rif : Nat} {intf : HwRouterIntf}
    (hown : s.owns q (.rif rif)) (hi : s.hw.routerIntfs.lookup rif = some intf) :
    s.owns q (.router intf.vrid) := by
  obtain ⟨record, hq, hr⟩ := hown
  have hok := hinv.ofprotos q record hq
  refine ⟨record, hq, ?_, hok.vrids rif intf hr hi⟩
  cases ht : record.type with
  | vrf => rfl
  | system =>
    -- a bridging ofproto has no interfaces
    obtain ⟨b, hb⟩ := hr
    obtain ⟨bundle, hbundle, hrif⟩ := Option.bind_eq_some_iff.mp hb
    rw [OfbundleSai.rif, ((hok.bridging ht).free b bundle hbundle).created] at hrif
    cases hrif

omit [OvsLib] in
theorem owns_rif {rif : Nat} (hp : s.ofprotos.lookup p = some record) :
    s.owns p (.rif rif) ↔ ∃ b, (record.on s.hw).rif b = some rif := by
  rw [owns_eq hp]
  rfl

theorem ofprotoCreate_accounts {name : String} {type : OfprotoType}
    {ofports : OfpPort → Option OfportSai} (hA : Accounts s)
    (h : ofprotoCreate name type ofports s = .ok (st, s')) : Accounts s' := by
  have hinv := (ofprotoCreate_inv hA.inv h).1
  have htakes := ofprotoCreate_takes _ _ _ h
  obtain ⟨p, hp, hidle, hend⟩ := ofprotoCreate_ok h
  have hsound : s'.hw.RifsSound := hA.sound.of_eq hidle.rifTables htakes
  have hintfs : s'.hw.routerIntfs = s.hw.routerIntfs :=
    congrArg RifTables.routerIntfs hidle.rifTables
  have hnone : ∀ r, ¬s.owns p r := by
    rintro r ⟨record, hp', -⟩
    cases hp.symm.trans hp'
  rcases hend with ⟨-, hrouters, hlookup⟩ | ⟨-, vrid, hfresh, hrouters, hlookup⟩
  · refine ⟨hinv, hsound, hA.owned.step (k := p) (fun q _ => ?_) fun r hr _ => ⟨?_, hnone r⟩,
      hrouters ▸ hA.nodup⟩
    · funext r
      simp only [Provider.owns, hlookup]
    · cases r with
      | rif rif =>
        rw [provider_content_rif_isSome, hintfs] at hr
        exact provider_content_rif_isSome.2 hr
      | router v =>
        rw [provider_content_router_isSome, hrouters] at hr
        exact provider_content_router_isSome.2 hr
  · have howns : s'.owns p = OfprotoRecord.Owns ⟨name, type, vrid, ofports, ∅⟩ :=
      owns_eq (by rw [hlookup, if_pos rfl])
    refine ⟨hinv, hsound, hA.owned.step (k := p) (fun q hq => ?_)
      fun r hr hnot => ⟨?_, hnone r⟩, ?_⟩
    · funext r
      simp only [Provider.owns, hlookup, if_neg hq]
    · cases r with
      | rif rif =>
        rw [provider_content_rif_isSome, hintfs] at hr
        exact provider_content_rif_isSome.2 hr
      | router v =>
        rw [provider_content_router_isSome, hrouters] at hr
        rw [howns] at hnot
        refine provider_content_router_isSome.2 ?_
        split at hr
        next ht => exact (List.mem_cons.mp hr).resolve_left fun hv => hnot ⟨ht, hv⟩
        next => exact hr
    · rw [hrouters]
      split
      next ht => exact List.nodup_cons.mpr ⟨hfresh ht, hA.nodup⟩
      next => exact hA.nodup

theorem ofprotoDestroy_accounts (hA : Accounts s)
    (hempty : ∀ record, s.ofprotos.lookup p = some record → record.type = .vrf →
      record.bundles.keys = [])
    (h : ofprotoDestroy p s = .ok ((), s')) : Accounts s' := by
  have hinv := (ofprotoDestroy_inv hA.inv h).1
  have htakes := ofprotoDestroy_takes _ _ _ h
  obtain ⟨record, hw, hp, hidle, hlookup, hend⟩ := ofprotoDestroy_ok h
  -- the ofproto has no interface
  have hnone : ∀ rif, ¬s.owns p (.rif rif) := by
    intro rif hown
    obtain ⟨intf, hi⟩ := Option.isSome_iff_exists.mp (AList.lookup_isSome.mpr
      (provider_content_rif_isSome.1 (hA.inv.tenants.exist p _ hown)))
    obtain ⟨record', hp', htype, -⟩ := hA.inv.router_of_rif hown hi
    obtain rfl : record' = record := Option.some.inj (hp'.symm.trans hp)
    obtain ⟨b, hb⟩ := (owns_rif hp).mp hown
    obtain ⟨bundle, hbundle, -⟩ := Option.bind_eq_some_iff.mp hb
    have hmem : b ∈ record'.bundles := AList.lookup_isSome.mp (Option.isSome_of_eq_some hbundle)
    rw [AList.mem_keys, hempty record' hp htype] at hmem
    cases hmem
  have hunused : ∀ rif intf, s.hw.routerIntfs.lookup rif = some intf →
      ¬s.owns p (.router intf.vrid) := by
    intro rif intf hi hown
    obtain ⟨q, hq⟩ := hA.owned (.rif rif) (provider_content_rif_isSome.2 (mem_of_lookup hi))
    obtain rfl : q = p :=
      hA.inv.tenants.distinct q p _ (hA.inv.router_of_rif hq hi) hown
    exact hnone rif hq
  have htables : s'.hw.rifTables = s.hw.rifTables := by
    rcases hend with ⟨-, hhw⟩ | ⟨-, -, -, hhw⟩ <;> rw [hhw]
    · exact hidle.rifTables
    · exact hidle.rifTables
  have hintfs : s'.hw.routerIntfs = s.hw.routerIntfs := congrArg RifTables.routerIntfs htables
  have hrouters : ∀ v, v ∈ s'.routers ↔ v ∈ s.routers ∧ ¬s.owns p (.router v) := by
    intro v
    rw [owns_eq hp]
    by_cases ht : record.type = .vrf
    · have hown : s.owns p (.router record.vrid) := ⟨record, hp, ht, rfl⟩
      have herase : s'.routers = s.routers.erase record.vrid :=
        ofprotoDestroy_willing h hp ht hA.sound.willing (router_mem hA.inv.tenants hown)
          fun rif intf hi hv => hunused rif intf hi (hv ▸ hown)
      rw [herase, hA.nodup.mem_erase_iff, and_comm]
      simp [OfprotoRecord.Owns, ht]
    · rcases hend with ⟨hsame, -⟩ | ⟨ht', -⟩
      · rw [hsame]
        simp [OfprotoRecord.Owns, ht]
      · exact absurd ht' ht
  have hnodup : s'.routers.Nodup := by
    rcases hend with ⟨hsame, -⟩ | ⟨-, -, herase, -⟩
    · exact hsame ▸ hA.nodup
    · exact herase ▸ hA.nodup.erase _
  refine ⟨hinv, hA.sound.of_eq htables htakes, hA.owned.step (k := p) (fun q hq => ?_)
    fun r hr _ => ?_, hnodup⟩
  · funext r
    simp only [Provider.owns, hlookup, if_neg hq]
  · cases r with
    | rif rif =>
      rw [provider_content_rif_isSome, hintfs] at hr
      exact ⟨provider_content_rif_isSome.2 hr, hnone rif⟩
    | router v =>
      rw [provider_content_router_isSome, hrouters] at hr
      exact ⟨provider_content_router_isSome.2 hr.1, hr.2⟩

/-! ## Runs -/

/-- Calls on routes and host entries are made on VRFs, those on bundles when the recorded local
routes can be removed, and VRFs are destroyed after their bundles. -/
def ProviderCall.Orderly (s : Provider) (c : ProviderCall) : Prop :=
  c.Legal s ∧ match c with
    | .create .. => True
    | .destroy p => ∀ record, s.ofprotos.lookup p = some record → record.type = .vrf →
        record.bundles.keys = []
    | .on p c => ∀ record, s.ofprotos.lookup p = some record → c.Removable (record.on s.hw)

section
variable [Build] [OpenswitchIdl]

theorem onOfproto_accounts {c : HostCall} {o' : OfprotoSai} (hA : Accounts s)
    (hlegal : (ProviderCall.on p c).Legal s) (hp : s.ofprotos.lookup p = some record)
    (hrem : c.Removable (record.on s.hw)) (hrun : c.run (record.on s.hw) = .ok (st, o'))
    (hafter : OnOfproto p record o' s s') : Accounts s' := by
  have hok := hA.inv.ofprotos p record hp
  obtain ⟨hinv, hserved⟩ := hafter.run hlegal hA.inv hp hrun
  obtain ⟨hsound, hleft⟩ := HostCall.run_left (o := record.on s.hw) hA.sound hok.locals hrem hrun
  have hsetup := (HostCall.run_within _ _ _ hrun).setup
  have hp' : s'.ofprotos.lookup p = some (record.after o') := by rw [hafter.lookup, if_pos rfl]
  refine ⟨hinv, ?_, hA.owned.step (k := p) (fun q hq => hserved.owns hq)
    fun r hr hnot => ?_, hafter.routers ▸ hA.nodup⟩
  · rw [hafter.hw]
    exact hsound
  · cases r with
    | rif rif =>
      rw [provider_content_rif_isSome, hafter.hw] at hr
      rw [owns_rif hp'] at hnot
      obtain ⟨hin, hnot⟩ := hleft rif hr (not_exists.mp hnot)
      exact ⟨provider_content_rif_isSome.2 hin, (owns_rif hp).not.mpr (not_exists.mpr hnot)⟩
    | router v =>
      rw [provider_content_router_isSome, hafter.routers] at hr
      refine ⟨provider_content_router_isSome.2 hr, fun hown => hnot ?_⟩
      rw [owns_eq hp] at hown
      rw [owns_eq hp']
      exact ⟨hsetup.type.trans hown.1, hown.2.trans hsetup.vrid.symm⟩

theorem ProviderCall.run_accounts {c : ProviderCall} (horderly : c.Orderly s) (hA : Accounts s)
    (h : c.run s = .ok (st, s')) : Accounts s' := by
  obtain ⟨hlegal, horderly⟩ := horderly
  cases c with
  | create name type ofports => exact ofprotoCreate_accounts hA h
  | destroy p =>
    obtain ⟨_, s₁, hdestroy, hend⟩ := bind_ok.mp h
    cases hend
    exact ofprotoDestroy_accounts hA horderly hdestroy
  | on p c =>
    obtain ⟨record, o', hp, hrun, hafter⟩ := onOfproto_after h
    exact onOfproto_accounts hA hlegal hp (horderly record hp) hrun hafter

omit [Build] [OpenswitchIdl] in
theorem new_accounts (hwill : hw.Willing) (hrifs : hw.rifTables = ⟨∅, [], []⟩)
    (hroutes : ∀ v pfx, hw.routes v pfx = none) : Accounts (.new hw) := by
  refine ⟨new_providerInv hroutes, ⟨hwill, ?_⟩, fun r hr => ?_, .nil⟩
  · show hw.rifTables.Ok
    rw [hrifs]
    exact .empty
  · cases r with
    | rif rif =>
      have hin : rif ∈ hw.rifTables.routerIntfs := provider_content_rif_isSome.1 hr
      rw [hrifs] at hin
      exact absurd hin (AList.notMem_empty rif)
    | router v =>
      have hin : v ∈ [] := provider_content_router_isSome.1 hr
      cases hin

omit [Build] [OpenswitchIdl] in
/-- An interface of the SDK belongs to one bundle of one ofproto. -/
theorem Accounts.rif_iff (hA : Accounts s) {rif : Nat} : rif ∈ s.hw.routerIntfs ↔
    ∃! x : OfprotoPtr × BundlePtr, ∃ record, s.ofprotos.lookup x.1 = some record ∧
      (record.on s.hw).rif x.2 = some rif := by
  constructor
  · intro hin
    obtain ⟨p, hown⟩ := hA.owned (.rif rif) (provider_content_rif_isSome.2 hin)
    obtain ⟨record, hp, b, hb⟩ := id hown
    refine ⟨(p, b), ⟨record, hp, hb⟩, ?_⟩
    rintro ⟨q, b'⟩ ⟨record', hq, hb'⟩
    obtain rfl : q = p := hA.inv.tenants.distinct q p (.rif rif) ⟨record', hq, b', hb'⟩ hown
    obtain rfl : record' = record := Option.some.inj (hq.symm.trans hp)
    rw [(hA.inv.ofprotos q record' hq).locals.distinct b' b rif hb' hb]
  · rintro ⟨⟨p, b⟩, ⟨record, hp, hb⟩, -⟩
    exact (hA.inv.ofprotos p record hp).locals.exists_rif b rif hb

omit [Build] [OpenswitchIdl] in
/-- A virtual router of the SDK belongs to one VRF. -/
theorem Accounts.router_iff (hA : Accounts s) {v : Nat} : v ∈ s.routers ↔
    ∃! p, ∃ record, s.ofprotos.lookup p = some record ∧ record.type = .vrf ∧ record.vrid = v := by
  constructor
  · intro hin
    obtain ⟨p, hown⟩ := hA.owned (.router v) (provider_content_router_isSome.2 hin)
    obtain ⟨record, hp, htype, rfl⟩ := id hown
    refine ⟨p, ⟨record, hp, htype, rfl⟩, ?_⟩
    rintro q ⟨record', hq, htype', hv⟩
    exact hA.inv.tenants.distinct q p (.router record.vrid) ⟨record', hq, htype', hv.symm⟩ hown
  · rintro ⟨p, ⟨record, hp, htype, rfl⟩, -⟩
    exact router_mem hA.inv.tenants ⟨record, hp, htype, rfl⟩

theorem Reaches.accounts (hwill : hw.Willing) (hrifs : hw.rifTables = ⟨∅, [], []⟩)
    (hroutes : ∀ v pfx, hw.routes v pfx = none)
    (H : Reaches (fun s c => c.Orderly s) ProviderCall.run (.new hw) s) : Accounts s :=
  H.invariant (fun _ _ hc _ _ hrun hA => ProviderCall.run_accounts hc hA hrun)
    (new_accounts hwill hrifs hroutes)

/-- **Everything in the hardware has an owner**: in every state of a run of the provider in which
the hardware takes every call, each router interface of the SDK is that of one bundle of one
ofproto, each counter is bound to one interface, and each virtual router is that of one VRF. Nothing
else is left of bundles and ofprotos that are gone. -/
theorem resources_owned (hwill : hw.Willing) (hrifs : hw.rifTables = ⟨∅, [], []⟩)
    (hroutes : ∀ v pfx, hw.routes v pfx = none)
    (H : Reaches (fun s c => c.Orderly s) ProviderCall.run (.new hw) s) :
    (∀ rif, rif ∈ s.hw.routerIntfs ↔ ∃! x : OfprotoPtr × BundlePtr, ∃ record,
      s.ofprotos.lookup x.1 = some record ∧ (record.on s.hw).rif x.2 = some rif) ∧
    (∀ counter, counter ∈ s.hw.counters ↔ ∃! rif, ∃ intf,
      s.hw.routerIntfs.lookup rif = some intf ∧ intf.counter = some counter) ∧
    ∀ v, v ∈ s.routers ↔ ∃! p, ∃ record,
      s.ofprotos.lookup p = some record ∧ record.type = .vrf ∧ record.vrid = v := by
  have hA := Reaches.accounts hwill hrifs hroutes H
  exact ⟨fun _ => hA.rif_iff, fun _ => hA.sound.tables.counter_iff, fun _ => hA.router_iff⟩

end

theorem noRoutes_removable {o : OfprotoSai} (h : o.NoRoutes) : LocalsRemovable o := by
  have hnil : ∀ b bundle, o.bundles.lookup b = some bundle → bundle.localPrefixes = [] := by
    intro b bundle hb
    rw [OfbundleSai.localPrefixes, h b bundle hb]
    rfl
  refine ⟨fun b bundle hb => ?_, fun b bundle hb x hx => ?_, fun b b' bundle bundle' hb hb' _ => ?_,
    fun b b' bundle bundle' hb hb' => ?_⟩
  · rw [hnil b bundle hb]
    exact .nil
  · rw [hnil b bundle hb] at hx
    cases hx
  · rw [hnil b bundle hb]
    exact List.disjoint_nil_left _
  · rw [hnil b' bundle' hb']
    exact List.disjoint_nil_right _

end

section
attribute [local instance] sampleOvs sampleBuild sampleIdl

/-- The local routes of the bundles of `p`. -/
def Provider.routesOf (p : OfprotoPtr) (s : Provider) : Option (List (List String)) :=
  (s.ofprotos.lookup p).map fun record => record.bundles.entries.map (·.2.localRoutes)

theorem bundleCall_orderly {c : BundleCall} {n : Nat}
    (h : s.routesOf p = some (List.replicate n [])) :
    (ProviderCall.on p (.vrf (.bundle c))).Orderly s := by
  refine ⟨trivial, fun record hp => noRoutes_removable fun b bundle hb => ?_⟩
  obtain ⟨record', hp', heq⟩ := Option.map_eq_some_iff.mp h
  obtain rfl : record' = record := Option.some.inj (hp'.symm.trans hp)
  exact List.eq_of_mem_replicate (heq ▸ List.mem_map_of_mem (AList.mem_lookup_iff.mp hb))

/-- The interface of a bundle is there while the bundle is, and when all ofprotos are gone there is
no interface. -/
theorem resources_owned_sample : ∃ s s' : Provider,
    (∃! x : OfprotoPtr × BundlePtr, ∃ record, s.ofprotos.lookup x.1 = some record ∧
      (record.on s.hw).rif x.2 = some 0) ∧
    Reaches (fun s c => c.Orderly s) ProviderCall.run s s' ∧ ∀ rif, rif ∉ s'.hw.routerIntfs := by
  obtain ⟨s', hrun⟩ := result_eq_some.mp (show result (do
    let _ ← ProviderCall.run (.create "vrf_a" .vrf (onePort 1))
    let r ← gets (Provider.routesOf 0)
    let _ ← (sampleBundle 0 (accessSettings 2)).run
    let rifs ← gets fun s => s.hw.routerIntfs.keys
    let r' ← gets (Provider.routesOf 0)
    let _ ← ProviderCall.run (.on 0 (.vrf (.bundle (.set 1 none))))
    let bundles ← gets fun s => (s.ofprotos.lookup 0).map fun record => record.bundles.keys
    let _ ← ProviderCall.run (.destroy 0)
    let ofprotos ← gets fun s => s.ofprotos.keys
    pure ([r, r'], bundles, [rifs, ofprotos])) (.new .reset) =
      some ([some [], some [[]]], some [], [[0], []]) by decide +kernel)
  obtain ⟨a, s₁, ha, hrun⟩ := bind_ok.mp hrun
  rw [gets_bind] at hrun
  obtain ⟨b, s₂, hb, hrun⟩ := bind_ok.mp hrun
  rw [gets_bind, gets_bind] at hrun
  obtain ⟨c, s₃, hc, hrun⟩ := bind_ok.mp hrun
  rw [gets_bind] at hrun
  obtain ⟨d, s₄, hd, hend⟩ := bind_ok.mp hrun
  rw [gets_bind, pure_apply] at hend
  simp only [Except.ok.injEq, Prod.mk.injEq, List.cons.injEq, and_true] at hend
  obtain ⟨⟨⟨hr, hr'⟩, hbundles, hrifs, hofprotos⟩, rfl⟩ := hend
  have hwill : Hw.reset.Willing := rfl
  have H : Reaches (fun s c => c.Orderly s) ProviderCall.run (.new .reset) s₂ :=
    .tail (.tail .refl ⟨.create "vrf_a" .vrf (onePort 1), a, ⟨trivial, trivial⟩, ha⟩)
      ⟨sampleBundle 0 (accessSettings 2), b, bundleCall_orderly (n := 0) hr, hb⟩
  have H' : Reaches (fun s c => c.Orderly s) ProviderCall.run s₂ s₄ := by
    refine .tail (.tail .refl ⟨.on 0 (.vrf (.bundle (.set 1 none))), c,
      bundleCall_orderly (n := 1) hr', hc⟩)
      ⟨.destroy 0, d, ⟨trivial, fun record hp _ => ?_⟩, hd⟩
    rw [hp] at hbundles
    exact Option.some.inj hbundles
  refine ⟨s₂, s₄, ?_, H', fun rif hin => ?_⟩
  · exact ((resources_owned hwill rfl (fun _ _ => rfl) H).1 0).mp (by
      rw [AList.mem_keys, hrifs]
      exact List.mem_singleton_self 0)
  · obtain ⟨x, ⟨record, hp, -⟩, -⟩ :=
      ((resources_owned hwill rfl (fun _ _ => rfl) (H.trans H')).1 rif).mp hin
    have hmem : x.1 ∈ s₄.ofprotos := AList.lookup_isSome.mp (Option.isSome_of_eq_some hp)
    rw [AList.mem_keys, hofprotos] at hmem
    cases hmem

end

end SwitchdSai
