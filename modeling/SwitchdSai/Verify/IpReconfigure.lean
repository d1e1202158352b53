import Mathlib.Data.Set.Lattice
import Mathlib.Order.CompletePartialOrder
import SwitchdSai.Verify.Frames

/-!
# The addresses trapped to the CPU

`__ofbundle_ip_reconfigure` moves the host routes of a bundle from the old addresses to the new
ones: first the primary address, then the secondary ones, each against its own cache, over one route
table. What it leaves is computed here as a set of prefixes. It is the new configuration unless an
address that goes in one place comes or stays in the other.
-/

namespace SwitchdSai

open Exec OfprotoSai

section
variable [OvsLib]

/-- The prefix of the host route of an IPv4 address. -/
def ip4Host (ip : String) : Option SxIpPrefix :=
  opsSaiCommonIpPrefixToSxIpPrefix (ipHostPrefix ip false)

/-- The IPv4 host routes of some addresses. -/
def ip4Hosts (ips : List String) : Set SxIpPrefix :=
  {pfx | pfx.version = .ipv4 ∧ ∃ ip ∈ ips, ip4Host ip = some pfx}

theorem ip4Hosts_congr {ips ips' : List String} (h : ∀ ip, ip ∈ ips ↔ ip ∈ ips') :
    ip4Hosts ips = ip4Hosts ips' := by
  simp only [ip4Hosts, h]

@[simp] theorem ip4Hosts_nil : ip4Hosts [] = ∅ := by
  simp [ip4Hosts]

theorem ip4Hosts_append {ips ips' : List String} :
    ip4Hosts (ips ++ ips') = ip4Hosts ips ∪ ip4Hosts ips' := by
  ext pfx
  simp only [ip4Hosts, List.mem_append, or_and_right, exists_or, Set.mem_union, Set.mem_ofPred_eq,
    and_or_left]

theorem ip4Hosts_cons {ip : String} {ips : List String} :
    ip4Hosts (ip :: ips) = ip4Hosts [ip] ∪ ip4Hosts ips := by
  rw [← ip4Hosts_append]
  rfl

theorem mem_ip4Hosts_singleton {ip : String} {pfx : SxIpPrefix} :
    pfx ∈ ip4Hosts [ip] ↔ pfx.version = .ipv4 ∧ ip4Host ip = some pfx := by
  simp [ip4Hosts]

end

/-- The IPv4 prefixes that the ofproto traps to the CPU. -/
def OfprotoSai.ip4ToMe (o : OfprotoSai) : Set SxIpPrefix :=
  {pfx | pfx.version = .ipv4 ∧ o.hw.routes o.vrid pfx = some .ip2me}

variable {o o' : OfprotoSai} {b : BundlePtr} {s : OfprotoBundleSettings} {ip : String} {st : Int}

/-! ## One address -/

section
variable [OvsLib] [Build]

omit [Build] in
theorem ofprotoIpAdd_ok (h : ofprotoIpAdd ip false o = .ok (0, o')) :
    o'.ip4ToMe = o.ip4ToMe ∪ ip4Hosts [ip] ∧ o'.bundles = o.bundles := by
  obtain ⟨sxPrefix, hpfx, rfl⟩ := ofprotoIpAdd_hw h
  have hpfx : ip4Host ip = some sxPrefix := hpfx
  refine ⟨Set.ext fun pfx => ?_, rfl⟩
  simp only [OfprotoSai.ip4ToMe, Hw.setRoute_routes, true_and, Set.mem_union, Set.mem_ofPred_eq,
    mem_ip4Hosts_singleton, hpfx, Option.some.injEq]
  by_cases hp : pfx = sxPrefix
  · subst hp
    simp +contextual
  · simp [hp, Ne.symm hp, Hw.tick]

theorem ofprotoIpRemove_ok (h : ofprotoIpRemove ip false o = .ok (0, o')) :
    o'.ip4ToMe = o.ip4ToMe \ ip4Hosts [ip] ∧ o'.bundles = o.bundles := by
  obtain ⟨sxPrefix, hpfx, rfl⟩ := ofprotoIpRemove_hw h
  have hpfx : ip4Host ip = some sxPrefix := hpfx
  refine ⟨Set.ext fun pfx => ?_, rfl⟩
  simp only [OfprotoSai.ip4ToMe, Hw.setRoute_routes, true_and, Set.mem_sdiff, Set.mem_ofPred_eq,
    mem_ip4Hosts_singleton, hpfx, Option.some.injEq]
  by_cases hp : pfx = sxPrefix
  · subst hp
    simp +contextual
  · simp [hp, Ne.symm hp, Hw.tick]

end

/-! ## The primary and the secondary addresses -/

/-- The ofproto traps `R`, and the bundle `b` has recorded these addresses. -/
structure OfprotoSai.Ip4At (o : OfprotoSai) (b : BundlePtr) (R : Set SxIpPrefix)
    (primary : Option String) (secondary : List String) : Prop where
  toMe : o.ip4ToMe = R
  recorded : ∃ bundle, o.bundles.lookup b = some bundle ∧ bundle.ipv4Primary = primary ∧
    bundle.ipv4Secondary = secondary

variable {R : Set SxIpPrefix} {primary new : Option String} {secondary : List String}

theorem OfprotoSai.Ip4At.of_bundles (h : o.Ip4At b R primary secondary)
    (hb : o'.bundles = o.bundles) : o'.Ip4At b o'.ip4ToMe primary secondary :=
  ⟨rfl, hb ▸ h.recorded⟩

/-- Changing the record of a bundle. -/
theorem OfprotoSai.Ip4At.modify {f : OfbundleSai → OfbundleSai} {u : Unit}
    (h : o.Ip4At b R primary secondary) (hm : modifyBundle b f o = .ok (u, o')) :
    ∃ bundle, bundle.ipv4Primary = primary ∧ bundle.ipv4Secondary = secondary ∧
      o'.Ip4At b R (f bundle).ipv4Primary (f bundle).ipv4Secondary := by
  obtain ⟨bundle, hb, rfl⟩ := modifyBundle_ok.mp hm
  obtain ⟨bundle', hb', hp, hs⟩ := h.recorded
  obtain rfl : bundle' = bundle := Option.some.inj (hb'.symm.trans hb)
  exact ⟨bundle', hp, hs, h.toMe, _, (setBundle_lookup ..).trans (if_pos rfl), rfl, rfl⟩

section
variable [OvsLib] [Build]

/-- The old primary address goes unless it is the new one, which then comes. -/
theorem ipPrimaryReconfigure_ok (hat : o.Ip4At b R primary secondary)
    (h : ipPrimaryReconfigure b false new o = .ok (0, o')) :
    o'.Ip4At b (R \ ip4Hosts (primary.toList.filter fun ip => new ≠ some ip) ∪
      ip4Hosts new.toList) new secondary := by
  obtain ⟨bundle, hb, h⟩ := ofbundle_bind.mp h
  obtain ⟨bundle', hb', hp, hs⟩ := hat.recorded
  obtain rfl : bundle' = bundle := Option.some.inj (hb'.symm.trans hb)
  obtain ⟨o₁, hdrop, hadd⟩ := thenOk_zero.mp h
  -- after the old address has been dropped
  have hat₁ : ∃ kept, o₁.Ip4At b
      (R \ ip4Hosts (primary.toList.filter fun ip => new ≠ some ip)) kept secondary ∧
      (new = none → kept = none) := by
    rw [show bundle'.primary false = primary from hp] at hdrop
    cases primary with
    | none =>
      cases hdrop
      exact ⟨none, by simpa using hat, fun _ => rfl⟩
    | some old =>
      dsimp only at hdrop
      by_cases hnew : new = some old
      · rw [if_pos hnew] at hdrop
        cases hdrop
        exact ⟨some old, by simpa [hnew] using hat, fun h => absurd (hnew.symm.trans h) nofun⟩
      · rw [if_neg hnew] at hdrop
        obtain ⟨o₂, hremove, hset⟩ := thenOk_zero.mp hdrop
        obtain ⟨htoMe, hbundles⟩ := ofprotoIpRemove_ok hremove
        obtain ⟨_, o₃, hm, hend⟩ := bind_ok.mp hset
        cases hend
        obtain ⟨bundle₁, -, hs₁, hat₁⟩ := (hat.of_bundles hbundles).modify hm
        rw [htoMe, hat.toMe] at hat₁
        refine ⟨none, ?_, fun _ => rfl⟩
        have hdropped : ((some old).toList.filter fun ip => new ≠ some ip) = [old] := by
          simp [hnew]
        rw [← hs₁, hdropped]
        exact hat₁
  obtain ⟨kept, hat₁, hkept⟩ := hat₁
  cases new with
  | none =>
    cases hadd
    rw [hkept rfl] at hat₁
    simpa using hat₁
  | some ip =>
    obtain ⟨o₂, hadd, hset⟩ := thenOk_zero.mp hadd
    obtain ⟨htoMe, hbundles⟩ := ofprotoIpAdd_ok hadd
    obtain ⟨_, o₃, hm, hend⟩ := bind_ok.mp hset
    cases hend
    obtain ⟨bundle₁, -, hs₁, hat₂⟩ := (hat₁.of_bundles hbundles).modify hm
    rw [htoMe, hat₁.toMe] at hat₂
    rw [← hs₁]
    exact hat₂

/-- The first loop removes the old addresses that are not wanted. -/
theorem secondaryRemove_loop {ips kept wanted : List String} (hat : o.Ip4At b R primary secondary)
    (hperm : secondary.Perm (ips ++ kept))
    (h : (forEach ips fun ip =>
      if wanted.contains ip then pure 0 else ipSecondaryRemove b false false ip) o = .ok (0, o')) :
    ∃ secondary', o'.Ip4At b (R \ ip4Hosts (ips.filter (· ∉ wanted))) primary secondary' ∧
      secondary'.Perm (ips.filter (· ∈ wanted) ++ kept) := by
  induction ips generalizing o R secondary kept with
  | nil =>
    cases h
    exact ⟨secondary, by simpa using hat, by simpa using hperm⟩
  | cons ip ips ih =>
    obtain ⟨o₁, hone, hrest⟩ := thenOk_zero.mp h
    beta_reduce at hone
    by_cases hw : ip ∈ wanted
    · rw [if_pos (by simpa using hw)] at hone
      cases hone
      have hperm' : secondary.Perm (ips ++ ip :: kept) := hperm.trans List.perm_middle.symm
      obtain ⟨secondary', hat', hperm'⟩ := ih hat hperm' hrest
      refine ⟨secondary', by simpa [hw] using hat', ?_⟩
      simpa [hw] using hperm'.trans List.perm_middle
    · rw [if_neg (by simpa using hw)] at hone
      obtain ⟨o₂, hremove, hset⟩ := thenOk_zero.mp hone
      obtain ⟨htoMe, hbundles⟩ := ofprotoIpRemove_ok hremove
      obtain ⟨_, o₃, hm, hend⟩ := bind_ok.mp hset
      cases hend
      obtain ⟨bundle₁, hp₁, hs₁, hat₁⟩ := (hat.of_bundles hbundles).modify hm
      rw [htoMe, hat.toMe] at hat₁
      have hat₁ : o₁.Ip4At b (R \ ip4Hosts [ip]) primary (secondary.erase ip) := by
        rw [← hp₁, ← hs₁]
        exact hat₁
      have hperm₁ : (secondary.erase ip).Perm (ips ++ kept) := by
        simpa using hperm.erase ip
      obtain ⟨secondary', hat', hperm'⟩ := ih hat₁ hperm₁ hrest
      refine ⟨secondary', ?_, by simpa [hw] using hperm'⟩
      rw [List.filter_cons_of_pos (by simpa using hw), ip4Hosts_cons, ← Set.sdiff_sdiff]
      exact hat'

omit [Build] in
/-- The last loop adds the new addresses that are not recorded. -/
theorem secondaryAdd_loop {ips : List String} (hat : o.Ip4At b R primary secondary)
    (htext : ∀ ip ∈ ips, OvsLib.addrIsIpv6 ip = false)
    (h : (forEach ips fun ip => do
      let bundle ← ofbundle b
      if bundle.ipSecondaryFind ip then pure 0 else ipSecondaryAdd b false ip) o = .ok (0, o')) :
    ∃ secondary', o'.Ip4At b (R ∪ ip4Hosts (ips.filter (· ∉ secondary))) primary secondary' := by
  induction ips generalizing o R secondary with
  | nil =>
    cases h
    exact ⟨secondary, by simpa using hat⟩
  | cons ip ips ih =>
    obtain ⟨o₁, hone, hrest⟩ := thenOk_zero.mp h
    beta_reduce at hone
    obtain ⟨bundle, hb, hone⟩ := ofbundle_bind.mp hone
    obtain ⟨bundle', hb', hp, hs⟩ := hat.recorded
    obtain rfl : bundle' = bundle := Option.some.inj (hb'.symm.trans hb)
    have htext' := fun ip' hip' => htext ip' (List.mem_cons_of_mem _ hip')
    have hfind : bundle'.ipSecondaryFind ip = true ↔ ip ∈ secondary := by
      rw [OfbundleSai.ipSecondaryFind, htext ip (List.mem_cons_self ..)]
      simp [OfbundleSai.secondary, hs]
    by_cases hin : ip ∈ secondary
    · rw [if_pos (hfind.mpr hin)] at hone
      cases hone
      obtain ⟨secondary', hat'⟩ := ih hat htext' hrest
      exact ⟨secondary', by simpa [hin] using hat'⟩
    · rw [if_neg (mt hfind.mp hin)] at hone
      obtain ⟨o₂, hadd, hset⟩ := thenOk_zero.mp hone
      obtain ⟨htoMe, hbundles⟩ := ofprotoIpAdd_ok hadd
      obtain ⟨_, o₃, hm, hend⟩ := bind_ok.mp hset
      cases hend
      obtain ⟨bundle₁, hp₁, hs₁, hat₁⟩ := (hat.of_bundles hbundles).modify hm
      rw [htoMe, hat.toMe] at hat₁
      have hat₁ : o₁.Ip4At b (R ∪ ip4Hosts [ip]) primary (ip :: secondary) := by
        rw [← hp₁, ← hs₁]
        exact hat₁
      obtain ⟨secondary', hat'⟩ := ih hat₁ htext' hrest
      refine ⟨secondary', ?_⟩
      have hset : ip4Hosts [ip] ∪ ip4Hosts (ips.filter (· ∉ ip :: secondary)) =
          ip4Hosts ((ip :: ips).filter (· ∉ secondary)) := by
        rw [← ip4Hosts_append]
        refine ip4Hosts_congr fun x => ?_
        by_cases hx : x = ip <;> simp [hx, hin]
      rw [← hset, ← Set.union_assoc]
      exact hat'

/-- The secondary addresses that are not wanted go, then those that are missing come. -/
theorem ofbundleIpSecondaryReconfigure_ok (hat : o.Ip4At b R primary secondary)
    (htext : ∀ ip ∈ s.ip4AddressSecondary, OvsLib.addrIsIpv6 ip = false)
    (h : ofbundleIpSecondaryReconfigure b s false o = .ok (0, o')) :
    ∃ secondary', o'.Ip4At b
      (R \ ip4Hosts (secondary.filter (· ∉ s.ip4AddressSecondary)) ∪
        ip4Hosts (s.ip4AddressSecondary.filter (· ∉ secondary))) primary secondary' := by
  obtain ⟨bundle, hb, h⟩ := ofbundle_bind.mp h
  obtain ⟨bundle', hb', hp, hs⟩ := hat.recorded
  obtain rfl : bundle' = bundle := Option.some.inj (hb'.symm.trans hb)
  obtain ⟨oldIps, o₁, hwalk₁, h⟩ := bind_ok.mp h
  obtain ⟨newIps, o₂, hwalk₂, h⟩ := bind_ok.mp h
  obtain ⟨hold, cs₁, rfl⟩ := walkTable_ok hwalk₁
  obtain ⟨hnew, cs₂, rfl⟩ := walkTable_ok hwalk₂
  have hold : secondary.Perm (oldIps ++ []) := by
    rw [List.append_nil, ← hs]
    exact hold.symm
  have hmem : ∀ ip, ip ∈ newIps ↔ ip ∈ s.ip4AddressSecondary := fun ip => by
    rw [hnew.mem_iff]
    exact List.mem_dedup
  obtain ⟨o₃, hremove, hadd⟩ := thenOk_zero.mp h
  have hat₂ :
      OfprotoSai.Ip4At { o with hw := { o.hw with choices := cs₂ } } b R primary secondary :=
    ⟨hat.toMe, hat.recorded⟩
  obtain ⟨kept, hat₃, hkept⟩ := secondaryRemove_loop hat₂ hold hremove
  obtain ⟨secondary', hat₄⟩ :=
    secondaryAdd_loop hat₃ (fun ip hip => htext ip ((hmem ip).mp hip)) hadd
  refine ⟨secondary', ?_⟩
  have hremoved : ip4Hosts (oldIps.filter (· ∉ s.ip4AddressSecondary)) =
      ip4Hosts (secondary.filter (· ∉ s.ip4AddressSecondary)) := by
    refine ip4Hosts_congr fun ip => ?_
    simp [hold.mem_iff]
  have hadded : ip4Hosts (newIps.filter (· ∉ kept)) =
      ip4Hosts (s.ip4AddressSecondary.filter (· ∉ secondary)) := by
    refine ip4Hosts_congr fun ip => ?_
    simp only [List.mem_filter, hmem, hkept.mem_iff, hold.mem_iff, List.append_nil,
      decide_eq_true_eq]
    tauto
  rw [← hremoved, ← hadded]
  exact hat₄

/-! ## IPv6 addresses do not meet IPv4 routes -/

omit [Build] in
/-- The prefixes made of an address are IPv6 prefixes. -/
def Ip6Text (ip : String) : Prop := ∀ isIpv6, OvsLib.addrIsIpv6 (ipHostPrefix ip isIpv6) = true

omit [OvsLib] [Build] in
/-- The IPv4 routes are as they were. -/
def Hw.SameIp4 (hw hw' : Hw) : Prop :=
  ∀ vrid pfx, pfx.version = .ipv4 → hw'.routes vrid pfx = hw.routes vrid pfx

omit [OvsLib] [Build] in
instance : IsPreorder Hw Hw.SameIp4 where
  refl _ _ _ _ := rfl
  trans _ _ _ h h' vrid pfx hv := (h' vrid pfx hv).trans (h vrid pfx hv)

omit [Build] in
theorem version_of_ip6 {str : String} {pfx : SxIpPrefix} (h6 : OvsLib.addrIsIpv6 str = true)
    (h : opsSaiCommonIpPrefixToSxIpPrefix str = some pfx) : pfx.version = .ipv6 := by
  rw [opsSaiCommonIpPrefixToSxIpPrefix, if_pos h6] at h
  obtain ⟨_, -, rfl⟩ := Option.map_eq_some_iff.mp h
  rfl

omit [OvsLib] [Build] in
theorem setRoute_sameIp4 {vrid : Nat} {pfx : SxIpPrefix} (valid : Hw → Bool)
    (route : Hw → Option HwRoute) (h6 : pfx.version = .ipv6) :
    Rel Hw.SameIp4 (Hw.callIf valid fun hw => hw.setRoute vrid pfx (route hw)) := by
  refine Hw.callIf_rel (fun _ _ _ _ => rfl) fun hw vrid' pfx' hv => ?_
  rw [Hw.setRoute_routes, if_neg fun h => ?_]
  · rfl
  · rw [h.2, h6] at hv
    cases hv

variable {vrid : Nat} {str : String}

omit [Build] in
theorem routeIpToMeAdd_sameIp4 (h6 : OvsLib.addrIsIpv6 str = true) :
    Rel Hw.SameIp4 (opsSaiRouteIpToMeAdd vrid str) := by
  unfold opsSaiRouteIpToMeAdd
  split
  next => exact Rel.pure _
  next pfx hpfx =>
    refine Rel.bind ?_ fun _ => Rel.pure _
    exact setRoute_sameIp4 (fun _ => true) (fun _ => some .ip2me) (version_of_ip6 h6 hpfx)

theorem routeRemove_sameIp4 (h6 : OvsLib.addrIsIpv6 str = true) :
    Rel Hw.SameIp4 (opsSaiRouteRemove vrid str) := by
  refine Rel.bind ?_ fun _ => Rel.pure _
  unfold routeRemoteAction
  split
  next => exact Rel.pure _
  next pfx hpfx =>
    split
    next => exact Rel.pure _
    next sxNextHops _ =>
      refine (Rel.halt _).ite (setRoute_sameIp4 (fun hw => (hw.routes vrid pfx).isSome)
        (fun hw => (hw.routes vrid pfx).bind (·.deleteNextHops sxNextHops)) ?_)
      exact version_of_ip6 h6 hpfx

omit [OvsLib] [Build] in
/-- The IPv6 addresses a bundle has recorded. -/
def OfbundleSai.ip6Addresses (bundle : OfbundleSai) : List String :=
  bundle.ipv6Primary.toList ++ bundle.ipv6Secondary

/-- The IPv6 addresses that the bundle `b` has recorded have the text of IPv6 addresses. -/
def OfprotoSai.Ip6Ok (o : OfprotoSai) (b : BundlePtr) : Prop :=
  ∀ ips, o.bundlesBy (·.ip6Addresses) b = some ips → ∀ ip ∈ ips, Ip6Text ip

/-- IPv6 addresses may have changed. -/
def SameIp4 (b : BundlePtr) (o o' : OfprotoSai) : Prop :=
  o.Ip6Ok b → o'.Ip6Ok b ∧
    ∀ R primary secondary, o.Ip4At b R primary secondary → o'.Ip4At b R primary secondary

instance : IsPreorder OfprotoSai (SameIp4 b) where
  refl _ h := ⟨h, fun _ _ _ => id⟩
  trans _ _ _ h h' hok := by
    obtain ⟨hok₁, hat₁⟩ := h hok
    obtain ⟨hok₂, hat₂⟩ := h' hok₁
    exact ⟨hok₂, fun R p S hat => hat₂ R p S (hat₁ R p S hat)⟩

omit [Build] in
theorem onHw_sameIp4 {α : Type} {m : Exec Hw α} (h : Rel Hw.SameIp4 m) :
    Rel (SameIp4 b) (onHw m) := by
  refine onHw_rel fun o a hw hm hok => ⟨hok, fun R p S hat => ⟨?_, hat.recorded⟩⟩
  have hsame := h _ a hw hm
  rw [← hat.toMe]
  ext pfx
  simp only [OfprotoSai.ip4ToMe, Set.mem_ofPred_eq]
  exact and_congr_right fun hv => by rw [hsame _ _ hv]

omit [Build] in
theorem modifyBundle_sameIp4 {f : OfbundleSai → OfbundleSai}
    (h4 : ∀ x, (f x).ipv4Primary = x.ipv4Primary ∧ (f x).ipv4Secondary = x.ipv4Secondary)
    (h6 : ∀ x, (∀ ip ∈ x.ip6Addresses, Ip6Text ip) → ∀ ip ∈ (f x).ip6Addresses, Ip6Text ip) :
    Rel (SameIp4 b) (modifyBundle b f) := by
  refine modifyBundle_rel fun o bundle hb hok => ⟨fun ips hips => ?_, fun R p S hat => ?_⟩
  · simp only [bundlesBy, setBundle_lookup, if_true, Option.map_some, Option.some.injEq] at hips
    rw [← hips]
    exact h6 bundle (hok _ (by simp [bundlesBy, hb]))
  · obtain ⟨bundle', hb', hp, hs⟩ := hat.recorded
    obtain rfl : bundle' = bundle := Option.some.inj (hb'.symm.trans hb)
    exact ⟨hat.toMe, _, (setBundle_lookup ..).trans (if_pos rfl), (h4 bundle').1.trans hp,
      (h4 bundle').2.trans hs⟩

omit [Build] in
theorem ofprotoIpAdd_sameIp4 {isIpv6 : Bool} (h6 : Ip6Text ip) :
    Rel (SameIp4 b) (ofprotoIpAdd ip isIpv6) := by
  intro o st o' h
  obtain ⟨pfx, o₁, h₁, h⟩ := bind_ok.mp h
  obtain ⟨-, h₁⟩ := require_bind.mp h₁
  obtain ⟨-, h₁⟩ := require_bind.mp h₁
  obtain ⟨-, h₁⟩ := require_bind.mp h₁
  cases h₁
  exact onHw_sameIp4 (routeIpToMeAdd_sameIp4 (h6 isIpv6)) _ _ _ h

theorem ofprotoIpRemove_sameIp4 {isIpv6 : Bool} (h6 : Ip6Text ip) :
    Rel (SameIp4 b) (ofprotoIpRemove ip isIpv6) := by
  intro o st o' h
  obtain ⟨pfx, o₁, h₁, h⟩ := bind_ok.mp h
  obtain ⟨-, h₁⟩ := require_bind.mp h₁
  obtain ⟨-, h₁⟩ := require_bind.mp h₁
  obtain ⟨-, h₁⟩ := require_bind.mp h₁
  cases h₁
  exact onHw_sameIp4 (routeRemove_sameIp4 (h6 isIpv6)) _ _ _ h

omit [Build] in
theorem setPrimary_sameIp4 (h6 : ∀ ip ∈ new.toList, Ip6Text ip) :
    Rel (SameIp4 b) (modifyBundle b (OfbundleSai.setPrimary true new)) := by
  refine modifyBundle_sameIp4 (fun _ => ⟨rfl, rfl⟩) fun x hx ip hip => ?_
  rcases List.mem_append.mp hip with hip | hip
  · exact h6 ip hip
  · exact hx ip (List.mem_append_right _ hip)

omit [Build] in
theorem setSecondary_sameIp4 {f : List String → List String}
    (h6 : ∀ l, ∀ ip ∈ f l, ip ∈ l ∨ Ip6Text ip) :
    Rel (SameIp4 b) (modifyBundle b fun bundle =>
      bundle.setSecondary true (f (bundle.secondary true))) := by
  refine modifyBundle_sameIp4 (fun _ => ⟨rfl, rfl⟩) fun x hx ip hip => ?_
  rcases List.mem_append.mp hip with hip | hip
  · exact hx ip (List.mem_append_left _ hip)
  · exact (h6 _ ip hip).elim (fun hip => hx ip (List.mem_append_right _ hip)) id

theorem ipPrimaryReconfigure_sameIp4 (h6 : ∀ ip ∈ new.toList, Ip6Text ip) :
    Rel (SameIp4 b) (ipPrimaryReconfigure b true new) := by
  intro o st o' h hok
  obtain ⟨bundle, hb, h⟩ := ofbundle_bind.mp h
  have hold : ∀ ip, bundle.ipv6Primary = some ip → Ip6Text ip := by
    intro ip hip
    refine hok bundle.ip6Addresses (by simp [bundlesBy, hb]) ip (List.mem_append_left _ ?_)
    simp [hip]
  refine (Rel.thenOk ?_ ?_ : Rel (SameIp4 b) _) _ _ _ h hok
  · split
    next old hprim =>
      refine (Rel.pure _).ite ((ofprotoIpRemove_sameIp4 (hold old hprim)).thenOk ?_)
      exact (setPrimary_sameIp4 (by simp)).bind fun _ => Rel.pure _
    next => exact Rel.pure _
  · cases new with
    | none => exact Rel.pure _
    | some ip =>
      exact (ofprotoIpAdd_sameIp4 (h6 ip (by simp))).thenOk
        ((setPrimary_sameIp4 h6).bind fun _ => Rel.pure _)

omit [Build] in
theorem walkTable_sameIp4 {α : Type} {table : List α} : Rel (SameIp4 b) (walkTable table) :=
  (onHw_sameIp4 fun hw _ hw' h => by cases h; exact fun _ _ _ => rfl).bind fun _ => Rel.pure _

theorem ofbundleIpSecondaryReconfigure_sameIp4 (h6 : ∀ ip ∈ s.ip6AddressSecondary, Ip6Text ip) :
    Rel (SameIp4 b) (ofbundleIpSecondaryReconfigure b s true) := by
  intro o st o' h hok
  obtain ⟨bundle, hb, h⟩ := ofbundle_bind.mp h
  have hold : ∀ ip ∈ bundle.ipv6Secondary, Ip6Text ip := fun ip hip =>
    hok bundle.ip6Addresses (by simp [bundlesBy, hb]) ip (List.mem_append_right _ hip)
  obtain ⟨oldIps, o₁, hwalk₁, h⟩ := bind_ok.mp h
  obtain ⟨newIps, o₂, hwalk₂, h⟩ := bind_ok.mp h
  have hstart :=
    trans_of (SameIp4 b) (walkTable_sameIp4 _ _ _ hwalk₁) (walkTable_sameIp4 _ _ _ hwalk₂)
  obtain ⟨holdIps, -⟩ := walkTable_ok hwalk₁
  obtain ⟨hnewIps, -⟩ := walkTable_ok hwalk₂
  refine trans_of (SameIp4 b) hstart ((Rel.thenOk ?_ ?_ : Rel (SameIp4 b) _) _ _ _ h) hok
  · refine Rel.forEach_mem fun ip hip => (Rel.pure _).ite ?_
    refine (ofprotoIpRemove_sameIp4 (hold ip (holdIps.mem_iff.mp hip))).thenOk ?_
    have herase := setSecondary_sameIp4 (b := b) (f := (·.erase ip))
      fun l x hx => .inl (List.mem_of_mem_erase hx)
    exact herase.bind fun _ => Rel.pure _
  · refine Rel.forEach_mem fun ip hip => (ofbundle_rel b).bind fun _ => (Rel.pure _).ite ?_
    have hip6 := h6 ip (List.mem_dedup.mp (hnewIps.mem_iff.mp hip))
    refine (ofprotoIpAdd_sameIp4 hip6).thenOk ?_
    refine (setSecondary_sameIp4 (f := (ip :: ·)) fun l x hx => ?_).bind fun _ => Rel.pure _
    rcases List.mem_cons.mp hx with rfl | hx
    · exact .inr hip6
    · exact .inl hx

/-! ## The whole reconfiguration -/

omit [OvsLib] [Build] in
theorem modifyBundle_ip6Frame {f : OfbundleSai → OfbundleSai}
    (h : ∀ x, (f x).ip6Addresses = x.ip6Addresses) :
    Frame (fun o => o.bundlesBy (·.ip6Addresses)) (modifyBundle b f) :=
  modifyBundle_rel fun _ bundle hb => setBundle_bundlesBy hb (h bundle)

omit [OvsLib] [Build] in
theorem onHw_ip6Frame {α : Type} {m : Exec Hw α} :
    Frame (fun o => o.bundlesBy (·.ip6Addresses)) (onHw m) := onHw_rel fun _ _ _ _ => rfl

/-- A new IPv4 address leaves the recorded IPv6 addresses as they are. -/
theorem ipPrimaryReconfigure_ip6Frame :
    Frame (fun o => o.bundlesBy (·.ip6Addresses)) (ipPrimaryReconfigure b false new) := by
  have hset : ∀ new, Frame (fun o => o.bundlesBy (·.ip6Addresses))
      (modifyBundle b (OfbundleSai.setPrimary false new)) :=
    fun _ => modifyBundle_ip6Frame fun _ => rfl
  refine (ofbundle_rel b).bind fun bundle => Rel.thenOk ?_ ?_
  · split
    next =>
      refine (Rel.pure _).ite (Rel.thenOk ?_ ((hset _).bind fun _ => Rel.pure _))
      exact ofprotoIpPrefix_rel.bind fun _ => (Rel.gets _).bind fun _ => onHw_ip6Frame
    next => exact Rel.pure _
  · cases new with
    | none => exact Rel.pure _
    | some ip =>
      refine Rel.thenOk ?_ ((hset _).bind fun _ => Rel.pure _)
      exact ofprotoIpPrefix_rel.bind fun _ => (Rel.gets _).bind fun _ => onHw_ip6Frame

theorem ofbundleIpSecondaryReconfigure_ip6Frame :
    Frame (fun o => o.bundlesBy (·.ip6Addresses)) (ofbundleIpSecondaryReconfigure b s false) := by
  have hset : ∀ f : OfbundleSai → List String, Frame (fun o => o.bundlesBy (·.ip6Addresses))
      (modifyBundle b fun bundle => bundle.setSecondary false (f bundle)) :=
    fun _ => modifyBundle_ip6Frame fun _ => rfl
  have hwalk : ∀ table : List String, Frame (fun o => o.bundlesBy (·.ip6Addresses))
      (walkTable table) := fun _ => Rel.bind onHw_ip6Frame fun _ => Rel.pure _
  refine (ofbundle_rel b).bind fun bundle => (hwalk _).bind fun _ => (hwalk _).bind fun _ => ?_
  refine Rel.thenOk (Rel.forEach fun ip => (Rel.pure _).ite ?_)
    (Rel.forEach fun ip => (ofbundle_rel b).bind fun _ => (Rel.pure _).ite ?_)
  · refine Rel.thenOk ?_ ((hset _).bind fun _ => Rel.pure _)
    exact ofprotoIpPrefix_rel.bind fun _ => (Rel.gets _).bind fun _ => onHw_ip6Frame
  · refine Rel.thenOk ?_ ((hset _).bind fun _ => Rel.pure _)
    exact ofprotoIpPrefix_rel.bind fun _ => (Rel.gets _).bind fun _ => onHw_ip6Frame

omit [Build] in
theorem ip6Ok_of_frame (hframe : o'.bundlesBy (·.ip6Addresses) = o.bundlesBy (·.ip6Addresses))
    (h : o.Ip6Ok b) : o'.Ip6Ok b := by
  unfold OfprotoSai.Ip6Ok
  rwa [hframe]

/-- The routes after a reconfiguration that succeeds. -/
theorem ofbundleIpReconfigure_ok (hflags : s.ipChange.primaryIpv4 = true ∧
      s.ipChange.secondaryIpv4 = true)
    (hat : o.Ip4At b R primary secondary) (h6 : o.Ip6Ok b)
    (htext : ∀ ip ∈ s.ip4AddressSecondary, OvsLib.addrIsIpv6 ip = false)
    (h6new : ∀ ip ∈ s.ip6Address.toList ++ s.ip6AddressSecondary, Ip6Text ip)
    (h : ofbundleIpReconfigure b s o = .ok (0, o')) :
    o'.ip4ToMe = (R \ ip4Hosts (primary.toList.filter fun ip => s.ip4Address ≠ some ip) ∪
        ip4Hosts s.ip4Address.toList) \
          ip4Hosts (secondary.filter (· ∉ s.ip4AddressSecondary)) ∪
      ip4Hosts (s.ip4AddressSecondary.filter (· ∉ secondary)) := by
  rw [ofbundleIpReconfigure, if_pos hflags.1, if_pos hflags.2] at h
  obtain ⟨o₁, h₁, h⟩ := thenOk_zero.mp h
  obtain ⟨o₂, h₂, h⟩ := thenOk_zero.mp h
  obtain ⟨o₃, h₃, h₄⟩ := thenOk_zero.mp h
  have hat₁ := ipPrimaryReconfigure_ok hat h₁
  have h6₁ := ip6Ok_of_frame (ipPrimaryReconfigure_ip6Frame _ _ _ h₁) h6
  have hprimary6 : Rel (SameIp4 b) (if s.ipChange.primaryIpv6 then
      ipPrimaryReconfigure b true s.ip6Address else pure 0) :=
    (ipPrimaryReconfigure_sameIp4 fun ip hip => h6new ip (List.mem_append_left _ hip)).ite
      (Rel.pure _)
  obtain ⟨h6₂, hsame₂⟩ := hprimary6 _ _ _ h₂ h6₁
  obtain ⟨secondary', hat₃⟩ := ofbundleIpSecondaryReconfigure_ok (hsame₂ _ _ _ hat₁) htext h₃
  have h6₃ := ip6Ok_of_frame (ofbundleIpSecondaryReconfigure_ip6Frame _ _ _ h₃) h6₂
  have hsecondary6 : Rel (SameIp4 b) (if s.ipChange.secondaryIpv6 then
      ofbundleIpSecondaryReconfigure b s true else pure 0) :=
    (ofbundleIpSecondaryReconfigure_sameIp4 fun ip hip =>
      h6new ip (List.mem_append_right _ hip)).ite (Rel.pure _)
  exact ((hsecondary6 _ _ _ h₄ h6₃).2 _ _ _ hat₃).toMe

omit [OvsLib] [Build] in
/-- Two places share a table: what is dropped from the first goes before its additions come, and
then the same in the second. The table is right exactly when the second place drops nothing that the
first has added or that is kept, and the first nothing that the second keeps. -/
theorem reconcile_iff {α : Type} {own R old dropped₁ added₁ dropped₂ kept₂ added₂ : Set α}
    (hR : ∀ x ∈ own, x ∈ R ↔ x ∈ old ∨ x ∈ dropped₂ ∨ x ∈ kept₂)
    (hold : old ⊆ dropped₁ ∪ added₁) (hown : added₁ ∪ (kept₂ ∪ added₂) ⊆ own)
    (h₁ : Disjoint added₁ (kept₂ ∪ added₂)) (h₂ : Disjoint kept₂ added₂) :
    (∀ x ∈ own, x ∈ (R \ dropped₁ ∪ added₁) \ dropped₂ ∪ added₂ ↔
        x ∈ added₁ ∪ (kept₂ ∪ added₂)) ↔
      Disjoint dropped₂ (added₁ ∪ kept₂) ∧ Disjoint dropped₁ kept₂ := by
  rw [Set.disjoint_left] at h₁ h₂
  rw [Set.disjoint_left, Set.disjoint_left]
  constructor
  · refine fun h => ⟨fun x hd hw => ?_, fun x hd hk => ?_⟩
    · have hwanted : x ∈ added₁ ∪ (kept₂ ∪ added₂) := hw.imp id .inl
      rcases (h x (hown hwanted)).mpr hwanted with ⟨-, hnd⟩ | ha
      · exact hnd hd
      · exact hw.elim (fun hw => h₁ hw (.inr ha)) fun hk => h₂ hk ha
    · have hwanted : x ∈ added₁ ∪ (kept₂ ∪ added₂) := .inr (.inl hk)
      rcases (h x (hown hwanted)).mpr hwanted with ⟨⟨-, hnd⟩ | ha, -⟩ | ha
      · exact hnd hd
      · exact h₁ ha (.inl hk)
      · exact h₂ hk ha
  · rintro ⟨hd₂, hd₁⟩ x hx
    constructor
    · rintro (⟨⟨hin, hnd₁⟩ | ha, hnd₂⟩ | ha)
      · rcases (hR x hx).mp hin with ho | hd | hk
        · exact (hold ho).elim (fun hd => absurd hd hnd₁) .inl
        · exact absurd hd hnd₂
        · exact .inr (.inl hk)
      · exact .inl ha
      · exact .inr (.inr ha)
    · rintro (ha | hk | ha)
      · exact .inl ⟨.inr ha, fun hd => hd₂ hd (.inl ha)⟩
      · exact .inl ⟨.inl ⟨(hR x hx).mpr (.inr (.inr hk)), fun hd => hd₁ hd hk⟩,
          fun hd => hd₂ hd (.inr hk)⟩
      · exact .inr ha

omit [OvsLib] [Build] in
/-- The IPv4 addresses a bundle has recorded. -/
def OfbundleSai.ip4Addresses (bundle : OfbundleSai) : List String :=
  bundle.ipv4Primary.toList ++ bundle.ipv4Secondary

omit [OvsLib] [Build] in
def OfprotoBundleSettings.ip4Addresses (s : OfprotoBundleSettings) : List String :=
  s.ip4Address.toList ++ s.ip4AddressSecondary

omit [OvsLib] [Build] in
def OfprotoBundleSettings.ip6Addresses (s : OfprotoBundleSettings) : List String :=
  s.ip6Address.toList ++ s.ip6AddressSecondary

omit [Build] in
/-- Settings that change the IPv4 addresses to addresses of different hosts, whose routes are among
`own`. -/
structure OfprotoBundleSettings.IpWF (own : Set SxIpPrefix) (s : OfprotoBundleSettings) : Prop where
  changed : s.ipChange.primaryIpv4 = true ∧ s.ipChange.secondaryIpv4 = true
  distinct : (s.ip4Addresses.map ip4Host).Nodup
  hosts : ip4Hosts s.ip4Addresses ⊆ own
  text4 : ∀ ip ∈ s.ip4Addresses, OvsLib.addrIsIpv6 ip = false
  text6 : ∀ ip ∈ s.ip6Addresses, Ip6Text ip

omit [Build] in
/-- No secondary address that goes has the host of the new primary address or of a secondary one
that stays, and a primary address that goes does not have the host of a secondary one that stays. -/
def OfbundleSai.NoMove (bundle : OfbundleSai) (s : OfprotoBundleSettings) : Prop :=
  Disjoint (ip4Hosts (bundle.ipv4Secondary.filter (· ∉ s.ip4AddressSecondary)))
    (ip4Hosts s.ip4Address.toList ∪
      ip4Hosts (s.ip4AddressSecondary.filter (· ∈ bundle.ipv4Secondary))) ∧
  Disjoint (ip4Hosts (bundle.ipv4Primary.toList.filter fun ip => s.ip4Address ≠ some ip))
    (ip4Hosts (s.ip4AddressSecondary.filter (· ∈ bundle.ipv4Secondary)))

omit [Build] in
theorem ip4Hosts_filter (ips : List String) (p : String → Prop) [DecidablePred p] :
    ip4Hosts ips = ip4Hosts (ips.filter p) ∪ ip4Hosts (ips.filter (¬p ·)) := by
  rw [← ip4Hosts_append]
  refine ip4Hosts_congr fun ip => ?_
  simp only [List.mem_append, List.mem_filter, decide_eq_true_eq, ← and_or_left]
  exact (and_iff_left (em _)).symm

omit [Build] in
/-- Addresses of different hosts have different routes. -/
theorem ip4Hosts_disjoint {ips ips' : List String}
    (h : ∀ ip ∈ ips, ∀ ip' ∈ ips', ip4Host ip ≠ ip4Host ip') :
    Disjoint (ip4Hosts ips) (ip4Hosts ips') := by
  rw [Set.disjoint_left]
  rintro pfx ⟨-, ip, hip, hpfx⟩ ⟨-, ip', hip', hpfx'⟩
  exact h ip hip ip' hip' (hpfx.trans hpfx'.symm)

/-- **The IPv4 addresses trapped to the CPU** after a reconfiguration that succeeds are those of the
settings exactly when no address moves between the primary and the secondary ones, within the routes
`own` that no other bundle uses. -/
theorem ofbundleIpReconfigure_exact_iff {own : Set SxIpPrefix} {bundle : OfbundleSai}
    (hb : o.bundles.lookup b = some bundle)
    (hold : ∀ pfx ∈ own, pfx ∈ o.ip4ToMe ↔ pfx ∈ ip4Hosts bundle.ip4Addresses)
    (h6 : ∀ ip ∈ bundle.ip6Addresses, Ip6Text ip) (hs : s.IpWF own)
    (hrun : ofbundleIpReconfigure b s o = .ok (0, o')) :
    (∀ pfx ∈ own, pfx ∈ o'.ip4ToMe ↔ pfx ∈ ip4Hosts s.ip4Addresses) ↔ bundle.NoMove s := by
  have hat : o.Ip4At b o.ip4ToMe bundle.ipv4Primary bundle.ipv4Secondary :=
    ⟨rfl, bundle, hb, rfl, rfl⟩
  have h6ok : o.Ip6Ok b := by
    intro ips hips
    simp only [bundlesBy, hb, Option.map_some, Option.some.injEq] at hips
    exact hips ▸ h6
  have htext := fun ip hip => hs.text4 ip (List.mem_append_right _ hip)
  rw [ofbundleIpReconfigure_ok hs.changed hat h6ok htext hs.text6 hrun]
  have hwanted : ip4Hosts s.ip4Addresses = ip4Hosts s.ip4Address.toList ∪
      (ip4Hosts (s.ip4AddressSecondary.filter (· ∈ bundle.ipv4Secondary)) ∪
        ip4Hosts (s.ip4AddressSecondary.filter (· ∉ bundle.ipv4Secondary))) := by
    rw [← ip4Hosts_filter, ← ip4Hosts_append]
    rfl
  have hkept : ip4Hosts (bundle.ipv4Secondary.filter (· ∈ s.ip4AddressSecondary)) =
      ip4Hosts (s.ip4AddressSecondary.filter (· ∈ bundle.ipv4Secondary)) :=
    ip4Hosts_congr fun ip => by simp [and_comm]
  have hR : ∀ pfx ∈ own, pfx ∈ o.ip4ToMe ↔ pfx ∈ ip4Hosts bundle.ipv4Primary.toList ∨
      pfx ∈ ip4Hosts (bundle.ipv4Secondary.filter (· ∉ s.ip4AddressSecondary)) ∨
      pfx ∈ ip4Hosts (s.ip4AddressSecondary.filter (· ∈ bundle.ipv4Secondary)) := by
    intro pfx hpfx
    have hsplit := ip4Hosts_filter bundle.ipv4Secondary (· ∈ s.ip4AddressSecondary)
    rw [hkept] at hsplit
    rw [hold pfx hpfx, OfbundleSai.ip4Addresses, ip4Hosts_append, hsplit]
    exact or_congr_right or_comm
  have hprimary : ip4Hosts bundle.ipv4Primary.toList ⊆
      ip4Hosts (bundle.ipv4Primary.toList.filter fun ip => s.ip4Address ≠ some ip) ∪
        ip4Hosts s.ip4Address.toList := by
    rw [← ip4Hosts_append]
    rintro pfx ⟨hv, ip, hip, hpfx⟩
    refine ⟨hv, ip, ?_, hpfx⟩
    by_cases hnew : s.ip4Address = some ip
    · simp [hnew]
    · simp [hnew, Option.mem_toList.mp hip]
  obtain ⟨-, hsecondary, hcross⟩ := List.nodup_append.mp ((List.map_append ..) ▸ hs.distinct)
  have hhosts := hs.hosts
  rw [hwanted] at hhosts ⊢
  refine reconcile_iff hR hprimary hhosts ?_ ?_
  · rw [← ip4Hosts_filter]
    refine ip4Hosts_disjoint fun ip hip ip' hip' => ?_
    exact hcross _ (List.mem_map_of_mem hip) _ (List.mem_map_of_mem hip')
  · refine ip4Hosts_disjoint fun ip hip ip' hip' heq => ?_
    rw [List.mem_filter, decide_eq_true_eq] at hip hip'
    exact hip'.2 (List.inj_on_of_nodup_map hsecondary hip.1 hip'.1 heq ▸ hip.2)

end

section
attribute [local instance] sampleOvs sampleBuild

/-- The host route of 10.0.0.1. -/
def sampleHost : SxIpPrefix := ⟨.ipv4, [0x0a000001], [0xffffffff]⟩

/-- A VRF with one bundle, which traps some routes. -/
def ipOfproto (bundle : OfbundleSai) (routes : SxIpPrefix → Option HwRoute) : OfprotoSai :=
  (OfprotoSai.new .vrf 0 samplePorts { Hw.reset with routes := fun _ => routes }).setBundle 1 bundle

/-- Settings with the primary address 10.0.0.1/24. -/
def primarySettings : OfprotoBundleSettings :=
  { accessSettings 2 with
    ipChange := ⟨true, false, true, false⟩, ip4Address := some "10.0.0.1/24" }

theorem primarySettings_wf : primarySettings.IpWF {pfx | pfx.version = .ipv4} where
  changed := ⟨rfl, rfl⟩
  distinct := by decide
  hosts := fun _ h => h.1
  text4 := by decide
  text6 := by
    intro ip hip
    cases hip

/-- A bundle without addresses gets 10.0.0.1/24. -/
theorem ofbundleIpReconfigure_exact_iff_primary :
    ∃ o' : OfprotoSai, ofbundleIpReconfigure 1 primarySettings
        (ipOfproto (.alloc 1 none) fun _ => none) = .ok (0, o') ∧ sampleHost ∈ o'.ip4ToMe := by
  obtain ⟨o', hrun⟩ := result_eq_some.mp (show result (ofbundleIpReconfigure 1 primarySettings)
    (ipOfproto (.alloc 1 none) fun _ => none) = some 0 by decide)
  have hb : (ipOfproto (.alloc 1 none) fun _ => none).bundles.lookup 1 = some (.alloc 1 none) := rfl
  have hold : ∀ pfx ∈ {pfx : SxIpPrefix | pfx.version = .ipv4},
      pfx ∈ (ipOfproto (.alloc 1 none) fun _ => none).ip4ToMe ↔
        pfx ∈ ip4Hosts (OfbundleSai.alloc 1 none).ip4Addresses := by
    intro pfx _
    constructor
    · rintro ⟨-, h⟩
      cases h
    · rintro ⟨-, ip, hip, -⟩
      cases hip
  have hnomove : (OfbundleSai.alloc 1 none).NoMove primarySettings := by
    simp [OfbundleSai.NoMove, OfbundleSai.alloc]
  have h6 : ∀ ip ∈ (OfbundleSai.alloc 1 none).ip6Addresses, Ip6Text ip := by
    intro ip hip
    cases hip
  have h := (ofbundleIpReconfigure_exact_iff hb hold h6 primarySettings_wf hrun).mpr hnomove
  refine ⟨o', hrun, (h sampleHost rfl).mpr ⟨rfl, "10.0.0.1/24", ?_, ?_⟩⟩
  · decide
  · decide

/-- 10.0.0.1/24 moves from the secondary addresses to the primary one, and its route is gone. -/
theorem ofbundleIpReconfigure_move :
    ∃ o' : OfprotoSai, ofbundleIpReconfigure 1 primarySettings
      (ipOfproto { OfbundleSai.alloc 1 none with ipv4Secondary := ["10.0.0.1/24"] } fun pfx =>
        if pfx = sampleHost then some .ip2me else none) = .ok (0, o') ∧
      sampleHost ∈ ip4Hosts primarySettings.ip4Addresses ∧ sampleHost ∉ o'.ip4ToMe := by
  obtain ⟨o', hrun⟩ := result_eq_some.mp (show result (do
    let st ← ofbundleIpReconfigure 1 primarySettings
    let r ← gets fun o => o.hw.routes o.vrid sampleHost
    pure (st, r)) (ipOfproto { OfbundleSai.alloc 1 none with ipv4Secondary := ["10.0.0.1/24"] }
      fun pfx => if pfx = sampleHost then some .ip2me else none) = some (0, none) by decide)
  obtain ⟨st, o₁, hset, hend⟩ := bind_ok.mp hrun
  rw [gets_bind, pure_apply] at hend
  simp only [Except.ok.injEq, Prod.mk.injEq] at hend
  obtain ⟨⟨rfl, hroute⟩, -⟩ := hend
  refine ⟨o₁, hset, ⟨rfl, "10.0.0.1/24", by decide, by decide⟩, fun h => ?_⟩
  cases hroute.symm.trans h.2

end

end SwitchdSai
