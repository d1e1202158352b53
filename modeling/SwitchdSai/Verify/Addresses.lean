import SwitchdSai.Verify.Frames
import SwitchdSai.Verify.Rules

/-!
# The addresses that a bundle records

What a reconfiguration of the addresses that succeeds leaves in the records of the bundle. The
primary addresses are those of the settings. A secondary address of the settings is not recorded
when its text is of the other version and the table of that version has it already: the table is
chosen by the text of the address when it is looked up and by the settings when it is added.
-/

namespace SwitchdSai

open Exec OfprotoSai

/-- The addresses of a bundle, by version. -/
structure IpRecord where
  primary : Bool → Option String
  secondary : Bool → List String

def OfbundleSai.ipRecord (bundle : OfbundleSai) : IpRecord :=
  ⟨fun isIpv6 => bundle.primary isIpv6, fun isIpv6 => bundle.secondary isIpv6⟩

/-- The addresses that the bundle `b` has recorded. -/
abbrev OfprotoSai.ipRecord (o : OfprotoSai) : BundlePtr → Option IpRecord :=
  o.bundlesBy OfbundleSai.ipRecord

namespace IpRecord

def setPrimary (isIpv6 : Bool) (new : Option String) (r : IpRecord) : IpRecord :=
  { r with primary := Function.update r.primary isIpv6 new }

def setSecondary (isIpv6 : Bool) (ips : List String) (r : IpRecord) : IpRecord :=
  { r with secondary := Function.update r.secondary isIpv6 ips }

@[simp] theorem setPrimary_setPrimary {r : IpRecord} {v : Bool} {old new : Option String} :
    (r.setPrimary v old).setPrimary v new = r.setPrimary v new := by
  simp [setPrimary]

theorem setPrimary_self {r : IpRecord} {v : Bool} : r.setPrimary v (r.primary v) = r := by
  simp [setPrimary]

@[simp] theorem setSecondary_setSecondary {r : IpRecord} {v : Bool} {old new : List String} :
    (r.setSecondary v old).setSecondary v new = r.setSecondary v new := by
  simp [setSecondary]

theorem setSecondary_self {r : IpRecord} {v : Bool} : r.setSecondary v (r.secondary v) = r := by
  simp [setSecondary]

@[simp] theorem setSecondary_secondary {r : IpRecord} {v : Bool} {ips : List String} :
    (r.setSecondary v ips).secondary v = ips := by
  simp [setSecondary]

theorem setSecondary_of_ne {r : IpRecord} {v w : Bool} {ips : List String} (h : w ≠ v) :
    (r.setSecondary v ips).secondary w = r.secondary w := Function.update_of_ne h ..

@[simp] theorem setSecondary_other {r : IpRecord} {v : Bool} {ips : List String} :
    ((r.setSecondary v ips).secondary !v) = r.secondary !v := setSecondary_of_ne (by simp)

end IpRecord

/-- The primary address of the settings. -/
def OfprotoBundleSettings.primary (isIpv6 : Bool) (s : OfprotoBundleSettings) : Option String :=
  if isIpv6 then s.ip6Address else s.ip4Address

/-- The secondary addresses of the settings. -/
def OfprotoBundleSettings.secondary (isIpv6 : Bool) (s : OfprotoBundleSettings) : List String :=
  if isIpv6 then s.ip6AddressSecondary else s.ip4AddressSecondary

/-- Whether the primary address has changed. -/
def IpChange.primary (isIpv6 : Bool) (c : IpChange) : Bool :=
  if isIpv6 then c.primaryIpv6 else c.primaryIpv4

/-- Whether the secondary addresses have changed. -/
def IpChange.secondary (isIpv6 : Bool) (c : IpChange) : Bool :=
  if isIpv6 then c.secondaryIpv6 else c.secondaryIpv4

variable {o o' : OfprotoSai} {b : BundlePtr} {bundle : OfbundleSai} {s : OfprotoBundleSettings}
  {isIpv6 ipv6Prefix : Bool} {ip : String} {r : IpRecord} {st : Int}

theorem setPrimary_ipRecord {new : Option String} :
    (bundle.setPrimary isIpv6 new).ipRecord = bundle.ipRecord.setPrimary isIpv6 new := by
  refine IpRecord.mk.injEq .. |>.mpr ⟨funext fun v => ?_, funext fun v => ?_⟩ <;>
    cases isIpv6 <;> cases v <;> rfl

theorem setSecondary_ipRecord {ips : List String} :
    (bundle.setSecondary isIpv6 ips).ipRecord = bundle.ipRecord.setSecondary isIpv6 ips := by
  refine IpRecord.mk.injEq .. |>.mpr ⟨funext fun v => ?_, funext fun v => ?_⟩ <;>
    cases isIpv6 <;> cases v <;> rfl

theorem ipRecord_of_lookup (hb : o.bundles.lookup b = some bundle) :
    o.ipRecord b = some bundle.ipRecord := by
  simp [OfprotoSai.ipRecord, bundlesBy, hb]

theorem ipRecord_of_lookup_eq (hr : o.ipRecord b = some r)
    (hb : o.bundles.lookup b = some bundle) : bundle.ipRecord = r :=
  Option.some.inj ((ipRecord_of_lookup hb).symm.trans hr)

/-- Changing the record of a bundle. -/
theorem modifyBundle_ipRecord {f : OfbundleSai → OfbundleSai} {u : Unit} {r' : IpRecord}
    (hr : o.ipRecord b = some r) (hf : ∀ bundle, bundle.ipRecord = r → (f bundle).ipRecord = r')
    (h : modifyBundle b f o = .ok (u, o')) : o'.ipRecord b = some r' := by
  obtain ⟨bundle, hb, rfl⟩ := modifyBundle_ok.mp h
  have hb' : (o.setBundle b (f bundle)).bundles.lookup b = some (f bundle) :=
    (setBundle_lookup ..).trans (if_pos rfl)
  rw [ipRecord_of_lookup hb', hf bundle (ipRecord_of_lookup_eq hr hb)]

/-! ## One address -/

section
variable [OvsLib] [Build]

omit [Build] in
theorem ofprotoIpAdd_ipRecord : Frame OfprotoSai.ipRecord (ofprotoIpAdd ip isIpv6) :=
  ofprotoIpPrefix_rel.bind fun _ => (Rel.gets _).bind fun _ => onHw_rel fun _ _ _ _ => rfl

theorem ofprotoIpRemove_ipRecord : Frame OfprotoSai.ipRecord (ofprotoIpRemove ip isIpv6) :=
  ofprotoIpPrefix_rel.bind fun _ => (Rel.gets _).bind fun _ => onHw_rel fun _ _ _ _ => rfl

theorem ipSecondaryRemove_record (hr : o.ipRecord b = some r)
    (h : ipSecondaryRemove b isIpv6 ipv6Prefix ip o = .ok (0, o')) :
    o'.ipRecord b = some (r.setSecondary isIpv6 ((r.secondary isIpv6).erase ip)) := by
  obtain ⟨o₁, hremove, hset⟩ := thenOk_zero.mp h
  obtain ⟨_, o₂, hm, hend⟩ := bind_ok.mp hset
  cases hend
  rw [← ofprotoIpRemove_ipRecord _ _ _ hremove] at hr
  refine modifyBundle_ipRecord hr (fun bundle hbundle => ?_) hm
  rw [setSecondary_ipRecord, ← hbundle]
  rfl

omit [Build] in
theorem ipSecondaryAdd_record (hr : o.ipRecord b = some r)
    (h : ipSecondaryAdd b isIpv6 ip o = .ok (0, o')) :
    o'.ipRecord b = some (r.setSecondary isIpv6 (ip :: r.secondary isIpv6)) := by
  obtain ⟨o₁, hadd, hset⟩ := thenOk_zero.mp h
  obtain ⟨_, o₂, hm, hend⟩ := bind_ok.mp hset
  cases hend
  rw [← ofprotoIpAdd_ipRecord _ _ _ hadd] at hr
  refine modifyBundle_ipRecord hr (fun bundle hbundle => ?_) hm
  rw [setSecondary_ipRecord, ← hbundle]
  rfl

omit [OvsLib] [Build] in
/-- Setting the primary address in the record, after a call that leaves the records alone. -/
theorem setPrimary_record {m : Exec OfprotoSai Int} {new : Option String}
    (hm : Frame OfprotoSai.ipRecord m) (hr : o.ipRecord b = some r)
    (h : (m.thenOk do modifyBundle b (OfbundleSai.setPrimary isIpv6 new); return 0) o =
      .ok (0, o')) : o'.ipRecord b = some (r.setPrimary isIpv6 new) := by
  obtain ⟨o₁, hcall, hset⟩ := thenOk_zero.mp h
  obtain ⟨_, o₂, hmodify, hend⟩ := bind_ok.mp hset
  cases hend
  rw [← hm _ _ _ hcall] at hr
  refine modifyBundle_ipRecord hr (fun bundle hbundle => ?_) hmodify
  rw [setPrimary_ipRecord, hbundle]

/-! ## The primary and the secondary addresses -/

theorem ipPrimaryReconfigure_record {new : Option String} (hr : o.ipRecord b = some r)
    (h : ipPrimaryReconfigure b isIpv6 new o = .ok (0, o')) :
    o'.ipRecord b = some (r.setPrimary isIpv6 new) := by
  obtain ⟨bundle, hb, h⟩ := ofbundle_bind.mp h
  obtain ⟨o₁, hdrop, hadd⟩ := thenOk_zero.mp h
  obtain rfl := ipRecord_of_lookup_eq hr hb
  -- after the old address has been dropped
  have hkept : ∃ kept, o₁.ipRecord b = some (bundle.ipRecord.setPrimary isIpv6 kept) ∧
      (new = none → kept = none) := by
    have hself : bundle.ipRecord = bundle.ipRecord.setPrimary isIpv6 (bundle.primary isIpv6) :=
      IpRecord.setPrimary_self.symm
    cases hold : bundle.primary isIpv6 with
    | none =>
      rw [hold] at hdrop hself
      cases hdrop
      exact ⟨none, hr.trans (congrArg some hself), fun _ => rfl⟩
    | some old =>
      rw [hold] at hdrop hself
      dsimp only at hdrop
      by_cases hnew : new = some old
      · rw [if_pos hnew] at hdrop
        cases hdrop
        exact ⟨some old, hr.trans (congrArg some hself), fun h => absurd (hnew.symm.trans h) nofun⟩
      · rw [if_neg hnew] at hdrop
        exact ⟨none, setPrimary_record ofprotoIpRemove_ipRecord hr hdrop, fun _ => rfl⟩
  obtain ⟨kept, hr₁, hkept⟩ := hkept
  cases new with
  | none =>
    cases hadd
    rwa [hkept rfl] at hr₁
  | some ip =>
    rw [setPrimary_record ofprotoIpAdd_ipRecord hr₁ hadd, IpRecord.setPrimary_setPrimary]

/-- The first loop takes the old addresses that are not wanted off the table. -/
theorem secondaryRemove_record {ips kept wanted : List String} (hr : o.ipRecord b = some r)
    (hperm : (r.secondary isIpv6).Perm (ips ++ kept))
    (h : (forEach ips fun ip =>
      if wanted.contains ip then pure 0 else ipSecondaryRemove b isIpv6 false ip) o = .ok (0, o')) :
    ∃ l, o'.ipRecord b = some (r.setSecondary isIpv6 l) ∧
      l.Perm (ips.filter (· ∈ wanted) ++ kept) := by
  induction ips generalizing o r kept with
  | nil =>
    cases h
    refine ⟨r.secondary isIpv6, ?_, by simpa using hperm⟩
    rw [hr, IpRecord.setSecondary_self]
  | cons ip ips ih =>
    obtain ⟨o₁, hone, hrest⟩ := thenOk_zero.mp h
    beta_reduce at hone
    by_cases hw : ip ∈ wanted
    · rw [if_pos (by simpa using hw)] at hone
      cases hone
      obtain ⟨l, hl, hlperm⟩ := ih hr (hperm.trans List.perm_middle.symm) hrest
      refine ⟨l, hl, ?_⟩
      simpa [hw] using hlperm.trans List.perm_middle
    · rw [if_neg (by simpa using hw)] at hone
      have hr₁ := ipSecondaryRemove_record hr hone
      have hperm₁ : ((r.secondary isIpv6).erase ip).Perm (ips ++ kept) := by
        simpa using hperm.erase ip
      obtain ⟨l, hl, hlperm⟩ := ih hr₁ (by simpa using hperm₁) hrest
      exact ⟨l, by simpa using hl, by simpa [hw] using hlperm⟩

omit [Build] in
/-- The last loop adds the new addresses that are not found. One of the other version is found in
the other table. -/
theorem secondaryAdd_record {ips : List String} (hr : o.ipRecord b = some r)
    (h : (forEach ips fun ip => do
      let bundle ← ofbundle b
      if bundle.ipSecondaryFind ip then pure 0 else ipSecondaryAdd b isIpv6 ip) o = .ok (0, o')) :
    ∃ l, o'.ipRecord b = some (r.setSecondary isIpv6 l) ∧
      ∀ ip, ip ∈ l ↔ ip ∈ r.secondary isIpv6 ∨
        ip ∈ ips ∧ (OvsLib.addrIsIpv6 ip = isIpv6 ∨ ip ∉ r.secondary !isIpv6) := by
  induction ips generalizing o r with
  | nil =>
    cases h
    refine ⟨r.secondary isIpv6, ?_, by simp⟩
    rw [hr, IpRecord.setSecondary_self]
  | cons ip ips ih =>
    obtain ⟨o₁, hone, hrest⟩ := thenOk_zero.mp h
    beta_reduce at hone
    obtain ⟨bundle, hb, hone⟩ := ofbundle_bind.mp hone
    obtain rfl := ipRecord_of_lookup_eq hr hb
    have hfind : bundle.ipSecondaryFind ip = true ↔
        ip ∈ bundle.ipRecord.secondary (OvsLib.addrIsIpv6 ip) := by
      simp [OfbundleSai.ipSecondaryFind, OfbundleSai.ipRecord]
    have htext : OvsLib.addrIsIpv6 ip = isIpv6 ∨ OvsLib.addrIsIpv6 ip = !isIpv6 := by
      cases OvsLib.addrIsIpv6 ip <;> cases isIpv6 <;> simp
    by_cases hin : ip ∈ bundle.ipRecord.secondary (OvsLib.addrIsIpv6 ip)
    · rw [if_pos (hfind.mpr hin)] at hone
      cases hone
      obtain ⟨l, hl, hmem⟩ := ih hr hrest
      refine ⟨l, hl, fun x => (hmem x).trans ?_⟩
      by_cases hx : x = ip
      · subst hx
        rcases htext with htext | htext <;> rw [htext] at hin ⊢ <;> simp [hin]
      · simp [hx]
    · rw [if_neg (mt hfind.mp hin)] at hone
      obtain ⟨l, hl, hmem⟩ := ih (ipSecondaryAdd_record hr hone) hrest
      refine ⟨l, by simpa using hl, fun x => (hmem x).trans ?_⟩
      by_cases hx : x = ip
      · subst hx
        rcases htext with htext | htext <;> rw [htext] at hin ⊢ <;> simp [hin]
      · simp [hx]

/-- The two loops of a reconfiguration of the secondary addresses that succeeds. -/
theorem ofbundleIpSecondaryReconfigure_zero (hr : o.ipRecord b = some r)
    (h : ofbundleIpSecondaryReconfigure b s isIpv6 o = .ok (0, o')) :
    ∃ oldIps newIps o₁ o₂, oldIps.Perm (r.secondary isIpv6) ∧
      (∀ ip, ip ∈ newIps ↔ ip ∈ s.secondary isIpv6) ∧ o₁.ipRecord b = some r ∧
      (forEach oldIps fun ip => if (s.secondary isIpv6).contains ip then pure 0
        else ipSecondaryRemove b isIpv6 false ip) o₁ = .ok (0, o₂) ∧
      (forEach newIps fun ip => do
        let bundle ← ofbundle b
        if bundle.ipSecondaryFind ip then pure 0 else ipSecondaryAdd b isIpv6 ip) o₂ =
          .ok (0, o') := by
  obtain ⟨bundle, hb, h⟩ := ofbundle_bind.mp h
  obtain rfl := ipRecord_of_lookup_eq hr hb
  obtain ⟨oldIps, o₁, hwalk₁, h⟩ := bind_ok.mp h
  obtain ⟨newIps, o₂, hwalk₂, h⟩ := bind_ok.mp h
  obtain ⟨hold, cs₁, rfl⟩ := walkTable_ok hwalk₁
  obtain ⟨hnew, cs₂, rfl⟩ := walkTable_ok hwalk₂
  obtain ⟨o₃, hremove, hadd⟩ := thenOk_zero.mp h
  have hr₁ : OfprotoSai.ipRecord { o with hw := { o.hw with choices := cs₂ } } b =
      some bundle.ipRecord := hr
  refine ⟨oldIps, newIps, _, o₃, hold, fun ip => ?_, hr₁, hremove, hadd⟩
  rw [hnew.mem_iff]
  exact List.mem_dedup

/-- The secondary addresses after a reconfiguration of one version. -/
theorem ofbundleIpSecondaryReconfigure_record (hr : o.ipRecord b = some r)
    (h : ofbundleIpSecondaryReconfigure b s isIpv6 o = .ok (0, o')) :
    ∃ l, o'.ipRecord b = some (r.setSecondary isIpv6 l) ∧
      ∀ ip, ip ∈ l ↔ ip ∈ s.secondary isIpv6 ∧ (ip ∈ r.secondary isIpv6 ∨
        OvsLib.addrIsIpv6 ip = isIpv6 ∨ ip ∉ r.secondary !isIpv6) := by
  obtain ⟨oldIps, newIps, o₁, o₂, hold, hmem, hr₁, hremove, hadd⟩ :=
    ofbundleIpSecondaryReconfigure_zero hr h
  have hperm : (r.secondary isIpv6).Perm (oldIps ++ []) := by
    rw [List.append_nil]
    exact hold.symm
  obtain ⟨kept, hr₂, hkept⟩ := secondaryRemove_record hr₁ hperm hremove
  obtain ⟨l, hl, hlmem⟩ := secondaryAdd_record hr₂ hadd
  have hkept : ∀ ip, ip ∈ kept ↔ ip ∈ r.secondary isIpv6 ∧ ip ∈ s.secondary isIpv6 := fun ip => by
    rw [hkept.mem_iff, hperm.mem_iff]
    simp
  refine ⟨l, by simpa using hl, fun ip => ?_⟩
  rw [hlmem ip, hmem ip, IpRecord.setSecondary_secondary, IpRecord.setSecondary_other, hkept ip]
  tauto

/-! ## The whole reconfiguration -/

theorem primaryStep_record {c : Bool} {new : Option String} (hr : o.ipRecord b = some r)
    (h : (if c then ipPrimaryReconfigure b isIpv6 new else pure 0) o = .ok (0, o')) :
    o'.ipRecord b = some (if c then r.setPrimary isIpv6 new else r) := by
  cases c with
  | true => exact ipPrimaryReconfigure_record hr h
  | false =>
    cases h
    exact hr

theorem secondaryStep_record {c : Bool} (hr : o.ipRecord b = some r)
    (h : (if c then ofbundleIpSecondaryReconfigure b s isIpv6 else pure 0) o = .ok (0, o')) :
    ∃ l, o'.ipRecord b = some (r.setSecondary isIpv6 l) ∧ (c = false → l = r.secondary isIpv6) ∧
      (c = true → ∀ ip, ip ∈ l ↔ ip ∈ s.secondary isIpv6 ∧ (ip ∈ r.secondary isIpv6 ∨
        OvsLib.addrIsIpv6 ip = isIpv6 ∨ ip ∉ r.secondary !isIpv6)) := by
  cases c with
  | true =>
    obtain ⟨l, hl, hmem⟩ := ofbundleIpSecondaryReconfigure_record hr h
    exact ⟨l, hl, nofun, fun _ => hmem⟩
  | false =>
    cases h
    exact ⟨_, by rw [hr, IpRecord.setSecondary_self], fun _ => rfl, nofun⟩

/-- The records after a reconfiguration that succeeds, by the records before. -/
structure IpRecord.Follows (s : OfprotoBundleSettings) (r r' : IpRecord) : Prop where
  primary : ∀ v, r'.primary v = if s.ipChange.primary v then s.primary v else r.primary v
  kept : ∀ v, s.ipChange.secondary v = false → r'.secondary v = r.secondary v
  secondary4 : s.ipChange.secondary false = true → ∀ ip, ip ∈ r'.secondary false ↔
    ip ∈ s.secondary false ∧
      (ip ∈ r.secondary false ∨ OvsLib.addrIsIpv6 ip = false ∨ ip ∉ r.secondary true)
  secondary6 : s.ipChange.secondary true = true → ∀ ip, ip ∈ r'.secondary true ↔
    ip ∈ s.secondary true ∧
      (ip ∈ r.secondary true ∨ OvsLib.addrIsIpv6 ip = true ∨ ip ∉ r'.secondary false)

/-- The secondary addresses of the settings that are texts of the other version have not been
recorded for that version. -/
structure OfprotoBundleSettings.TextsFit (s : OfprotoBundleSettings) (r : IpRecord) : Prop where
  secondary4 : s.ipChange.secondary false = true → ∀ ip ∈ s.secondary false,
    OvsLib.addrIsIpv6 ip = true → ip ∈ r.secondary true → ip ∈ r.secondary false
  secondary6 : s.ipChange.secondary true = true → ∀ ip ∈ s.secondary true,
    OvsLib.addrIsIpv6 ip = false →
      ip ∈ (if s.ipChange.secondary false then s.secondary false else r.secondary false) →
      ip ∈ r.secondary true

omit [Build] in
theorem IpRecord.Follows.secondary_iff {r' : IpRecord} (h : r.Follows s r') :
    (∀ v, s.ipChange.secondary v = true → ∀ ip, ip ∈ r'.secondary v ↔ ip ∈ s.secondary v) ↔
      s.TextsFit r := by
  constructor
  · intro hexact
    refine ⟨fun hc ip hip htext hother => ?_, fun hc ip hip htext hother => ?_⟩
    · have := ((h.secondary4 hc ip).mp ((hexact false hc ip).mpr hip)).2
      simpa [htext, hother] using this
    · have hin : ip ∈ r'.secondary false := by
        split at hother
        next h4 => exact (hexact false h4 ip).mpr hother
        next h4 => rwa [h.kept false (by simpa using h4)]
      have := ((h.secondary6 hc ip).mp ((hexact true hc ip).mpr hip)).2
      simpa [htext, hin] using this
  · intro hfit
    have h4 : s.ipChange.secondary false = true →
        ∀ ip, ip ∈ r'.secondary false ↔ ip ∈ s.secondary false := fun hc ip => by
      rw [h.secondary4 hc ip, and_iff_left_iff_imp]
      intro hip
      cases htext : OvsLib.addrIsIpv6 ip with
      | false => exact .inr (.inl rfl)
      | true =>
        by_cases hother : ip ∈ r.secondary true
        · exact .inl (hfit.secondary4 hc ip hip htext hother)
        · exact .inr (.inr hother)
    intro v hc ip
    cases v with
    | false => exact h4 hc ip
    | true =>
      rw [h.secondary6 hc ip, and_iff_left_iff_imp]
      intro hip
      cases htext : OvsLib.addrIsIpv6 ip with
      | true => exact .inr (.inl rfl)
      | false =>
        by_cases hother : ip ∈ r'.secondary false
        · refine .inl (hfit.secondary6 hc ip hip htext ?_)
          split
          next hc4 => exact (h4 hc4 ip).mp hother
          next hc4 => rwa [← h.kept false (by simpa using hc4)]
        · exact .inr (.inr hother)

theorem ofbundleIpReconfigure_record (hr : o.ipRecord b = some r)
    (h : ofbundleIpReconfigure b s o = .ok (0, o')) :
    ∃ r', o'.ipRecord b = some r' ∧ r.Follows s r' := by
  obtain ⟨o₁, h₁, h⟩ := thenOk_zero.mp h
  obtain ⟨o₂, h₂, h⟩ := thenOk_zero.mp h
  obtain ⟨o₃, h₃, h₄⟩ := thenOk_zero.mp h
  have hr₂ := primaryStep_record (primaryStep_record hr h₁) h₂
  set r₂ := if s.ipChange.primaryIpv6 then
    (if s.ipChange.primaryIpv4 then r.setPrimary false s.ip4Address else r).setPrimary true
      s.ip6Address
    else if s.ipChange.primaryIpv4 then r.setPrimary false s.ip4Address else r with hr₂_eq
  have hsecondary : r₂.secondary = r.secondary := by
    rw [hr₂_eq]
    split <;> split <;> rfl
  have hprimary : ∀ v,
      r₂.primary v = if s.ipChange.primary v then s.primary v else r.primary v := by
    intro v
    rw [hr₂_eq]
    cases v <;> cases h4 : s.ipChange.primaryIpv4 <;> cases h6 : s.ipChange.primaryIpv6 <;>
      simp [IpChange.primary, OfprotoBundleSettings.primary, IpRecord.setPrimary, h4, h6]
  obtain ⟨l₄, hr₃, hkept₄, hmem₄⟩ := secondaryStep_record hr₂ h₃
  obtain ⟨l₆, hr₄, hkept₆, hmem₆⟩ := secondaryStep_record hr₃ h₄
  -- what the two tables are after the steps
  have h4 : ((r₂.setSecondary false l₄).setSecondary true l₆).secondary false = l₄ := by
    simp [IpRecord.setSecondary]
  have h6 : ((r₂.setSecondary false l₄).setSecondary true l₆).secondary true = l₆ := by
    simp [IpRecord.setSecondary]
  have hother : (r₂.setSecondary false l₄).secondary true = r.secondary true := by
    simp [IpRecord.setSecondary, hsecondary]
  rw [hother] at hkept₆ hmem₆
  rw [hsecondary] at hkept₄ hmem₄
  refine ⟨_, hr₄, ⟨fun v => hprimary v, fun v hv => ?_, fun hc ip => ?_, fun hc ip => ?_⟩⟩
  · cases v with
    | false => rw [h4, hkept₄ hv]
    | true => rw [h6, hkept₆ hv]
  · rw [h4]
    exact hmem₄ hc ip
  · rw [h4, h6, hmem₆ hc ip]
    simp [IpRecord.setSecondary]

end

end SwitchdSai
