import SwitchdSai.Verify.Lockstep

/-!
# Host routes over the life of a bundle

A bundle without addresses is reconfigured any number of times, and then its addresses are removed.
The prefix of each route call is rebuilt from the text of an address and a flag. The secondary
addresses are added with the flag of IPv4, whatever their version is, and `__ofbundle_ip_remove`
removes them with the flag of their version. So the prefixes agree, and no host route stays behind,
as long as no reconfiguration asks for a secondary IPv6 address.
-/

namespace SwitchdSai

open Exec OfprotoSai

section
variable [OvsLib]

/-- The prefix of the host route of an address, by the version that its text has. -/
def hostPrefix (ip : String) : String := ipHostPrefix ip (OvsLib.addrIsIpv6 ip)

/-- The host route of an address. -/
def hostRoute (ip : String) : Option SxIpPrefix := opsSaiCommonIpPrefixToSxIpPrefix (hostPrefix ip)

theorem hostPrefix_eq {ip : String} {v : Bool} (hv : OvsLib.addrIsIpv6 ip = v) :
    hostPrefix ip = ipHostPrefix ip v := by
  rw [hostPrefix, hv]

theorem hostRoute_eq {ip : String} {v : Bool} (hv : OvsLib.addrIsIpv6 ip = v) :
    hostRoute ip = ipHostRoute ip v := by
  rw [hostRoute, hostPrefix_eq hv, ipHostRoute]

/-- The prefix that a call is about. -/
def IpCall.route (e : IpCall) : Option SxIpPrefix := opsSaiCommonIpPrefixToSxIpPrefix e.pfx

/-- The call has set the host route `pfx`. -/
def IpCall.Adds (pfx : SxIpPrefix) (e : IpCall) : Prop :=
  e.add = true ∧ e.status = 0 ∧ e.route = some pfx

end

/-- Bundle `b` has recorded `ip` in slot `σ`. -/
def OfprotoSai.Recorded (b : BundlePtr) (o : OfprotoSai) (σ : IpSlot) (ip : String) : Prop :=
  ∃ r, o.ipRecord b = some r ∧ ip ∈ r.inSlot σ

/-- The calls for an address of slot `σ` with flag `v` are for its host route: the address has the
version of the slot and of the flag. -/
structure Fits [OvsLib] (σ : IpSlot) (ip : String) : Prop where
  isIpv6 : OvsLib.addrIsIpv6 ip = σ.isIpv6
  /-- The secondary addresses are added as IPv4 addresses. -/
  secondary : σ.isSecondary = true → σ.isIpv6 = false

/-- The address has a host route, and one of the calls adds it. -/
def WasAdded [OvsLib] (past : List IpCall) (ip : String) : Prop :=
  (hostRoute ip).isSome ∧ ∃ e ∈ past, e.add = true ∧ e.ip = ip

/-- What the calls `past` and the state have in common. -/
structure HostInv [OvsLib] (b : BundlePtr) (past : List IpCall) (o : OfprotoSai) : Prop where
  fits : ∀ σ ip, o.Recorded b σ ip → Fits σ ip
  added : ∀ σ ip, o.Recorded b σ ip → WasAdded past ip
  /-- A host route that is left belongs to an address that is recorded. -/
  covered : ∀ pfx, (∃ e ∈ past, e.Adds pfx) → o.hw.routes o.vrid pfx = some .ip2me →
    ∃ σ ip, o.Recorded b σ ip ∧ hostRoute ip = some pfx

/-- The invariant, while the addresses `ips` are being removed. -/
def HostInvOn [OvsLib] (b : BundlePtr) (ips : List String) (past : List IpCall) (o : OfprotoSai) :
    Prop := HostInv b past o ∧ ∀ ip ∈ ips, WasAdded past ip

/-- The call is for the host route of its address, and what it removes has been added. -/
def IpCall.Proper [OvsLib] (past : List IpCall) (e : IpCall) : Prop :=
  e.pfx = hostPrefix e.ip ∧ (e.add = false → WasAdded past e.ip)

variable {o o' : OfprotoSai} {b : BundlePtr} {s : OfprotoBundleSettings} {past : List IpCall}
  {isIpv6 v : Bool} {ip : String} {st : Int} {σ : IpSlot} {e : IpCall} {pfx : SxIpPrefix}

/-! ## One call -/

section
variable [OvsLib]

theorem WasAdded.append {l : List IpCall} (h : WasAdded past ip) : WasAdded (past ++ l) ip := by
  obtain ⟨hroute, e, he, hadd⟩ := h
  exact ⟨hroute, e, List.mem_append_left _ he, hadd⟩

/-- The records and the routes are as before. -/
theorem HostInv.of_same (hI : HostInv b past o) (hrec : o'.ipRecord b = o.ipRecord b)
    (hroutes : o'.hw.routes o'.vrid = o.hw.routes o.vrid) : HostInv b past o' := by
  have hrecorded : ∀ {σ ip}, o'.Recorded b σ ip ↔ o.Recorded b σ ip := by
    unfold OfprotoSai.Recorded
    rw [hrec]
  refine ⟨fun σ ip h => hI.fits σ ip (hrecorded.mp h),
    fun σ ip h => hI.added σ ip (hrecorded.mp h), fun pfx hadds hroute => ?_⟩
  rw [hroutes] at hroute
  obtain ⟨σ, ip, h, hpfx⟩ := hI.covered pfx hadds hroute
  exact ⟨σ, ip, hrecorded.mpr h, hpfx⟩

theorem HostInv.failed (hI : HostInv b past o) (h0 : e.status ≠ 0) :
    HostInv b (past ++ [e]) o := by
  refine ⟨hI.fits, fun σ ip h => (hI.added σ ip h).append, fun pfx hadds hroute => ?_⟩
  obtain ⟨e', he', hadds⟩ := hadds
  rcases List.mem_append.mp he' with he' | he'
  · exact hI.covered pfx ⟨e', he', hadds⟩ hroute
  · obtain rfl := List.mem_singleton.mp he'
    exact absurd hadds.2.1 h0

/-- After a call that adds an address, which is recorded. -/
theorem HostInv.add (hI : HostInv b past o) (hfits : Fits σ ip) (hadd : e.add = true)
    (hip : e.ip = ip) (hpfx : e.pfx = hostPrefix ip) (hroute : hostRoute ip = some pfx)
    (hrec : ∀ τ x, o'.Recorded b τ x ↔ o.Recorded b τ x ∨ (τ = σ ∧ x = ip))
    (hroutes : o'.hw.routes o'.vrid = Function.update (o.hw.routes o.vrid) pfx (some .ip2me)) :
    HostInv b (past ++ [e]) o' := by
  refine ⟨fun τ x h => ?_, fun τ x h => ?_, fun pfx' hadds hroute' => ?_⟩
  · rcases (hrec τ x).mp h with h | ⟨rfl, rfl⟩
    · exact hI.fits τ x h
    · exact hfits
  · rcases (hrec τ x).mp h with h | ⟨rfl, rfl⟩
    · exact (hI.added τ x h).append
    · refine ⟨?_, e, List.mem_append_right _ (List.mem_singleton_self e), hadd, hip⟩
      rw [hroute, Option.isSome_some]
  · by_cases hp : pfx' = pfx
    · exact ⟨σ, ip, (hrec σ ip).mpr (.inr ⟨rfl, rfl⟩), hp ▸ hroute⟩
    · obtain ⟨e', he', hadds⟩ := hadds
      rw [hroutes, Function.update_of_ne hp] at hroute'
      rcases List.mem_append.mp he' with he' | he'
      · obtain ⟨τ, x, h, hx⟩ := hI.covered pfx' ⟨e', he', hadds⟩ hroute'
        exact ⟨τ, x, (hrec τ x).mpr (.inl h), hx⟩
      · obtain rfl := List.mem_singleton.mp he'
        have hthis : e'.route = some pfx := (congrArg _ hpfx).trans hroute
        exact absurd (Option.some.inj (hadds.2.2.symm.trans hthis)) hp

/-- After a call that removes an address, which need not be recorded any more. -/
theorem HostInv.remove (hI : HostInv b past o) (hadd : e.add = false)
    (hroute : hostRoute ip = some pfx) (hrec : ∀ τ x, o'.Recorded b τ x → o.Recorded b τ x)
    (hkept : ∀ τ x, o.Recorded b τ x → x ≠ ip → o'.Recorded b τ x)
    (hroutes : o'.hw.routes o'.vrid = Function.update (o.hw.routes o.vrid) pfx none) :
    HostInv b (past ++ [e]) o' := by
  refine ⟨fun τ x h => hI.fits τ x (hrec τ x h), fun τ x h => (hI.added τ x (hrec τ x h)).append,
    fun pfx' hadds hroute' => ?_⟩
  obtain ⟨e', he', hadds⟩ := hadds
  by_cases hp : pfx' = pfx
  · rw [hroutes, hp, Function.update_self] at hroute'
    cases hroute'
  · rw [hroutes, Function.update_of_ne hp] at hroute'
    rcases List.mem_append.mp he' with he' | he'
    · obtain ⟨τ, x, h, hx⟩ := hI.covered pfx' ⟨e', he', hadds⟩ hroute'
      refine ⟨τ, x, hkept τ x h fun hxip => hp ?_, hx⟩
      exact Option.some.inj (hx.symm.trans (hxip ▸ hroute))
    · obtain rfl := List.mem_singleton.mp he'
      exact absurd hadds.1 (by rw [hadd]; decide)

end

section
variable [OvsLib] [Build] {f : OfbundleSai → OfbundleSai}

omit [OvsLib] [Build] in
theorem recorded_of_ipRecord {r : IpRecord} (hr : o.ipRecord b = some r) :
    o.Recorded b σ ip ↔ ip ∈ r.inSlot σ := by
  unfold OfprotoSai.Recorded
  rw [hr]
  simp

omit [Build] in
/-- Adding an address, which the bundle then records. -/
theorem ofprotoIpAdd_keeps (hfits : Fits σ ip) (hv : OvsLib.addrIsIpv6 ip = v)
    (hf : ∀ bundle, o.ipRecord b = some bundle.ipRecord → ∀ τ x,
      x ∈ (f bundle).ipRecord.inSlot τ ↔ x ∈ bundle.ipRecord.inSlot τ ∨ (τ = σ ∧ x = ip))
    (h : ((IpLog.ofprotoIpAdd σ ip v).thenOk do modifyBundle b f; return 0).prog o =
      .ok (st, o')) :
    Logged.Keeps (HostInv b) IpCall.Proper o
      (((IpLog.ofprotoIpAdd σ ip v).thenOk do modifyBundle b f; return 0).log o) o' := by
  obtain ⟨hevent, hrun⟩ := thenRecord_log (fun o st o' h => by
    rw [IpLog.ofprotoIpAdd_prog] at h
    exact IpLog.ofprotoIpAdd_log h) h
  rw [hevent]
  rw [IpLog.ofprotoIpAdd_prog] at hrun
  refine Logged.Keeps.event fun past hI => ⟨?_, (hostPrefix_eq hv).symm, nofun⟩
  rcases hrun with ⟨h0, hcall⟩ | ⟨rfl, o₁, bundle, hcall, hb, rfl⟩
  · obtain ⟨hw, hroutes, rfl⟩ := ofprotoIpAdd_failed hcall h0
    exact (hI.failed h0).of_same rfl (congrFun hroutes _)
  · obtain ⟨pfx, hroute, rfl⟩ := ofprotoIpAdd_hw hcall
    have hr : o.ipRecord b = some bundle.ipRecord := ipRecord_of_lookup hb
    refine hI.add hfits rfl rfl (hostPrefix_eq hv).symm ((hostRoute_eq hv).trans hroute)
      (fun τ x => ?_) (Function.update_self ..)
    rw [recorded_of_ipRecord setBundle_ipRecord, recorded_of_ipRecord hr]
    exact hf bundle hr τ x

/-- Removing an address, which the bundle then does not record any more. -/
theorem ofprotoIpRemove_keeps {ips : List String} (hip : ip ∈ ips)
    (hv : OvsLib.addrIsIpv6 ip = v)
    (hf : ∀ bundle, o.ipRecord b = some bundle.ipRecord → ∀ τ x,
      (x ∈ (f bundle).ipRecord.inSlot τ → x ∈ bundle.ipRecord.inSlot τ) ∧
      (x ∈ bundle.ipRecord.inSlot τ → x ≠ ip → x ∈ (f bundle).ipRecord.inSlot τ))
    (h : ((IpLog.ofprotoIpRemove σ ip v).thenOk do modifyBundle b f; return 0).prog o =
      .ok (st, o')) :
    Logged.Keeps (HostInvOn b ips) IpCall.Proper o
      (((IpLog.ofprotoIpRemove σ ip v).thenOk do modifyBundle b f; return 0).log o) o' := by
  obtain ⟨hevent, hrun⟩ := thenRecord_log (fun o st o' h => by
    rw [IpLog.ofprotoIpRemove_prog] at h
    exact IpLog.ofprotoIpRemove_log h) h
  rw [hevent]
  rw [IpLog.ofprotoIpRemove_prog] at hrun
  refine Logged.Keeps.event fun past ⟨hI, hadded⟩ => ⟨⟨?_, fun x hx => (hadded x hx).append⟩,
    (hostPrefix_eq hv).symm, fun _ => hadded ip hip⟩
  rcases hrun with ⟨h0, hcall⟩ | ⟨rfl, o₁, bundle, hcall, hb, rfl⟩
  · obtain ⟨hw, hroutes, rfl⟩ := ofprotoIpRemove_failed hcall h0
    exact (hI.failed h0).of_same rfl (congrFun hroutes _)
  · obtain ⟨pfx, hroute, rfl⟩ := ofprotoIpRemove_hw hcall
    have hr : o.ipRecord b = some bundle.ipRecord := ipRecord_of_lookup hb
    refine hI.remove rfl ((hostRoute_eq hv).trans hroute) (fun τ x hx => ?_)
      (fun τ x hx hne => ?_) (Function.update_self ..)
    · rw [recorded_of_ipRecord setBundle_ipRecord] at hx
      exact (recorded_of_ipRecord hr).mpr ((hf bundle hr τ x).1 hx)
    · rw [recorded_of_ipRecord hr] at hx
      exact (recorded_of_ipRecord setBundle_ipRecord).mpr ((hf bundle hr τ x).2 hx hne)

/-! ## The functions of the addresses -/

omit [Build] in
/-- Programs of which every run keeps the invariant. -/
abbrev KeepsHosts (b : BundlePtr) {α : Type} (t : Logged IpCall OfprotoSai α) : Prop :=
  Logged.Logs (Logged.Keeps (HostInv b) IpCall.Proper) t

variable {r : IpRecord} {new : Option String}

theorem ipPrimaryDrop_keeps (hr : o.ipRecord b = some r)
    (h : (IpLog.ipPrimaryDrop b isIpv6 (r.primary isIpv6) new).prog o = .ok (st, o')) :
    Logged.Keeps (HostInv b) IpCall.Proper o
      ((IpLog.ipPrimaryDrop b isIpv6 (r.primary isIpv6) new).log o) o' := by
  cases hold : r.primary isIpv6 with
  | none =>
    rw [hold] at h
    cases h
    exact Logged.IsLogRel.nil _
  | some old =>
    rw [hold] at h
    by_cases hnew : new = some old
    · simp only [IpLog.ipPrimaryDrop, if_pos hnew] at h ⊢
      cases h
      exact Logged.IsLogRel.nil _
    · simp only [IpLog.ipPrimaryDrop, if_neg hnew] at h ⊢
      have hrec : o.Recorded b ⟨isIpv6, false⟩ old := by
        rw [recorded_of_ipRecord hr, inSlot_primary, hold]
        simp
      refine Logged.Keeps.assume fun past hI => Logged.Keeps.imp
        (ofprotoIpRemove_keeps (List.mem_singleton_self old) (hI.fits _ _ hrec).isIpv6
          (fun bundle hbundle τ x => ?_) h) (fun past hI => ⟨hI, fun x hx => ?_⟩) fun _ h => h.1
      · obtain rfl : bundle.ipRecord = r := Option.some.inj (hbundle.symm.trans hr)
        rw [setPrimary_ipRecord, setPrimary_inSlot]
        by_cases hτ : τ = ⟨isIpv6, false⟩
        · simp [hτ, hold, eq_comm]
        · rw [if_neg hτ]
          exact ⟨id, fun hx _ => hx⟩
      · rw [List.mem_singleton.mp hx]
        exact hI.added _ _ hrec

omit [Build] in
theorem ipPrimaryAdd_keeps (hr : o.ipRecord b = some r)
    (hnone : r.primary isIpv6 = none ∨ r.primary isIpv6 = new)
    (hfits : ∀ ip ∈ new, Fits ⟨isIpv6, false⟩ ip)
    (h : (IpLog.ipPrimaryAdd b isIpv6 new).prog o = .ok (st, o')) :
    Logged.Keeps (HostInv b) IpCall.Proper o ((IpLog.ipPrimaryAdd b isIpv6 new).log o) o' := by
  cases new with
  | none =>
    cases h
    exact Logged.IsLogRel.nil _
  | some ip =>
    refine ofprotoIpAdd_keeps (hfits ip rfl) (hfits ip rfl).isIpv6 (fun bundle hbundle τ x => ?_) h
    obtain rfl : bundle.ipRecord = r := Option.some.inj (hbundle.symm.trans hr)
    rw [setPrimary_ipRecord, setPrimary_inSlot]
    by_cases hτ : τ = ⟨isIpv6, false⟩
    · rcases hnone with hnone | hnone <;> simp [hτ, hnone, eq_comm]
    · simp [hτ]

theorem ipPrimaryReconfigure_keeps (hfits : ∀ ip ∈ new, Fits ⟨isIpv6, false⟩ ip) :
    KeepsHosts b (IpLog.ipPrimaryReconfigure b isIpv6 new) := by
  intro o st o' h
  obtain ⟨bundle, hb, h⟩ := ofbundle_bind.mp h
  have hr := ipRecord_of_lookup hb
  rw [IpLog.ipPrimaryReconfigure, Logged.log_lift_bind (ofbundle_apply hb)]
  refine Logged.Logs.thenOk_run (fun st o₁ hdrop => ipPrimaryDrop_keeps hr hdrop)
    (fun o₁ hdrop st o' hadd => ?_) h
  obtain ⟨r₁, hr₁, hnone⟩ := (ipPrimaryDrop_lockstep hr hdrop).2 rfl
  exact ipPrimaryAdd_keeps hr₁ hnone hfits hadd

theorem ipSecondaryRemove_keeps {ips : List String} (hip : ip ∈ ips)
    (hv : OvsLib.addrIsIpv6 ip = v) : Logged.Logs (Logged.Keeps (HostInvOn b ips) IpCall.Proper)
      (IpLog.ipSecondaryRemove b isIpv6 v ip) := by
  intro o st o' h
  refine ofprotoIpRemove_keeps hip hv (fun bundle _ τ x => ?_) h
  rw [setSecondary_ipRecord, setSecondary_inSlot]
  by_cases hτ : τ = ⟨isIpv6, true⟩
  · subst hτ
    rw [if_pos rfl, inSlot_secondary]
    exact ⟨List.mem_of_mem_erase, fun hx hne => (List.mem_erase_of_ne hne).mpr hx⟩
  · rw [if_neg hτ]
    exact ⟨id, fun hx _ => hx⟩

omit [Build] in
theorem ipSecondaryAdd_keeps (hfits : Fits ⟨isIpv6, true⟩ ip) :
    KeepsHosts b (IpLog.ipSecondaryAdd b isIpv6 ip) := by
  intro o st o' h
  have hv : OvsLib.addrIsIpv6 ip = false := hfits.isIpv6.trans (hfits.secondary rfl)
  refine ofprotoIpAdd_keeps hfits hv (fun bundle _ τ x => ?_) h
  rw [setSecondary_ipRecord, setSecondary_inSlot]
  by_cases hτ : τ = ⟨isIpv6, true⟩
  · subst hτ
    rw [if_pos rfl, inSlot_secondary]
    simp [OfbundleSai.ipRecord, or_comm]
  · simp [hτ]

omit [Build] in
/-- Removing addresses that are recorded. -/
theorem secondaryRemove_keeps {ips : List String} {k : String → Logged IpCall OfprotoSai Int}
    (hrec : ∀ ip ∈ ips, o.Recorded b ⟨isIpv6, true⟩ ip)
    (hk : (∀ ip ∈ ips, Fits ⟨isIpv6, true⟩ ip) → ∀ ip ∈ ips,
      Logged.Logs (Logged.Keeps (HostInvOn b ips) IpCall.Proper) (k ip)) (st : Int)
    (o' : OfprotoSai) (h : (Logged.forEach ips k).prog o = .ok (st, o')) :
    Logged.Keeps (HostInv b) IpCall.Proper o ((Logged.forEach ips k).log o) o' :=
  Logged.Keeps.assume fun _ hI => Logged.Keeps.imp
    (Logged.Logs.forEach_mem (hk fun ip hip => hI.fits _ _ (hrec ip hip)) o st o' h)
    (fun _ hI => ⟨hI, fun ip hip => hI.added _ _ (hrec ip hip)⟩) fun _ h => h.1

omit [Build] in
/-- A walk over a table finds what it has and changes nothing here. -/
theorem walkTable_keeps {α β : Type} {table : List α} {k : List α → Logged IpCall OfprotoSai β}
    {a : β} (hk : ∀ l o₁, l.Perm table → o₁.bundles = o.bundles → (k l).prog o₁ = .ok (a, o') →
      Logged.Keeps (HostInv b) IpCall.Proper o₁ ((k l).log o₁) o')
    (h : ((liftM (walkTable table) : Logged IpCall OfprotoSai (List α)) >>= k).prog o =
      .ok (a, o')) :
    Logged.Keeps (HostInv b) IpCall.Proper o
      (((liftM (walkTable table) : Logged IpCall OfprotoSai (List α)) >>= k).log o) o' := by
  obtain ⟨l, o₁, hwalk, h⟩ := bind_ok.mp h
  have hwalk : walkTable table o = .ok (l, o₁) := hwalk
  rw [Logged.log_lift_bind hwalk]
  obtain ⟨hperm, cs, rfl⟩ := walkTable_ok hwalk
  have hsame : Logged.Keeps (HostInv b) IpCall.Proper o []
      { o with hw := { o.hw with choices := cs } } :=
    Logged.Keeps.nil fun _ hI => hI.of_same rfl rfl
  exact Logged.IsLogRel.append hsame (hk l _ hperm rfl h)

theorem ofbundleIpSecondaryReconfigure_keeps
    (hfits : ∀ ip ∈ s.secondary isIpv6, Fits ⟨isIpv6, true⟩ ip) :
    KeepsHosts b (IpLog.ofbundleIpSecondaryReconfigure b s isIpv6) := by
  intro o st o' h
  obtain ⟨bundle, hb, h⟩ := ofbundle_bind.mp h
  rw [IpLog.ofbundleIpSecondaryReconfigure, Logged.log_lift_bind (ofbundle_apply hb)]
  refine walkTable_keeps (fun oldIps o₁ hold hb₁ h => walkTable_keeps (fun newIps o₂ hnew hb₂ h =>
    ?_) h) h
  have hrec : ∀ ip ∈ oldIps, o₂.Recorded b ⟨isIpv6, true⟩ ip := fun ip hip =>
    (recorded_of_ipRecord (ipRecord_of_lookup ((hb₂.trans hb₁) ▸ hb))).mpr (hold.mem_iff.mp hip)
  refine Logged.Logs.thenOk_run (secondaryRemove_keeps hrec fun hfits ip hip => ?_)
    (fun o₃ _ => ?_) h
  · exact (Logged.Logs.pure _).ite (ipSecondaryRemove_keeps hip
      ((hfits ip hip).isIpv6.trans ((hfits ip hip).secondary rfl)))
  · refine Logged.Logs.forEach_mem (fun ip hip o st o' h => ?_) o₃
    obtain ⟨bundle, hb, h⟩ := ofbundle_bind.mp h
    rw [Logged.log_lift_bind (ofbundle_apply hb)]
    have hnew : ip ∈ s.secondary isIpv6 := List.mem_dedup.mp (hnew.mem_iff.mp hip)
    exact ((Logged.Logs.pure _).ite (ipSecondaryAdd_keeps (hfits ip hnew))) o st o' h

omit [Build] in
/-- The addresses of the slots that the settings change fit. -/
def OfprotoBundleSettings.Fits (s : OfprotoBundleSettings) : Prop :=
  ∀ σ, s.ipChange.inSlot σ = true → ∀ ip ∈ s.inSlot σ, SwitchdSai.Fits σ ip

theorem ofbundleIpReconfigure_keeps (hs : s.Fits) :
    KeepsHosts b (IpLog.ofbundleIpReconfigure b s) := by
  have hprimary : ∀ v, s.ipChange.primary v = true → ∀ ip ∈ s.primary v, Fits ⟨v, false⟩ ip :=
    fun v hv ip hip => hs ⟨v, false⟩ hv ip (Option.mem_toList.mpr hip)
  have hsecondary : ∀ v, s.ipChange.secondary v = true → ∀ ip ∈ s.secondary v, Fits ⟨v, true⟩ ip :=
    fun v hv ip hip => hs ⟨v, true⟩ hv ip hip
  exact
    (Logged.Logs.flagged fun h => ipPrimaryReconfigure_keeps (hprimary false h)).thenOk <|
    (Logged.Logs.flagged fun h => ipPrimaryReconfigure_keeps (hprimary true h)).thenOk <|
    (Logged.Logs.flagged fun h =>
      ofbundleIpSecondaryReconfigure_keeps (hsecondary false h)).thenOk <|
    Logged.Logs.flagged fun h => ofbundleIpSecondaryReconfigure_keeps (hsecondary true h)

/-! ## The removal of all addresses -/

/-- The primary address stays recorded. -/
theorem ipPrimaryRemove_keeps : KeepsHosts b (IpLog.ipPrimaryRemove b isIpv6) := by
  intro o st o' h
  obtain ⟨bundle, hb, h⟩ := ofbundle_bind.mp h
  rw [IpLog.ipPrimaryRemove, Logged.log_lift_bind (ofbundle_apply hb)]
  beta_reduce at h ⊢
  cases hold : bundle.primary isIpv6 with
  | none =>
    rw [hold] at h
    cases h
    exact Logged.IsLogRel.nil _
  | some ip =>
    rw [hold] at h
    dsimp only at h ⊢
    rw [IpLog.ofprotoIpRemove_prog] at h
    have hrec : o.Recorded b ⟨isIpv6, false⟩ ip := by
      rw [recorded_of_ipRecord (ipRecord_of_lookup hb), inSlot_primary]
      exact Option.mem_toList.mpr hold
    rw [IpLog.ofprotoIpRemove_log h]
    refine Logged.Keeps.event fun past hI => ?_
    have hv : OvsLib.addrIsIpv6 ip = isIpv6 := (hI.fits _ _ hrec).isIpv6
    refine ⟨?_, (hostPrefix_eq hv).symm, fun _ => hI.added _ _ hrec⟩
    by_cases h0 : st = 0
    · subst h0
      obtain ⟨pfx, hroute, rfl⟩ := ofprotoIpRemove_hw h
      exact hI.remove rfl ((hostRoute_eq hv).trans hroute) (fun _ _ h => h) (fun _ _ h _ => h)
        (Function.update_self ..)
    · obtain ⟨hw, hroutes, rfl⟩ := ofprotoIpRemove_failed h h0
      exact (hI.failed h0).of_same rfl (congrFun hroutes _)

theorem ipSecondaryRemoveAll_keeps : KeepsHosts b (IpLog.ipSecondaryRemoveAll b isIpv6) := by
  intro o st o' h
  obtain ⟨bundle, hb, h⟩ := ofbundle_bind.mp h
  rw [IpLog.ipSecondaryRemoveAll, Logged.log_lift_bind (ofbundle_apply hb)]
  refine walkTable_keeps (fun ips o₁ hips hb₁ h => ?_) h
  have hrec : ∀ ip ∈ ips, o₁.Recorded b ⟨isIpv6, true⟩ ip := fun ip hip =>
    (recorded_of_ipRecord (ipRecord_of_lookup (hb₁ ▸ hb))).mpr (hips.mem_iff.mp hip)
  exact secondaryRemove_keeps hrec (fun hfits ip hip =>
    ipSecondaryRemove_keeps hip (hfits ip hip).isIpv6) st o' h

theorem ofbundleIpRemove_keeps : KeepsHosts b (IpLog.ofbundleIpRemove b) :=
  Logged.Logs.thenOk ipPrimaryRemove_keeps <| Logged.Logs.thenOk ipPrimaryRemove_keeps <|
    Logged.Logs.thenOk ipSecondaryRemoveAll_keeps ipSecondaryRemoveAll_keeps

/-- Programs that add no host route. -/
def HostsShrink (o o' : OfprotoSai) : Prop :=
  ∀ pfx, o'.hw.routes o'.vrid pfx = some .ip2me → o.hw.routes o.vrid pfx = some .ip2me

instance : IsPreorder OfprotoSai HostsShrink where
  refl _ _ h := h
  trans _ _ _ h h' pfx hroute := h pfx (h' pfx hroute)

theorem ofprotoIpRemove_hostsShrink : Rel HostsShrink (ofprotoIpRemove ip isIpv6) := by
  intro o st o' h pfx hroute
  by_cases h0 : st = 0
  · subst h0
    obtain ⟨pfx', -, rfl⟩ := ofprotoIpRemove_hw h
    rw [Hw.setRoute_routes] at hroute
    split at hroute
    · cases hroute
    · exact hroute
  · obtain ⟨hw, hroutes, rfl⟩ := ofprotoIpRemove_failed h h0
    rwa [hroutes] at hroute

theorem ipSecondaryRemove_hostsShrink : Rel HostsShrink (ipSecondaryRemove b isIpv6 v ip) :=
  Rel.thenOk ofprotoIpRemove_hostsShrink <|
    (modifyBundle_rel fun _ _ _ _ hroute => hroute).bind fun _ => Rel.pure _

theorem ipPrimaryRemove_hostsShrink : Rel HostsShrink (ipPrimaryRemove b isIpv6) := by
  refine (ofbundle_rel b).bind fun bundle => ?_
  cases bundle.primary isIpv6 with
  | some ip => exact ofprotoIpRemove_hostsShrink
  | none => exact Rel.pure _

theorem ipSecondaryRemoveAll_hostsShrink : Rel HostsShrink (ipSecondaryRemoveAll b isIpv6) :=
  (ofbundle_rel b).bind fun _ =>
    Rel.bind (fun o l o' h pfx hroute => by
      obtain ⟨-, cs, rfl⟩ := walkTable_ok h
      exact hroute) fun _ => Rel.forEach fun _ => ipSecondaryRemove_hostsShrink

theorem ofbundleIpRemove_hostsShrink : Rel HostsShrink (ofbundleIpRemove b) :=
  Rel.thenOk ipPrimaryRemove_hostsShrink <| Rel.thenOk ipPrimaryRemove_hostsShrink <|
    Rel.thenOk ipSecondaryRemoveAll_hostsShrink ipSecondaryRemoveAll_hostsShrink

/-- A removal that succeeds leaves no route. -/
theorem ofprotoIpRemove_gone (hv : OvsLib.addrIsIpv6 ip = v) (hpfx : hostRoute ip = some pfx)
    (h : ofprotoIpRemove ip v o = .ok (0, o')) : o'.hw.routes o'.vrid pfx ≠ some .ip2me := by
  obtain ⟨pfx', hpfx', rfl⟩ := ofprotoIpRemove_hw h
  obtain rfl : pfx' = pfx := Option.some.inj (hpfx'.symm.trans ((hostRoute_eq hv).symm.trans hpfx))
  rw [Hw.setRoute_routes, if_pos ⟨rfl, rfl⟩]
  nofun

theorem ipPrimaryRemove_gone (hr : o.ipRecord b = some r) (hip : ip ∈ r.inSlot ⟨isIpv6, false⟩)
    (hv : OvsLib.addrIsIpv6 ip = isIpv6) (hpfx : hostRoute ip = some pfx)
    (h : ipPrimaryRemove b isIpv6 o = .ok (0, o')) :
    o'.hw.routes o'.vrid pfx ≠ some .ip2me := by
  obtain ⟨bundle, hb, h⟩ := ofbundle_bind.mp h
  obtain rfl := ipRecord_of_lookup_eq hr hb
  have hold : bundle.primary isIpv6 = some ip := Option.mem_toList.mp hip
  rw [hold] at h
  exact ofprotoIpRemove_gone hv hpfx h

theorem ipSecondaryRemoveAll_gone (hr : o.ipRecord b = some r)
    (hip : ip ∈ r.inSlot ⟨isIpv6, true⟩) (hv : OvsLib.addrIsIpv6 ip = isIpv6)
    (hpfx : hostRoute ip = some pfx) (h : ipSecondaryRemoveAll b isIpv6 o = .ok (0, o')) :
    o'.hw.routes o'.vrid pfx ≠ some .ip2me := by
  obtain ⟨bundle, hb, h⟩ := ofbundle_bind.mp h
  obtain rfl := ipRecord_of_lookup_eq hr hb
  obtain ⟨ips, o₁, hwalk, h⟩ := bind_ok.mp h
  obtain ⟨hperm, -⟩ := walkTable_ok hwalk
  obtain ⟨o₂, o₃, rest, hone, hrest⟩ := forEach_zero_mem (hperm.mem_iff.mpr hip) h
  obtain ⟨o₄, hremove, hrecord⟩ := thenOk_zero.mp hone
  have hkeeps : HostsShrink o₄ o₃ :=
    (modifyBundle_rel fun _ _ _ _ hroute => hroute).bind (fun _ => Rel.pure _) _ _ _ hrecord
  exact fun hroute => ofprotoIpRemove_gone hv hpfx hremove <| hkeeps pfx <|
    Rel.forEach (fun _ => ipSecondaryRemove_hostsShrink) _ _ _ hrest pfx hroute

theorem ipPrimaryRemove_ipRecord : Frame OfprotoSai.ipRecord (ipPrimaryRemove b isIpv6) := by
  refine (ofbundle_rel b).bind fun bundle => ?_
  cases bundle.primary isIpv6 with
  | some ip => exact ofprotoIpRemove_ipRecord
  | none => exact Rel.pure _

/-- A removal of all addresses that succeeds leaves no host route of them. -/
theorem ofbundleIpRemove_gone (hr : o.ipRecord b = some r)
    (hfits : ∀ σ, ∀ ip ∈ r.inSlot σ, Fits σ ip) (hip : ip ∈ r.inSlot σ)
    (hpfx : hostRoute ip = some pfx) (h : ofbundleIpRemove b o = .ok (0, o')) :
    o'.hw.routes o'.vrid pfx ≠ some .ip2me := by
  obtain ⟨o₁, hp4, h⟩ := thenOk_zero.mp h
  obtain ⟨o₂, hp6, h⟩ := thenOk_zero.mp h
  obtain ⟨o₃, hs4, hs6⟩ := thenOk_zero.mp h
  have hr₁ : o₁.ipRecord b = some r := by rw [ipPrimaryRemove_ipRecord _ _ _ hp4, hr]
  have hr₂ : o₂.ipRecord b = some r := by rw [ipPrimaryRemove_ipRecord _ _ _ hp6, hr₁]
  have hafter₃ := ipSecondaryRemoveAll_hostsShrink _ _ _ hs6 pfx
  have hafter₂ := fun hroute => ipSecondaryRemoveAll_hostsShrink _ _ _ hs4 pfx (hafter₃ hroute)
  have hafter₁ := fun hroute => ipPrimaryRemove_hostsShrink _ _ _ hp6 pfx (hafter₂ hroute)
  have hfit := hfits σ ip hip
  obtain ⟨v, secondary⟩ := σ
  cases secondary with
  | false =>
    cases v with
    | false => exact fun hroute =>
        ipPrimaryRemove_gone hr hip hfit.isIpv6 hpfx hp4 (hafter₁ hroute)
    | true => exact fun hroute =>
        ipPrimaryRemove_gone hr₁ hip hfit.isIpv6 hpfx hp6 (hafter₂ hroute)
  | true =>
    obtain rfl : v = false := hfit.secondary rfl
    exact fun hroute => ipSecondaryRemoveAll_gone hr₂ hip hfit.isIpv6 hpfx hs4 (hafter₃ hroute)

theorem ofbundleIpRemove_emits : (IpLog.ofbundleIpRemove b).Emits fun e => e.add = false := by
  have hcall : ∀ σ ip v, (IpLog.ofprotoIpRemove σ ip v).Emits fun e => e.add = false :=
    fun _ _ _ => ofprotoIpRemove_emits.mono fun _ _ _ h e he => (h e he).2
  have hprimary : ∀ v, (IpLog.ipPrimaryRemove b v).Emits fun e => e.add = false := fun v =>
    Logged.Emits.lift_bind fun bundle => by
      cases bundle.primary v with
      | some ip => exact hcall _ _ _
      | none => exact Logged.Logs.pure _
  have hsecondary : ∀ v, (IpLog.ipSecondaryRemoveAll b v).Emits fun e => e.add = false := fun v =>
    Logged.Emits.lift_bind fun _ => Logged.Emits.lift_bind fun _ => Logged.Logs.forEach fun _ =>
      thenRecord_emits (hcall _ _ _)
  exact (hprimary false).thenOk ((hprimary true).thenOk ((hsecondary false).thenOk
    (hsecondary true)))

/-- A removal of all addresses that fails has made a call that failed. -/
theorem ofbundleIpRemove_fails : Logged.Fails IpCall.status (IpLog.ofbundleIpRemove b) := by
  have hcall : ∀ σ ip v, Logged.Fails IpCall.status (IpLog.ofprotoIpRemove σ ip v) := fun _ _ _ =>
    .lift_bind fun _ => .lift_bind fun _ => .event fun _ => rfl
  have hprimary : ∀ v, Logged.Fails IpCall.status (IpLog.ipPrimaryRemove b v) := fun v =>
    .lift_bind fun bundle => by
      cases bundle.primary v with
      | some ip => exact hcall _ _ _
      | none => exact .zero
  have hsecondary : ∀ v, Logged.Fails IpCall.status (IpLog.ipSecondaryRemoveAll b v) := fun v =>
    .lift_bind fun _ => .lift_bind fun _ => .forEach fun _ =>
      (hcall _ _ _).thenOk (.lift_bind fun _ => .zero)
  exact (hprimary false).thenOk ((hprimary true).thenOk ((hsecondary false).thenOk
    (hsecondary true)))

end

/-! ## The life of a bundle -/

namespace IpLog

variable [OvsLib] [Build]

/-- Reconfigurations with some settings one after the other, each whether or not the one before it
fails, and then the removal of all addresses. -/
def ofbundleIpLife (b : BundlePtr) : List OfprotoBundleSettings → Logged IpCall OfprotoSai Int
  | [] => ofbundleIpRemove b
  | s :: ss => do
    let _ ← ofbundleIpReconfigure b s
    ofbundleIpLife b ss

end IpLog

/-- The last call that adds `ip`. -/
def lastAdd (l : List IpCall) (ip : String) : Option IpCall :=
  (l.filter fun e => e.add && e.ip == ip).getLast?

theorem lastAdd_mem {l : List IpCall} (h : lastAdd l ip = some e) : e ∈ l ∧ e.ip = ip := by
  obtain ⟨hmem, hip⟩ := List.mem_filter.mp (List.mem_of_getLast? h)
  simp only [Bool.and_eq_true, beq_iff_eq] at hip
  exact ⟨hmem, hip.2⟩

theorem lastAdd_of_mem {l : List IpCall} (he : e ∈ l) (hadd : e.add = true) (hip : e.ip = ip) :
    ∃ e', lastAdd l ip = some e' := by
  have hmem : e ∈ l.filter fun e => e.add && e.ip == ip :=
    List.mem_filter.mpr ⟨he, by simp [hadd, hip]⟩
  exact Option.isSome_iff_exists.mp (List.getLast?_isSome.mpr (List.ne_nil_of_mem hmem))

section
variable [OvsLib] [Build]

omit [Build] in
/-- The calls `l` are for host routes, each is removed under the prefix under which it was added
last, and if they all succeed, then none of these routes is left in `o'`. A call with a prefix that
cannot be read does not reach the hardware. -/
structure HostRoutesPaired (l : List IpCall) (o' : OfprotoSai) : Prop where
  host : ∀ e ∈ l, e.add = true → e.pfx = ipHostPrefix e.ip (OvsLib.addrIsIpv6 e.ip)
  paired : ∀ l₁ e l₂, l = l₁ ++ e :: l₂ → e.add = false →
    ∃ e', lastAdd l₁ e.ip = some e' ∧ e'.pfx = e.pfx
  gone : (∀ e ∈ l, e.route.isSome → e.status = 0) → ∀ e ∈ l, e.add = true →
    ∀ pfx, e.route = some pfx → o'.hw.routes o'.vrid pfx ≠ some .ip2me

/-- Over the life of `b` with the settings `ss`, the host routes are paired. -/
def HostRoutesLife (b : BundlePtr) (ss : List OfprotoBundleSettings) (o : OfprotoSai) : Prop :=
  ∀ st o', (IpLog.ofbundleIpLife b ss).prog o = .ok (st, o') →
    HostRoutesPaired ((IpLog.ofbundleIpLife b ss).log o) o'

omit [Build] in
/-- Each list of the settings holds addresses of its version. -/
def OfprotoBundleSettings.OwnVersions (s : OfprotoBundleSettings) : Prop :=
  ∀ σ, ∀ ip ∈ s.inSlot σ, OvsLib.addrIsIpv6 ip = σ.isIpv6

variable {ss : List OfprotoBundleSettings}

/-- The reconfigurations keep the invariant, and the removal follows them. -/
theorem ofbundleIpLife_run (hs : ∀ s ∈ ss, s.Fits)
    (h : (IpLog.ofbundleIpLife b ss).prog o = .ok (st, o')) :
    ∃ l o₁, Logged.Keeps (HostInv b) IpCall.Proper o l o₁ ∧
      (IpLog.ofbundleIpLife b ss).log o = l ++ (IpLog.ofbundleIpRemove b).log o₁ ∧
      (IpLog.ofbundleIpRemove b).prog o₁ = .ok (st, o') := by
  induction ss generalizing o with
  | nil => exact ⟨[], o, Logged.IsLogRel.nil _, rfl, h⟩
  | cons s ss ih =>
    obtain ⟨st₁, o₁, hone, hrest⟩ := bind_ok.mp h
    obtain ⟨l, o₂, hkeeps, hlog, hremove⟩ :=
      ih (fun s' hs' => hs s' (List.mem_cons_of_mem _ hs')) hrest
    have hfirst := ofbundleIpReconfigure_keeps (b := b) (hs s (List.mem_cons_self ..)) _ _ _ hone
    refine ⟨_, o₂, Logged.IsLogRel.append hfirst hkeeps, ?_, hremove⟩
    rw [IpLog.ofbundleIpLife, Logged.log_bind hone, hlog, List.append_assoc]

omit [Build] in
theorem HostInv.fresh {r : IpRecord} (hr : o.ipRecord b = some r) (hnew : ∀ σ, r.inSlot σ = []) :
    HostInv b [] o := by
  have hnone : ∀ σ ip, ¬o.Recorded b σ ip := fun σ ip h => by
    rw [recorded_of_ipRecord hr, hnew] at h
    cases h
  exact ⟨fun σ ip h => absurd h (hnone σ ip), fun σ ip h => absurd h (hnone σ ip),
    fun pfx ⟨e, he, _⟩ => by cases he⟩

/-- **Host routes are removed as they were added**, when no reconfiguration asks for a secondary
IPv6 address. -/
theorem hostRoutesLife_of_ip4Secondary {r : IpRecord} (hr : o.ipRecord b = some r)
    (hnew : ∀ σ, r.inSlot σ = []) (hown : ∀ s ∈ ss, s.OwnVersions)
    (hnone : ∀ s ∈ ss, s.ipChange.secondaryIpv6 = true → s.ip6AddressSecondary = []) :
    HostRoutesLife b ss o := by
  intro st o' h
  have hfits : ∀ s ∈ ss, s.Fits := fun s hs σ hσ ip hip => by
    refine ⟨hown s hs σ ip hip, fun hsecondary => ?_⟩
    obtain ⟨v, secondary⟩ := σ
    obtain rfl : secondary = true := hsecondary
    cases v with
    | false => rfl
    | true =>
      have hip : ip ∈ s.ip6AddressSecondary := hip
      rw [hnone s hs hσ] at hip
      cases hip
  obtain ⟨l, o₁, hkeeps, hlog, hremove⟩ := ofbundleIpLife_run hfits h
  have hI := HostInv.fresh hr hnew
  have hI₁ : HostInv b l o₁ := (hkeeps [] hI).1
  have hproper := (Logged.IsLogRel.append hkeeps (ofbundleIpRemove_keeps _ _ _ hremove) [] hI).2
  rw [← hlog] at hproper
  have hhost : ∀ e ∈ (IpLog.ofbundleIpLife b ss).log o, e.pfx = hostPrefix e.ip := fun e he => by
    obtain ⟨l₁, l₂, heq⟩ := List.append_of_mem he
    exact (hproper l₁ e l₂ heq).1
  refine ⟨fun e he _ => hhost e he, fun l₁ e l₂ heq hremoved => ?_,
    fun hall e he hadd pfx hpfx hroute => ?_⟩
  · obtain ⟨hpfx, hadded⟩ := hproper l₁ e l₂ heq
    obtain ⟨-, e₀, he₀, hadd, hip⟩ := hadded hremoved
    obtain ⟨e', hlast⟩ := lastAdd_of_mem he₀ hadd hip
    obtain ⟨he', hip'⟩ := lastAdd_mem hlast
    have hin : e' ∈ (IpLog.ofbundleIpLife b ss).log o := by
      rw [heq]
      exact List.mem_append_left _ he'
    exact ⟨e', hlast, by rw [hhost e' hin, hip', hpfx]⟩
  · have hprog := hremove
    rw [IpLog.ofbundleIpRemove_prog] at hprog
    -- what the removal has left was there before it, so an address that is recorded has it
    have hadds : ∃ e ∈ l, e.Adds pfx := by
      refine ⟨e, ?_, hadd, hall e he (by rw [hpfx, Option.isSome_some]), hpfx⟩
      rw [hlog] at he
      refine (List.mem_append.mp he).resolve_right fun he => ?_
      rw [ofbundleIpRemove_emits _ _ _ hremove e he] at hadd
      cases hadd
    obtain ⟨σ, ip, ⟨r₁, hr₁, hip⟩, hpfx⟩ :=
      hI₁.covered pfx hadds (ofbundleIpRemove_hostsShrink _ _ _ hprog pfx hroute)
    have h0 : st = 0 := by
      by_contra h0
      obtain ⟨e, he, hne⟩ := ofbundleIpRemove_fails _ _ _ hremove h0
      obtain ⟨l₁, l₂, heq⟩ := List.append_of_mem he
      obtain ⟨hpfx, hadded⟩ := hproper (l ++ l₁) e l₂ (by rw [hlog, heq, List.append_assoc])
      refine hne (hall e (hlog ▸ List.mem_append_right _ he) ?_)
      have hisSome := (hadded (ofbundleIpRemove_emits _ _ _ hremove e he)).1
      rwa [hostRoute, ← hpfx] at hisSome
    subst h0
    refine ofbundleIpRemove_gone hr₁ (fun σ ip hip => hI₁.fits σ ip ⟨r₁, hr₁, hip⟩) hip hpfx hprog
      hroute

end

section
attribute [local instance] sampleOvs sampleBuild

/-- A bundle without addresses. -/
def bareOfproto : OfprotoSai :=
  (OfprotoSai.new .vrf 0 samplePorts .reset).setBundle 1 (.alloc 1 none)

theorem bareOfproto_ipRecord : bareOfproto.ipRecord 1 = some (OfbundleSai.alloc 1 none).ipRecord :=
  rfl

theorem alloc_inSlot {σ : IpSlot} : (OfbundleSai.alloc 1 none).ipRecord.inSlot σ = [] := by
  obtain ⟨_ | _, _ | _⟩ := σ <;> rfl

/-- Two addresses come and go. -/
theorem hostRoutesLife_of_ip4Secondary_two :
    ∃ o', (IpLog.ofbundleIpLife 1 [twoIpSettings]).prog bareOfproto = .ok (0, o') ∧
      HostRoutesPaired ((IpLog.ofbundleIpLife 1 [twoIpSettings]).log bareOfproto) o' := by
  obtain ⟨o', hrun⟩ := result_eq_some.mp (show result
    (IpLog.ofbundleIpLife 1 [twoIpSettings]).prog bareOfproto = some 0 by decide)
  refine ⟨o', hrun, hostRoutesLife_of_ip4Secondary bareOfproto_ipRecord (fun _ => alloc_inSlot)
    ?_ ?_ 0 o' hrun⟩
  · intro s hs σ ip hip
    obtain rfl := List.mem_singleton.mp hs
    obtain ⟨_ | _, _ | _⟩ := σ <;> revert ip <;> decide
  · intro s hs h
    obtain rfl := List.mem_singleton.mp hs
    rfl

end

section
attribute [local instance] sampleBuild

/-- The texts of the samples, and the host fd00::1 with two prefix lengths. -/
@[reducible] def ip6Ovs : OvsLib :=
  { sampleOvs with
    ipv6ParseMasked := fun s =>
      if s = "fd00::1/32" then some (⟨0xfd, 0, 0, 0x01000000⟩, ⟨0xffffffff, 0, 0, 0⟩)
      else if s = "fd00::1/128" then some (⟨0xfd, 0, 0, 0x01000000⟩,
        ⟨0xffffffff, 0xffffffff, 0xffffffff, 0xffffffff⟩)
      else none }

attribute [local instance] ip6Ovs

/-- Settings with the secondary address fd00::1/64. -/
def ip6SecondarySettings : OfprotoBundleSettings :=
  { accessSettings 2 with
    ipChange := ⟨false, false, false, true⟩, ip6AddressSecondary := ["fd00::1/64"] }

theorem ip6SecondarySettings_ownVersions : ip6SecondarySettings.OwnVersions := by
  intro σ ip hip
  obtain ⟨_ | _, _ | _⟩ := σ <;> revert ip <;> decide

/-- A secondary IPv6 address is added as fd00::1/32 and removed as fd00::1/128, which fails. -/
theorem hostRoutesLife_ip6Secondary :
    bareOfproto.ipRecord 1 = some (OfbundleSai.alloc 1 none).ipRecord ∧
      (∀ σ, (OfbundleSai.alloc 1 none).ipRecord.inSlot σ = []) ∧
      ip6SecondarySettings.OwnVersions ∧ ¬HostRoutesLife 1 [ip6SecondarySettings] bareOfproto := by
  refine ⟨bareOfproto_ipRecord, fun _ => alloc_inSlot, ip6SecondarySettings_ownVersions,
    fun hlife => ?_⟩
  obtain ⟨o', hrun⟩ := result_eq_some.mp (show result
    (IpLog.ofbundleIpLife 1 [ip6SecondarySettings]).prog bareOfproto = some (-1) by decide)
  have hlog : (IpLog.ofbundleIpLife 1 [ip6SecondarySettings]).log bareOfproto =
      [⟨⟨true, true⟩, true, "fd00::1/64", "fd00::1/32", 0⟩,
        ⟨⟨true, true⟩, false, "fd00::1/64", "fd00::1/128", -1⟩] := by decide
  have hhost := (hlife _ _ hrun).host
  rw [hlog] at hhost
  have := hhost _ (List.mem_cons_self ..) rfl
  revert this
  decide

end

end SwitchdSai
