import Mathlib.Data.Set.Insert
import SwitchdSai.Verify.IpLog
import SwitchdSai.Verify.IpReconfigure

/-!
# Recorded addresses and route calls

Every route call for an address that succeeds is recorded by the bundle before the next one is made.
So the addresses that it has recorded after a reconfiguration, which may stop at any call, are those
from before, less the ones removed and with the ones added.
-/

namespace SwitchdSai

open Exec OfprotoSai

/-! ## The addresses in a slot -/

/-- The addresses that are recorded in a slot. -/
def IpRecord.inSlot (r : IpRecord) (σ : IpSlot) : List String :=
  if σ.isSecondary then r.secondary σ.isIpv6 else (r.primary σ.isIpv6).toList

/-- Every recorded address with its slot. -/
def IpRecord.pairs (r : IpRecord) : Set (IpSlot × String) := {x | x.2 ∈ r.inSlot x.1}

/-- No cache of secondary addresses holds an address twice. -/
def IpRecord.Nodup (r : IpRecord) : Prop := ∀ v, (r.secondary v).Nodup

/-- The addresses that settings have for a slot. -/
def OfprotoBundleSettings.inSlot (s : OfprotoBundleSettings) (σ : IpSlot) : List String :=
  if σ.isSecondary then s.secondary σ.isIpv6 else (s.primary σ.isIpv6).toList

/-- Whether settings change the addresses of a slot. -/
def IpChange.inSlot (c : IpChange) (σ : IpSlot) : Bool :=
  if σ.isSecondary then c.secondary σ.isIpv6 else c.primary σ.isIpv6

namespace IpCall

/-- The call has removed address `ip` of slot `σ`. -/
def Removed (σ : IpSlot) (ip : String) (e : IpCall) : Prop :=
  e.slot = σ ∧ e.ip = ip ∧ e.add = false ∧ e.status = 0

/-- The call has added address `ip` of slot `σ`. -/
def Added (σ : IpSlot) (ip : String) (e : IpCall) : Prop :=
  e.slot = σ ∧ e.ip = ip ∧ e.add = true ∧ e.status = 0

/-- The effect of a call on the addresses with a host route. -/
def act (e : IpCall) (S : Set (IpSlot × String)) : Set (IpSlot × String) :=
  if e.status = 0 then (if e.add then insert (e.slot, e.ip) S else S \ {(e.slot, e.ip)}) else S

/-- The effect of calls one after the other. -/
def play (l : List IpCall) (S : Set (IpSlot × String)) : Set (IpSlot × String) :=
  l.foldl (fun S e => e.act S) S

/-- Within a slot the calls that remove come before those that add. -/
def Ordered (l : List IpCall) : Prop :=
  l.Pairwise fun e e' => e.slot = e'.slot → e.add = true → e'.add = true

theorem mem_act {e : IpCall} {S : Set (IpSlot × String)} {σ : IpSlot} {ip : String} :
    (σ, ip) ∈ e.act S ↔ ((σ, ip) ∈ S ∧ ¬e.Removed σ ip) ∨ e.Added σ ip := by
  unfold act Removed Added
  by_cases h0 : e.status = 0
  · cases hadd : e.add with
    | true =>
      simp only [h0, if_true, Set.mem_insert_iff, Prod.mk.injEq, and_true, eq_comm]
      tauto
    | false =>
      simp only [h0, if_true, Bool.false_eq_true, if_false, Set.mem_sdiff, Set.mem_singleton_iff,
        Prod.mk.injEq, and_false, or_false, and_true, eq_comm]
  · simp [h0]

/-- What has a host route in the end was not removed, or was added. -/
theorem mem_play {l : List IpCall} (hord : Ordered l) {S : Set (IpSlot × String)} {σ : IpSlot}
    {ip : String} : (σ, ip) ∈ play l S ↔
      ((σ, ip) ∈ S ∧ ¬∃ e ∈ l, e.Removed σ ip) ∨ ∃ e ∈ l, e.Added σ ip := by
  induction l generalizing S with
  | nil => simp [play]
  | cons e l ih =>
    obtain ⟨hhead, hord⟩ := List.pairwise_cons.mp hord
    -- after an addition there is no removal
    have hnot : e.Added σ ip → ¬∃ e' ∈ l, e'.Removed σ ip := by
      rintro ⟨hslot, -, hadd, -⟩ ⟨e', he', hslot', -, hremove, -⟩
      have := hhead e' he' (hslot.trans hslot'.symm) hadd
      rw [hremove] at this
      cases this
    have hplay : play (e :: l) S = play l (e.act S) := rfl
    rw [hplay, ih hord, mem_act]
    simp only [List.mem_cons, exists_eq_or_imp]
    generalize (∃ e' ∈ l, Removed σ ip e') = removed at hnot ⊢
    tauto

end IpCall

/-! ## Steps -/

/-- The addresses that `b` has recorded change as the calls `l` say, and only in their slots. -/
def Lockstep (b : BundlePtr) (o : OfprotoSai) (l : List IpCall) (o' : OfprotoSai) : Prop :=
  ∀ r, o.ipRecord b = some r → r.Nodup → ∃ r', o'.ipRecord b = some r' ∧ r'.Nodup ∧
    r'.pairs = IpCall.play l r.pairs ∧ ∀ σ, (∀ e ∈ l, e.slot ≠ σ) → r'.inSlot σ = r.inSlot σ

instance (b : BundlePtr) : Logged.IsLogRel (Lockstep b) where
  nil _ r hr hnodup := ⟨r, hr, hnodup, rfl, fun _ _ => rfl⟩
  append h h' r hr hnodup := by
    obtain ⟨r₁, hr₁, hnodup₁, hpairs₁, hat₁⟩ := h r hr hnodup
    obtain ⟨r₂, hr₂, hnodup₂, hpairs₂, hat₂⟩ := h' r₁ hr₁ hnodup₁
    refine ⟨r₂, hr₂, hnodup₂, ?_, fun σ hσ => ?_⟩
    · rw [hpairs₂, hpairs₁, IpCall.play, IpCall.play, IpCall.play, List.foldl_append]
    · rw [List.forall_mem_append] at hσ
      exact (hat₂ σ hσ.2).trans (hat₁ σ hσ.1)

variable {o o' : OfprotoSai} {b : BundlePtr} {bundle : OfbundleSai} {s : OfprotoBundleSettings}
  {isIpv6 ipv6Prefix : Bool} {ip : String} {r r' : IpRecord} {st : Int} {σ : IpSlot}

theorem Lockstep.of_same (h : o'.ipRecord = o.ipRecord) : Lockstep b o [] o' := fun r hr hnodup =>
  ⟨r, by rw [h, hr], hnodup, rfl, fun _ _ => rfl⟩

/-- One event, which the bundle records when it succeeds. -/
theorem thenRecord_log {ε : Type} {t : Logged ε OfprotoSai Int} {e : Int → ε}
    {f : OfbundleSai → OfbundleSai}
    (hlog : ∀ o st o', t.prog o = .ok (st, o') → t.log o = [e st])
    (h : (t.thenOk do modifyBundle b f; return 0).prog o = .ok (st, o')) :
    (t.thenOk do modifyBundle b f; return 0).log o = [e st] ∧
      (st ≠ 0 ∧ t.prog o = .ok (st, o') ∨ st = 0 ∧ ∃ o₁ bundle, t.prog o = .ok (0, o₁) ∧
        o₁.bundles.lookup b = some bundle ∧ o' = o₁.setBundle b (f bundle)) := by
  rw [Logged.prog_thenOk] at h
  rcases thenOk_ok.mp h with ⟨hcall, h0⟩ | ⟨o₁, hcall, hset⟩
  · rw [Logged.log_thenOk_failed hcall h0]
    exact ⟨hlog _ _ _ hcall, .inl ⟨h0, hcall⟩⟩
  · obtain ⟨_, o₂, hmodify, hend⟩ := bind_ok.mp hset
    cases hend
    rw [Logged.log_thenOk hcall, hlog _ _ _ hcall, Logged.log_lift_pure]
    obtain ⟨bundle, hb, rfl⟩ := modifyBundle_ok.mp hmodify
    exact ⟨rfl, .inr ⟨rfl, o₁, bundle, hcall, hb, rfl⟩⟩

theorem setBundle_ipRecord : (o.setBundle b bundle).ipRecord b = some bundle.ipRecord :=
  ipRecord_of_lookup ((setBundle_lookup ..).trans (if_pos rfl))

/-- A call for one address moves in lockstep when the record does. -/
theorem recorded_lockstep {t : Logged IpCall OfprotoSai Int} {e : Int → IpCall}
    {f : OfbundleSai → OfbundleSai} (hstatus : ∀ st, (e st).status = st)
    (hlog : ∀ o st o', t.prog o = .ok (st, o') → t.log o = [e st])
    (hframe : Frame OfprotoSai.ipRecord t.prog)
    (hf : ∀ r, o.ipRecord b = some r → r.Nodup → ∀ bundle, bundle.ipRecord = r →
      (f bundle).ipRecord.Nodup ∧ (f bundle).ipRecord.pairs = (e 0).act r.pairs ∧
        ∀ σ, (e 0).slot ≠ σ → (f bundle).ipRecord.inSlot σ = r.inSlot σ)
    (h : (t.thenOk do modifyBundle b f; return 0).prog o = .ok (st, o')) :
    Lockstep b o ((t.thenOk do modifyBundle b f; return 0).log o) o' := by
  obtain ⟨hevent, hrun⟩ := thenRecord_log hlog h
  rw [hevent]
  intro r hr hnodup
  rcases hrun with ⟨h0, hcall⟩ | ⟨rfl, o₁, bundle, hcall, hb, rfl⟩
  · refine ⟨r, by rw [hframe _ _ _ hcall, hr], hnodup, ?_, fun _ _ => rfl⟩
    simp [IpCall.play, IpCall.act, hstatus, h0]
  · have hr₁ : o₁.ipRecord b = some r := by rw [hframe _ _ _ hcall, hr]
    obtain ⟨hnodup', hpairs, hat⟩ := hf r hr hnodup bundle (ipRecord_of_lookup_eq hr₁ hb)
    refine ⟨_, setBundle_ipRecord, hnodup', hpairs, fun σ hσ => ?_⟩
    exact hat σ (hσ (e 0) (List.mem_cons_self ..))

section
variable [OvsLib] [Build]

omit [OvsLib] [Build] in
@[simp] theorem inSlot_primary {v : Bool} : r.inSlot ⟨v, false⟩ = (r.primary v).toList := rfl

omit [OvsLib] [Build] in
@[simp] theorem inSlot_secondary {v : Bool} : r.inSlot ⟨v, true⟩ = r.secondary v := rfl

omit [OvsLib] [Build] in
/-- The addresses of the other slots stay. -/
theorem setPrimary_inSlot {v : Bool} {new : Option String} :
    (r.setPrimary v new).inSlot σ = if σ = ⟨v, false⟩ then new.toList else r.inSlot σ := by
  obtain ⟨w, secondary⟩ := σ
  cases secondary with
  | true => simp [IpRecord.setPrimary]
  | false => by_cases hw : w = v <;> simp [IpRecord.setPrimary, hw]

omit [OvsLib] [Build] in
theorem setSecondary_inSlot {v : Bool} {ips : List String} :
    (r.setSecondary v ips).inSlot σ = if σ = ⟨v, true⟩ then ips else r.inSlot σ := by
  obtain ⟨w, secondary⟩ := σ
  cases secondary with
  | false => simp [IpRecord.setSecondary]
  | true => by_cases hw : w = v <;> simp [IpRecord.setSecondary, hw]

omit [OvsLib] [Build] in
/-- Changing the addresses of one slot to `l`. -/
theorem pairs_of_inSlot {l : List String} {e : IpCall} (h0 : e.status = 0)
    (hat : ∀ σ, r'.inSlot σ = if σ = e.slot then l else r.inSlot σ)
    (hmem : ∀ x, x ∈ l ↔ if e.add then x = e.ip ∨ x ∈ r.inSlot e.slot
      else x ∈ r.inSlot e.slot ∧ x ≠ e.ip) : r'.pairs = e.act r.pairs := by
  ext ⟨σ, x⟩
  have hpairs : (σ, x) ∈ r'.pairs ↔ x ∈ r'.inSlot σ := Iff.rfl
  have hpairs' : (σ, x) ∈ r.pairs ↔ x ∈ r.inSlot σ := Iff.rfl
  rw [hpairs, hat σ, IpCall.mem_act, hpairs']
  unfold IpCall.Removed IpCall.Added
  by_cases hσ : σ = e.slot
  · subst hσ
    rw [if_pos rfl, hmem]
    cases e.add <;> simp [h0, eq_comm]
    tauto
  · rw [if_neg hσ]
    simp [Ne.symm hσ]

theorem ipSecondaryRemove_lockstep : Logged.Logs (Lockstep b)
    (IpLog.ipSecondaryRemove b isIpv6 ipv6Prefix ip) := by
  intro o st o' h
  refine recorded_lockstep (e := fun st => ⟨⟨isIpv6, true⟩, false, ip,
    ipHostPrefix ip ipv6Prefix, st⟩) (fun _ => rfl) (fun o st o' h => ?_) ?_ ?_ h
  · rw [IpLog.ofprotoIpRemove_prog] at h
    exact IpLog.ofprotoIpRemove_log h
  · rw [IpLog.ofprotoIpRemove_prog]
    exact ofprotoIpRemove_ipRecord
  · rintro r hr hnodup bundle rfl
    rw [setSecondary_ipRecord]
    refine ⟨fun v => ?_, pairs_of_inSlot (l := (bundle.secondary isIpv6).erase ip) rfl
      (fun σ => setSecondary_inSlot) fun x => ?_, fun σ hσ => ?_⟩
    · by_cases hv : v = isIpv6
      · subst hv
        rw [IpRecord.setSecondary_secondary]
        exact (hnodup v).erase ip
      · rw [IpRecord.setSecondary_of_ne hv]
        exact hnodup v
    · show x ∈ (bundle.ipRecord.secondary isIpv6).erase ip ↔
        x ∈ bundle.ipRecord.secondary isIpv6 ∧ x ≠ ip
      rw [(hnodup isIpv6).mem_erase_iff, and_comm]
    · rw [setSecondary_inSlot, if_neg (Ne.symm hσ)]

omit [Build] in
/-- An address that is not found is added once. -/
theorem ipSecondaryAdd_lockstep {bundle : OfbundleSai} (hb : o.bundles.lookup b = some bundle)
    (hnew : ip ∉ bundle.secondary isIpv6)
    (h : (IpLog.ipSecondaryAdd b isIpv6 ip).prog o = .ok (st, o')) :
    Lockstep b o ((IpLog.ipSecondaryAdd b isIpv6 ip).log o) o' := by
  refine recorded_lockstep (e := fun st => ⟨⟨isIpv6, true⟩, true, ip, ipHostPrefix ip false, st⟩)
    (fun _ => rfl) (fun o st o' h => ?_) ?_ ?_ h
  · rw [IpLog.ofprotoIpAdd_prog] at h
    exact IpLog.ofprotoIpAdd_log h
  · rw [IpLog.ofprotoIpAdd_prog]
    exact ofprotoIpAdd_ipRecord
  · rintro r hr hnodup bundle' rfl
    have hsecondary : bundle'.ipRecord.secondary isIpv6 = bundle.secondary isIpv6 :=
      congrArg (·.secondary isIpv6) (ipRecord_of_lookup_eq hr hb).symm
    rw [setSecondary_ipRecord]
    refine ⟨fun v => ?_, pairs_of_inSlot (l := ip :: bundle'.secondary isIpv6) rfl
      (fun σ => setSecondary_inSlot) fun x => ?_, fun σ hσ => ?_⟩
    · by_cases hv : v = isIpv6
      · subst hv
        rw [IpRecord.setSecondary_secondary]
        exact List.nodup_cons.mpr ⟨fun hin => hnew (hsecondary.symm ▸ hin), hnodup v⟩
      · rw [IpRecord.setSecondary_of_ne hv]
        exact hnodup v
    · exact List.mem_cons
    · rw [setSecondary_inSlot, if_neg (Ne.symm hσ)]

omit [OvsLib] [Build] in
theorem walkTable_lockstep {α β : Type} {table : List α} {k : List α → Logged IpCall OfprotoSai β}
    (hk : ∀ l, l.Perm table → Logged.Logs (Lockstep b) (k l)) :
    Logged.Logs (Lockstep b) (liftM (walkTable table) >>= k) :=
  Logged.Logs.lift_bind fun o l o' h => by
    obtain ⟨hperm, cs, rfl⟩ := walkTable_ok h
    exact ⟨.of_same rfl, hk l hperm⟩

omit [OvsLib] [Build] in
theorem ofbundle_lockstep {α : Type} {k : OfbundleSai → Logged IpCall OfprotoSai α}
    (hk : ∀ o bundle a o', o.bundles.lookup b = some bundle → (k bundle).prog o = .ok (a, o') →
      Lockstep b o ((k bundle).log o) o') :
    Logged.Logs (Lockstep b) (liftM (ofbundle b) >>= k) := by
  intro o a o' h
  obtain ⟨bundle, hb, h⟩ := ofbundle_bind.mp h
  rw [Logged.log_lift_bind (ofbundle_apply hb)]
  exact hk o bundle a o' hb h

theorem ofbundleIpSecondaryReconfigure_lockstep
    (hs : ∀ ip ∈ s.secondary isIpv6, OvsLib.addrIsIpv6 ip = isIpv6) :
    Logged.Logs (Lockstep b) (IpLog.ofbundleIpSecondaryReconfigure b s isIpv6) := by
  refine ofbundle_lockstep fun o bundle st o' _ h => walkTable_lockstep (fun oldIps _ =>
    walkTable_lockstep fun newIps hnew => ?_) o st o' h
  refine (Logged.Logs.forEach fun _ =>
    (Logged.Logs.pure _).ite ipSecondaryRemove_lockstep).thenOk ?_
  refine Logged.Logs.forEach_mem fun ip hip => ofbundle_lockstep fun o bundle st o' hb h => ?_
  by_cases hfind : bundle.ipSecondaryFind ip = true
  · rw [if_pos hfind] at h ⊢
    cases h
    exact Logged.IsLogRel.nil _
  · rw [if_neg hfind] at h ⊢
    refine ipSecondaryAdd_lockstep hb (fun hin => hfind ?_) h
    rw [OfbundleSai.ipSecondaryFind, hs ip (List.mem_dedup.mp (hnew.mem_iff.mp hip))]
    simpa using hin

omit [OvsLib] [Build] in
/-- A call for the primary address, after which the bundle records what the call has done. -/
theorem setPrimary_lockstep {t : Logged IpCall OfprotoSai Int} {add : Bool} {new : Option String}
    (hlog : ∀ o st o', t.prog o = .ok (st, o') →
      t.log o = [⟨⟨isIpv6, false⟩, add, ip, ipHostPrefix ip isIpv6, st⟩])
    (hframe : Frame OfprotoSai.ipRecord t.prog) (hr : o.ipRecord b = some r)
    (hmem : ∀ x, x ∈ new.toList ↔ if add then x = ip ∨ x ∈ (r.primary isIpv6).toList
      else x ∈ (r.primary isIpv6).toList ∧ x ≠ ip)
    (h : (t.thenOk do modifyBundle b (OfbundleSai.setPrimary isIpv6 new); return 0).prog o =
      .ok (st, o')) :
    Lockstep b o ((t.thenOk do
      modifyBundle b (OfbundleSai.setPrimary isIpv6 new); return 0).log o) o' := by
  refine recorded_lockstep (fun _ => rfl) hlog hframe ?_ h
  rintro r' hr' hnodup bundle rfl
  obtain rfl : bundle.ipRecord = r := Option.some.inj (hr'.symm.trans hr)
  rw [setPrimary_ipRecord]
  refine ⟨hnodup, pairs_of_inSlot rfl (fun σ => setPrimary_inSlot) hmem, fun σ hσ => ?_⟩
  rw [setPrimary_inSlot, if_neg (Ne.symm hσ)]

omit [Build] in
theorem ipPrimaryAdd_lockstep {new : Option String} (hr : o.ipRecord b = some r)
    (hnone : r.primary isIpv6 = none ∨ r.primary isIpv6 = new)
    (h : (IpLog.ipPrimaryAdd b isIpv6 new).prog o = .ok (st, o')) :
    Lockstep b o ((IpLog.ipPrimaryAdd b isIpv6 new).log o) o' := by
  cases new with
  | none =>
    cases h
    exact Logged.IsLogRel.nil _
  | some ip =>
    have hlog : ∀ o st o', (IpLog.ofprotoIpAdd ⟨isIpv6, false⟩ ip isIpv6).prog o = .ok (st, o') →
        (IpLog.ofprotoIpAdd ⟨isIpv6, false⟩ ip isIpv6).log o =
          [⟨⟨isIpv6, false⟩, true, ip, ipHostPrefix ip isIpv6, st⟩] := fun o st o' h => by
      rw [IpLog.ofprotoIpAdd_prog] at h
      exact IpLog.ofprotoIpAdd_log h
    refine setPrimary_lockstep hlog ?_ hr (fun x => ?_) h
    · rw [IpLog.ofprotoIpAdd_prog]
      exact ofprotoIpAdd_ipRecord
    · rcases hnone with hnone | hnone <;> simp [hnone, eq_comm]

/-- Once the old primary address is dropped, none is recorded or the one that is to come. -/
theorem ipPrimaryDrop_lockstep {new : Option String} (hr : o.ipRecord b = some r)
    (h : (IpLog.ipPrimaryDrop b isIpv6 (r.primary isIpv6) new).prog o = .ok (st, o')) :
    Lockstep b o ((IpLog.ipPrimaryDrop b isIpv6 (r.primary isIpv6) new).log o) o' ∧
      (st = 0 → ∃ r', o'.ipRecord b = some r' ∧
        (r'.primary isIpv6 = none ∨ r'.primary isIpv6 = new)) := by
  cases hold : r.primary isIpv6 with
  | none =>
    rw [hold] at h
    cases h
    exact ⟨Logged.IsLogRel.nil _, fun _ => ⟨r, hr, .inl hold⟩⟩
  | some old =>
    rw [hold] at h
    by_cases hnew : new = some old
    · simp only [IpLog.ipPrimaryDrop, if_pos hnew] at h ⊢
      cases h
      exact ⟨Logged.IsLogRel.nil _, fun _ => ⟨r, hr, .inr (hold.trans hnew.symm)⟩⟩
    · simp only [IpLog.ipPrimaryDrop, if_neg hnew] at h ⊢
      have hlog : ∀ o st o', (IpLog.ofprotoIpRemove ⟨isIpv6, false⟩ old isIpv6).prog o =
          .ok (st, o') → (IpLog.ofprotoIpRemove ⟨isIpv6, false⟩ old isIpv6).log o =
            [⟨⟨isIpv6, false⟩, false, old, ipHostPrefix old isIpv6, st⟩] := fun o st o' h => by
        rw [IpLog.ofprotoIpRemove_prog] at h
        exact IpLog.ofprotoIpRemove_log h
      have hframe : Frame OfprotoSai.ipRecord
          (IpLog.ofprotoIpRemove ⟨isIpv6, false⟩ old isIpv6).prog := by
        rw [IpLog.ofprotoIpRemove_prog]
        exact ofprotoIpRemove_ipRecord
      refine ⟨setPrimary_lockstep hlog hframe hr (fun x => by simp [hold, eq_comm]) h, ?_⟩
      rintro rfl
      rw [Logged.prog_thenOk] at h
      exact ⟨_, setPrimary_record hframe hr h, .inl (Function.update_self ..)⟩

/-- The old primary address goes before the new one comes, unless they are the same. -/
theorem ipPrimaryReconfigure_lockstep {new : Option String} :
    Logged.Logs (Lockstep b) (IpLog.ipPrimaryReconfigure b isIpv6 new) := by
  refine ofbundle_lockstep fun o bundle st o' hb h => ?_
  have hr := ipRecord_of_lookup hb
  refine Logged.Logs.thenOk_run (fun st o₁ hdrop => (ipPrimaryDrop_lockstep hr hdrop).1)
    (fun o₁ hdrop st o' hadd => ?_) h
  obtain ⟨r₁, hr₁, hnone⟩ := (ipPrimaryDrop_lockstep hr hdrop).2 rfl
  exact ipPrimaryAdd_lockstep hr₁ hnone hadd

theorem ofbundleIpReconfigure_logs (hs : ∀ v, ∀ ip ∈ s.secondary v, OvsLib.addrIsIpv6 ip = v) :
    Logged.Logs (Lockstep b) (IpLog.ofbundleIpReconfigure b s) :=
  (Logged.Logs.ite ipPrimaryReconfigure_lockstep (Logged.Logs.pure _)).thenOk <|
  (Logged.Logs.ite ipPrimaryReconfigure_lockstep (Logged.Logs.pure _)).thenOk <|
  ((ofbundleIpSecondaryReconfigure_lockstep (hs false)).ite (Logged.Logs.pure _)).thenOk <|
  (ofbundleIpSecondaryReconfigure_lockstep (hs true)).ite (Logged.Logs.pure _)

/-! ## The order of the calls -/

omit [OvsLib] [Build] in
/-- The calls are about the slots `σs`, and in order. -/
def OrderedIn (σs : List IpSlot) (l : List IpCall) : Prop :=
  (∀ e ∈ l, e.slot ∈ σs) ∧ IpCall.Ordered l

omit [OvsLib] [Build] in
/-- First removals, then additions. -/
theorem OrderedIn.thenOk_add {t u : Logged IpCall OfprotoSai Int}
    (ht : t.Emits fun e => e.slot = σ ∧ e.add = false)
    (hu : u.Emits fun e => e.slot = σ ∧ e.add = true) :
    Logged.Logs (fun _ l _ => OrderedIn [σ] l) (t.thenOk u) := by
  intro o st o' h
  rw [Logged.prog_thenOk] at h
  have hremoved : ∀ {o st o'}, t.prog o = .ok (st, o') → IpCall.Ordered (t.log o) := fun h =>
    List.pairwise_of_forall_mem_list fun e he _ _ _ hadd =>
      absurd hadd (by simp [(ht _ _ _ h e he).2])
  rcases thenOk_ok.mp h with ⟨hrun, h0⟩ | ⟨o₁, hrun, hrest⟩
  · rw [Logged.log_thenOk_failed hrun h0]
    exact ⟨fun e he => List.mem_singleton.mpr (ht _ _ _ hrun e he).1, hremoved hrun⟩
  · rw [Logged.log_thenOk hrun]
    have hadded := hu _ _ _ hrest
    refine ⟨List.forall_mem_append.mpr ⟨fun e he => List.mem_singleton.mpr (ht _ _ _ hrun e he).1,
      fun e he => List.mem_singleton.mpr (hadded e he).1⟩, List.pairwise_append.mpr
      ⟨hremoved hrun, ?_, fun e _ e' he' _ _ => (hadded e' he').2⟩⟩
    exact List.pairwise_of_forall_mem_list fun _ _ e' he' _ _ => (hadded e' he').2

omit [OvsLib] [Build] in
/-- First the calls about some slots, then those about others. -/
theorem OrderedIn.thenOk {t u : Logged IpCall OfprotoSai Int} {σs τs : List IpSlot}
    (ht : Logged.Logs (fun _ l _ => OrderedIn σs l) t)
    (hu : Logged.Logs (fun _ l _ => OrderedIn τs l) u) (hd : ∀ σ ∈ σs, σ ∉ τs) :
    Logged.Logs (fun _ l _ => OrderedIn (σs ++ τs) l) (t.thenOk u) := by
  intro o st o' h
  rw [Logged.prog_thenOk] at h
  rcases thenOk_ok.mp h with ⟨hrun, h0⟩ | ⟨o₁, hrun, hrest⟩
  · rw [Logged.log_thenOk_failed hrun h0]
    obtain ⟨hslots, hord⟩ := ht _ _ _ hrun
    exact ⟨fun e he => List.mem_append_left _ (hslots e he), hord⟩
  · rw [Logged.log_thenOk hrun]
    obtain ⟨hslots, hord⟩ := ht _ _ _ hrun
    obtain ⟨hslots', hord'⟩ := hu _ _ _ hrest
    refine ⟨List.forall_mem_append.mpr ⟨fun e he => List.mem_append_left _ (hslots e he),
      fun e he => List.mem_append_right _ (hslots' e he)⟩,
      List.pairwise_append.mpr ⟨hord, hord', fun e he e' he' heq _ => ?_⟩⟩
    exact absurd (hslots' e' he') (heq ▸ hd e.slot (hslots e he))

omit [OvsLib] [Build] in
/-- A part that is run if its slot has changed. -/
theorem OrderedIn.flagged {t : Logged IpCall OfprotoSai Int} {c : IpChange}
    (ht : Logged.Logs (fun _ l _ => OrderedIn [σ] l) t) :
    Logged.Logs (fun _ l _ => OrderedIn ([σ].filter c.inSlot) l)
      (if c.inSlot σ then t else pure 0) := by
  cases hc : c.inSlot σ with
  | true =>
    rw [List.filter_singleton, hc]
    exact ht
  | false => exact fun _ _ _ _ => ⟨fun _ he => (by cases he), List.Pairwise.nil⟩

omit [Build] in
theorem ofprotoIpAdd_emits :
    (IpLog.ofprotoIpAdd σ ip isIpv6).Emits fun e => e.slot = σ ∧ e.add = true := by
  refine Logged.Emits.lift_bind fun pfx => Logged.Emits.lift_bind fun vrid =>
    Logged.Logs.event fun _ _ _ _ => ?_
  simp

theorem ofprotoIpRemove_emits :
    (IpLog.ofprotoIpRemove σ ip isIpv6).Emits fun e => e.slot = σ ∧ e.add = false := by
  refine Logged.Emits.lift_bind fun pfx => Logged.Emits.lift_bind fun vrid =>
    Logged.Logs.event fun _ _ _ _ => ?_
  simp

omit [OvsLib] [Build] in
/-- Recording a change is no call. -/
theorem thenRecord_emits {P : IpCall → Prop} {t : Logged IpCall OfprotoSai Int} (ht : t.Emits P)
    {f : OfbundleSai → OfbundleSai} :
    (t.thenOk do modifyBundle b f; return 0).Emits P :=
  ht.thenOk (Logged.Emits.lift_bind fun _ => Logged.Logs.pure _)

theorem ipPrimaryReconfigure_ordered {new : Option String} : Logged.Logs
    (fun _ l _ => OrderedIn [⟨isIpv6, false⟩] l) (IpLog.ipPrimaryReconfigure b isIpv6 new) := by
  intro o st o' h
  obtain ⟨bundle, hb, h⟩ := ofbundle_bind.mp h
  rw [IpLog.ipPrimaryReconfigure, Logged.log_lift_bind (ofbundle_apply hb)]
  refine OrderedIn.thenOk_add ?_ ?_ _ _ _ h
  · unfold IpLog.ipPrimaryDrop
    cases bundle.primary isIpv6 with
    | none => exact Logged.Logs.pure _
    | some old => exact (Logged.Logs.pure _).ite (thenRecord_emits ofprotoIpRemove_emits)
  · cases new with
    | none => exact Logged.Logs.pure _
    | some ip => exact thenRecord_emits ofprotoIpAdd_emits

theorem ofbundleIpSecondaryReconfigure_ordered : Logged.Logs
    (fun _ l _ => OrderedIn [⟨isIpv6, true⟩] l)
    (IpLog.ofbundleIpSecondaryReconfigure b s isIpv6) := by
  intro o st o' h
  obtain ⟨bundle, hb, h⟩ := ofbundle_bind.mp h
  obtain ⟨oldIps, o₁, h₁, h⟩ := bind_ok.mp h
  obtain ⟨newIps, o₂, h₂, h⟩ := bind_ok.mp h
  have hlog : (IpLog.ofbundleIpSecondaryReconfigure b s isIpv6).log o = _ :=
    (Logged.log_lift_bind (ofbundle_apply hb)).trans
      ((Logged.log_lift_bind h₁).trans (Logged.log_lift_bind h₂))
  rw [hlog]
  refine OrderedIn.thenOk_add ?_ ?_ _ _ _ h
  · exact Logged.Logs.forEach fun _ =>
      (Logged.Logs.pure _).ite (thenRecord_emits ofprotoIpRemove_emits)
  · exact Logged.Logs.forEach fun _ => Logged.Emits.lift_bind fun _ =>
      (Logged.Logs.pure _).ite (thenRecord_emits ofprotoIpAdd_emits)

/-- The slots that have changed, in the order in which they are reconfigured. -/
def IpChange.slots (c : IpChange) : List IpSlot :=
  [⟨false, false⟩].filter c.inSlot ++ ([⟨true, false⟩].filter c.inSlot ++
    ([⟨false, true⟩].filter c.inSlot ++ [⟨true, true⟩].filter c.inSlot))

omit [OvsLib] [Build] in
theorem IpChange.mem_slots {c : IpChange} : σ ∈ c.slots ↔ c.inSlot σ = true := by
  have hall : σ ∈ [(⟨false, false⟩ : IpSlot)] ++ ([⟨true, false⟩] ++ ([⟨false, true⟩] ++
      [⟨true, true⟩])) := by
    obtain ⟨_ | _, _ | _⟩ := σ <;> decide
  rw [IpChange.slots, ← List.filter_append, ← List.filter_append, ← List.filter_append,
    List.mem_filter, and_iff_right hall]

theorem ofbundleIpReconfigure_ordered : Logged.Logs
    (fun _ l _ => OrderedIn s.ipChange.slots l) (IpLog.ofbundleIpReconfigure b s) := by
  refine OrderedIn.thenOk (OrderedIn.flagged ipPrimaryReconfigure_ordered)
    (OrderedIn.thenOk (OrderedIn.flagged ipPrimaryReconfigure_ordered)
      (OrderedIn.thenOk (OrderedIn.flagged ofbundleIpSecondaryReconfigure_ordered)
        (OrderedIn.flagged ofbundleIpSecondaryReconfigure_ordered) ?_) ?_) ?_
  all_goals
    intro σ hσ
    obtain rfl := List.mem_singleton.mp (List.mem_of_mem_filter hσ)
    simp

/-- **The recorded addresses move in lockstep with the route calls.** In each slot they are those
from before without the ones that a call has removed and with the ones that a call has added, no
cache holds an address twice, and slots without a change are as they were, whether or not the
reconfiguration fails. If it succeeds, the slots with a change hold the addresses of the
settings. -/
theorem ofbundleIpReconfigure_lockstep (hr : o.ipRecord b = some r) (hnodup : r.Nodup)
    (hs : ∀ v, ∀ ip ∈ s.secondary v, OvsLib.addrIsIpv6 ip = v)
    (h : ofbundleIpReconfigure b s o = .ok (st, o')) :
    ∃ r', o'.ipRecord b = some r' ∧ r'.Nodup ∧
      (∀ σ ip, ip ∈ r'.inSlot σ ↔
        (ip ∈ r.inSlot σ ∧ ¬∃ e ∈ (IpLog.ofbundleIpReconfigure b s).log o, e.Removed σ ip) ∨
          ∃ e ∈ (IpLog.ofbundleIpReconfigure b s).log o, e.Added σ ip) ∧
      (∀ σ, s.ipChange.inSlot σ = false → r'.inSlot σ = r.inSlot σ) ∧
      (st = 0 → ∀ σ, s.ipChange.inSlot σ = true → ∀ ip, ip ∈ r'.inSlot σ ↔ ip ∈ s.inSlot σ) := by
  have hrun := h
  rw [← IpLog.ofbundleIpReconfigure_prog] at hrun
  obtain ⟨hslots, hord⟩ := ofbundleIpReconfigure_ordered _ _ _ hrun
  obtain ⟨r', hr', hnodup', hpairs, hat⟩ := ofbundleIpReconfigure_logs hs _ _ _ hrun r hr hnodup
  refine ⟨r', hr', hnodup', fun σ ip => ?_, fun σ hσ => hat σ fun e he heq => ?_, ?_⟩
  · have hmem : (σ, ip) ∈ IpCall.play _ r.pairs ↔ _ := IpCall.mem_play hord
    rw [← hpairs] at hmem
    exact hmem
  · have := IpChange.mem_slots.1 (heq ▸ hslots e he)
    rw [hσ] at this
    cases this
  · rintro rfl ⟨v, secondary⟩ hσ ip
    obtain ⟨r₁, hr₁, hfollows⟩ := ofbundleIpReconfigure_record hr h
    obtain rfl : r' = r₁ := Option.some.inj (hr'.symm.trans hr₁)
    cases secondary with
    | false =>
      have hprimary : r'.primary v = s.primary v := (hfollows.primary v).trans (if_pos hσ)
      simp [OfprotoBundleSettings.inSlot, hprimary]
    | true =>
      have hfit : s.TextsFit r := by
        refine ⟨fun _ ip hip htext _ => ?_, fun _ ip hip htext _ => ?_⟩
        · rw [hs false ip hip] at htext
          cases htext
        · rw [hs true ip hip] at htext
          cases htext
      exact hfollows.secondary_iff.mpr hfit v hσ ip

end

section
attribute [local instance] sampleOvs sampleBuild

/-- Settings with the primary address 10.0.0.1/24 and the secondary address 10.0.0.2/24. -/
def twoIpSettings : OfprotoBundleSettings :=
  { primarySettings with ip4AddressSecondary := ["10.0.0.2/24"] }

/-- A bundle without addresses, on hardware that refuses the second call. -/
def refusingOfproto : OfprotoSai :=
  (OfprotoSai.new .vrf 0 samplePorts { Hw.reset with outcomes := [.success, .failure] }).setBundle 1
    (.alloc 1 none)

/-- The first address is recorded, and the second one is not. -/
theorem ofbundleIpReconfigure_lockstep_refused :
    ∃ o' r', ofbundleIpReconfigure 1 twoIpSettings refusingOfproto = .ok (-1, o') ∧
      o'.ipRecord 1 = some r' ∧ "10.0.0.1/24" ∈ r'.inSlot ⟨false, false⟩ ∧
      "10.0.0.2/24" ∉ r'.inSlot ⟨false, true⟩ := by
  obtain ⟨o', hrun⟩ := result_eq_some.mp (show result (ofbundleIpReconfigure 1 twoIpSettings)
    refusingOfproto = some (-1) by decide)
  have hlog : (IpLog.ofbundleIpReconfigure 1 twoIpSettings).log refusingOfproto =
      [⟨⟨false, false⟩, true, "10.0.0.1/24", "10.0.0.1/32", 0⟩,
        ⟨⟨false, true⟩, true, "10.0.0.2/24", "10.0.0.2/32", -1⟩] := by decide
  have hnodup : (OfbundleSai.alloc 1 none).ipRecord.Nodup := by
    intro v
    cases v <;> exact List.nodup_nil
  have htext : ∀ v, ∀ ip ∈ twoIpSettings.secondary v, OvsLib.addrIsIpv6 ip = v := by decide
  obtain ⟨r', hr', -, hmem, -, -⟩ := ofbundleIpReconfigure_lockstep
    (ipRecord_of_lookup (show refusingOfproto.bundles.lookup 1 = some (.alloc 1 none) from rfl))
    hnodup htext hrun
  refine ⟨o', r', hrun, hr', (hmem _ _).mpr (.inr ?_), fun hin => ?_⟩
  · rw [hlog]
    exact ⟨_, List.mem_cons_self .., rfl, rfl, rfl, rfl⟩
  · rcases (hmem _ _).mp hin with ⟨hold, -⟩ | hadded
    · cases hold
    · rw [hlog] at hadded
      simp [IpCall.Added] at hadded

end

end SwitchdSai
