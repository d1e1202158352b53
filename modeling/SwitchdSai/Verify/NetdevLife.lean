import SwitchdSai.Verify.HostIntf
import SwitchdSai.Verify.Netdev

/-!
# Netdevs and their host interfaces

A netdev is marked initialized exactly when the host interface table has an entry with its name, as
long as no bridge interface is initialized and no initialization fails after its host interface has
been created.
-/

namespace SwitchdSai

open Exec HostIntfs NetdevSys

/-- The netdev named `name` and the entry with this name. -/
def NetdevSys.pair (name : String) (s : NetdevSys) : Option NetdevSai × Option HifEntry :=
  (s.netdevs name, s.hif.allHostIntf.lookup name)

/-- A netdev is initialized exactly when it has an entry, which its destruction can remove. -/
structure Paired (p : Option NetdevSai × Option HifEntry) : Prop where
  owned : p.1.any (·.isPortInitialized) = p.2.isSome
  removable : ∀ hif, p.2 = some hif → hif.type ≠ .l3PortNetdev

theorem Paired.of_none {dev : NetdevSai} (hinit : dev.isPortInitialized = false) :
    Paired (some dev, none) := ⟨hinit, fun _ h => by cases h⟩

theorem Paired.of_some {dev : NetdevSai} {hif : HifEntry} (hinit : dev.isPortInitialized = true)
    (htype : hif.type ≠ .l3PortNetdev) : Paired (some dev, some hif) :=
  ⟨hinit, fun _ h => by cases h; exact htype⟩

variable {s s' : HostIntfs} {name : String} {handle : Nat} {type : HostIntfType} {mac : EthAddr}
  {st : Int}

/-! ## The table -/

/-- The part of a creation before its entry is added leaves the table as it was. -/
theorem mlnxCreateNetdev_table (h : mlnxCreateNetdev name handle type s = .ok (st, s')) :
    s'.allHostIntf = s.allHostIntf := by
  rcases mlnxCreateNetdev_ok h with ⟨-, -, htables⟩ | ⟨-, htables, -⟩ <;>
    exact congrArg Prod.fst htables

theorem system_table {valid : HostIntfs → Bool} {effect : HostIntfs → HostIntfs}
    (h : ∀ s, (effect s).allHostIntf = s.allHostIntf) :
    Frame HostIntfs.allHostIntf (system valid effect) := fun s _ s' hs => by
  rcases system_ok hs with ⟨-, -, -, rfl⟩ | ⟨-, -, -, rfl⟩
  · exact h s.tickCode
  · rfl

theorem sxNet_table {valid : HostIntfs → Bool} {effect : HostIntfs → HostIntfs}
    (h : ∀ s, (effect s).allHostIntf = s.allHostIntf) :
    Frame HostIntfs.allHostIntf (sxNet valid effect) := fun s _ s' hs => by
  rcases sxNet_ok hs with ⟨-, -, -, rfl⟩ | ⟨-, -, rfl⟩
  · exact h s.tick
  · rfl

theorem mlnxRemoveNetdevOfType_table :
    Frame HostIntfs.allHostIntf (mlnxRemoveNetdevOfType name type) := by
  have hdel : Frame HostIntfs.allHostIntf (ipLinkDel name) := system_table fun _ => rfl
  cases type with
  | l2PortNetdev | l3VlanNetdev => exact hdel.bind fun _ => Rel.pure _
  | l3PortNetdev =>
    refine (Rel.gets _).bind fun hif => ?_
    cases hif with
    | none => exact Rel.pure _
    | some hif =>
      have hdestroy : Frame HostIntfs.allHostIntf (sxNetInterfaceDestroy hif.handle) :=
        sxNet_table fun _ => rfl
      exact hdestroy.bind fun _ => Rel.pure _

/-- An entry of an L2 port or a VLAN is always removed. -/
theorem hostIntfNetdevRemove_ok {hif : HifEntry} (hfind : s.allHostIntf.lookup name = some hif)
    (hne : hif.type ≠ .l3PortNetdev) (h : hostIntfNetdevRemove name s = .ok (st, s')) :
    s'.allHostIntf = s.allHostIntf.erase name := by
  rw [hostIntfNetdevRemove, hostIntfEntryFind, gets_bind, need_bind] at h
  obtain ⟨hif', hfind', h⟩ := h
  cases hfind.symm.trans hfind'
  obtain ⟨err, s₁, hremove, h⟩ := bind_ok.mp h
  rw [mlnxRemoveNetdevOfType_of_ne hne] at hremove
  obtain ⟨rfl, ⟨-, -, rfl⟩ | ⟨-, rfl⟩⟩ := mlnxRemoveNetdev_ok hremove <;> cases h <;> rfl

/-! ## Assertions about the table -/

/-- A stop at one of the assertions about the table. -/
def TableAssertion (e : Halt) : Prop :=
  e = .assertion "hif" ∨ e = .assertion "!__host_intf_entry_hmap_find"

instance (e : Halt) : Decidable (TableAssertion e) := inferInstanceAs (Decidable (_ ∨ _))

theorem system_avoids {E : Halt → Prop} {valid : HostIntfs → Bool}
    {effect : HostIntfs → HostIntfs} : Avoids E (system valid effect) s := fun e h => by
  unfold system at h
  split at h
  · split at h <;> cases h
  · cases h

theorem sxNet_avoids {E : Halt → Prop} {valid : HostIntfs → Bool}
    {effect : HostIntfs → HostIntfs} : Avoids E (sxNet valid effect) s := fun e h => by
  unfold sxNet at h
  split at h
  · split at h <;> cases h
  · cases h

theorem mlnxObjectToType_avoids : Avoids TableAssertion mlnxObjectToType s :=
  Avoids.bind sxNet_avoids fun _ _ _ => .require (.inr (by decide))

theorem mlnxCreateNetdev_avoids :
    Avoids TableAssertion (mlnxCreateNetdev name handle type) s := by
  cases type with
  | l2PortNetdev =>
    refine Avoids.bind mlnxObjectToType_avoids fun _ _ _ =>
      Avoids.bind system_avoids fun _ _ _ => ?_
    exact .ite (fun _ => .pure _) fun _ => Avoids.bind system_avoids fun _ _ _ => .pure _
  | l3PortNetdev =>
    refine Avoids.bind mlnxObjectToType_avoids fun _ _ _ => Avoids.bind sxNet_avoids fun _ _ _ => ?_
    exact .ite (fun _ => .pure _) fun _ => Avoids.bind system_avoids fun _ _ _ => .pure _
  | l3VlanNetdev => exact Avoids.bind system_avoids fun _ _ _ => .pure _

theorem hostIntfNetdevCreate_avoids (hnone : s.allHostIntf.lookup name = none) :
    Avoids TableAssertion (hostIntfNetdevCreate name type handle mac) s := by
  refine Avoids.bind mlnxCreateNetdev_avoids fun err s₁ hcreate =>
    .ite (fun _ => .pure _) fun _ => ?_
  refine .bind (.bind (.gets _) fun found s₂ hfind => ?_) fun _ _ _ => .pure _
  cases hfind
  refine .bind (.require (.inl ?_)) fun _ _ _ => .modify _
  beta_reduce
  rw [mlnxCreateNetdev_table hcreate, hnone]
  rfl

theorem mlnxRemoveNetdevOfType_avoids :
    Avoids TableAssertion (mlnxRemoveNetdevOfType name type) s := by
  cases type with
  | l2PortNetdev | l3VlanNetdev => exact Avoids.bind system_avoids fun _ _ _ => .pure _
  | l3PortNetdev =>
    refine .bind (.gets _) fun hif s₁ _ => ?_
    cases hif with
    | none => exact .pure _
    | some hif => exact Avoids.bind sxNet_avoids fun _ _ _ => .pure _

theorem hostIntfNetdevRemove_avoids (hsome : (s.allHostIntf.lookup name).isSome = true) :
    Avoids TableAssertion (hostIntfNetdevRemove name) s := by
  refine .bind (.gets _) fun found s₁ hfind => ?_
  cases hfind
  refine .bind (.need (.inl hsome)) fun hif _ _ => ?_
  refine Avoids.bind mlnxRemoveNetdevOfType_avoids fun _ _ _ => ?_
  exact .ite (fun _ => .pure _) fun _ => .bind (.modify _) fun _ _ _ => .pure _

/-! ## Calls -/

/-- The calls of the life cycle of netdevs. -/
inductive NetdevCall where
  | construct (name : String) (type : NetdevType)
  | setHwIntfInfo (name : String) (args : Smap)
  | setHwIntfInfoInternal (name : String) (args : Smap)
  | destruct (name : String)

namespace NetdevCall

/-- The netdev of a call. -/
def netdevName : NetdevCall → String
  | construct name _ | setHwIntfInfo name _ | setHwIntfInfoInternal name _ | destruct name => name

variable [OvsLib] [OpenswitchIdl]

/-- An initialization does not fail after the host interface has been created, and is not one of a
bridge interface. -/
def Safe (s : NetdevSys) : NetdevCall → Prop
  | construct _ _ | destruct _ => True
  | setHwIntfInfo name args => ∀ dev, s.netdevs name = some dev → dev.isPortInitialized = false →
      name ≠ OpenswitchIdl.DEFAULT_BRIDGE_NAME →
        s.hif.CanCreate name ((smapGetInt args .switchIntfId (-1)).signExtend 64).toNat
          .l2PortNetdev ∧ s.hif.CanAddress .l2PortNetdev → s.hw.nextOutcome = .success
  | setHwIntfInfoInternal name args => ∀ dev, s.netdevs name = some dev →
      dev.isPortInitialized = false →
        smapGetBool args .bridge OpenswitchIdl.DFLT_INTERFACE_HW_INTF_INFO_MAP_BRIDGE = false

variable [Build]

def run : NetdevCall → Exec NetdevSys Int
  | construct name type => netdevConstruct name type
  | setHwIntfInfo name args => SwitchdSai.setHwIntfInfo name args
  | setHwIntfInfoInternal name args => SwitchdSai.setHwIntfInfoInternal name args
  | destruct name => netdevDestruct name

end NetdevCall

variable {t t' : NetdevSys}

theorem Paired.lookup_isSome {dev : NetdevSai} (hp : Paired (t.pair name))
    (hdev : t.netdevs name = some dev) :
    (t.hif.allHostIntf.lookup name).isSome = dev.isPortInitialized := by
  have howned := hp.owned
  rw [pair, hdev] at howned
  exact howned.symm

theorem Paired.lookup_eq_none {dev : NetdevSai} (hp : Paired (t.pair name))
    (hdev : t.netdevs name = some dev) (hinit : dev.isPortInitialized = false) :
    t.hif.allHostIntf.lookup name = none :=
  Option.isNone_iff_eq_none.mp (Option.isSome_eq_false_iff.mp ((hp.lookup_isSome hdev).trans hinit))

/-! ## Other netdevs -/

section
variable {other : String}

theorem modifyNetdev_pair {f : NetdevSai → NetdevSai} (hne : other ≠ name) :
    Frame (pair other) (modifyNetdev name f) := by
  intro t _ t' h
  cases h
  exact congrArg (·, _) (Function.update_of_ne hne ..)

theorem onHw_pair {α : Type} (m : Exec Hw α) : Frame (pair other) (onHw m) :=
  Rel.zoom fun _ _ _ _ => rfl

theorem hostIntfNetdevCreate_pair (hne : other ≠ name) :
    Frame (pair other) (onHif (hostIntfNetdevCreate name type handle mac)) := by
  intro t st t' h
  obtain ⟨hif, hcreate, rfl⟩ := onHif_ok.1 h
  refine congrArg (t.netdevs other, ·) ?_
  rcases hostIntfNetdevCreate_ok hcreate with ⟨-, -, htable, -⟩ | ⟨-, -, -, -, htable, -⟩
  · rw [htable]
  · rw [htable, AList.lookup_insert_ne hne]

theorem hostIntfNetdevRemove_pair (hne : other ≠ name) :
    Frame (pair other) (onHif (hostIntfNetdevRemove name)) := by
  intro t st t' h
  obtain ⟨hif, hremove, rfl⟩ := onHif_ok.1 h
  refine congrArg (t.netdevs other, ·) ?_
  have hdel : Frame (fun s => s.allHostIntf.lookup other) (hostIntfEntryDel name) :=
    Rel.modify fun _ => AList.lookup_erase_ne hne
  have hframe : Frame (fun s => s.allHostIntf.lookup other) (hostIntfNetdevRemove name) :=
    (Rel.gets _).bind fun _ => (Rel.need _ _).bind fun _ =>
      (mlnxRemoveNetdevOfType_table.comp fun table => table.lookup other).bind fun _ =>
        Rel.ite (Rel.pure _) (hdel.bind fun _ => Rel.pure _)
  exact hframe _ _ _ hremove

/-- A netdev that comes or goes. -/
theorem updateNetdev_pair {dev : Option NetdevSai} (hne : other ≠ name) :
    Frame (pair other)
      (modify fun t => { t with netdevs := Function.update t.netdevs name dev }) := by
  intro t _ t' h
  cases h
  exact congrArg (·, _) (Function.update_of_ne hne ..)

theorem netdev_pair : Frame (pair other) (netdev name) :=
  (Rel.gets _).bind fun _ => Rel.need _ _

variable [OvsLib] [OpenswitchIdl] [Build]

theorem setHwIntfInfo_pair {args : Smap} (hne : other ≠ name) :
    Frame (pair other) (setHwIntfInfo name args) := by
  refine Rel.bind netdev_pair fun dev => Rel.ite (Rel.pure _) ?_
  refine (Rel.gets _).bind fun mac => (modifyNetdev_pair hne).bind fun _ => ?_
  refine (hostIntfNetdevCreate_pair hne).bind fun st => Rel.ite (Rel.pure _) ?_
  refine (onHw_pair _).bind fun r => (modifyNetdev_pair hne).bind fun _ => Rel.ite (Rel.pure _) ?_
  exact (modifyNetdev_pair hne).bind fun _ => Rel.pure _

omit [Build] in
theorem setHwIntfInfoInternal_pair {args : Smap} (hne : other ≠ name) :
    Frame (pair other) (setHwIntfInfoInternal name args) := by
  refine Rel.bind netdev_pair fun dev =>
    Rel.ite (Rel.pure _) (Rel.thenOk (Rel.ite (Rel.pure _) ?_) ?_)
  · refine (Rel.require _ _).bind fun _ => (Rel.require _ _).bind fun _ => (Rel.gets _).bind ?_
    exact fun mac => (modifyNetdev_pair hne).bind fun _ => hostIntfNetdevCreate_pair hne
  · exact (modifyNetdev_pair hne).bind fun _ => Rel.pure _

/-- A call does not change other netdevs and their entries. -/
theorem NetdevCall.run_pair {c : NetdevCall} (hne : other ≠ c.netdevName) :
    Frame (pair other) c.run := by
  cases c with
  | construct name type =>
    refine (Rel.gets _).bind fun _ => (Rel.require _ _).bind fun _ => ?_
    exact (updateNetdev_pair hne).bind fun _ => Rel.pure _
  | setHwIntfInfo name args => exact setHwIntfInfo_pair hne
  | setHwIntfInfoInternal name args => exact setHwIntfInfoInternal_pair hne
  | destruct name =>
    refine Rel.bind netdev_pair fun dev => ?_
    refine (Rel.ite (hostIntfNetdevRemove_pair hne) (Rel.pure _)).bind fun _ => ?_
    exact (updateNetdev_pair hne).bind fun _ => Rel.pure _

end

/-! ## The netdev of a call -/

section
variable [Build]

theorem opsSaiPortConfigGet_ok {hwId : Nat} {conf conf' : OpsSaiPortConfig} {hw hw' : Hw}
    (h : opsSaiPortConfigGet hwId conf hw = .ok ((st, conf'), hw')) :
    st = 0 ↔ hw.nextOutcome = .success := by
  rw [opsSaiPortConfigGet, gets_bind] at h
  obtain ⟨⟨status, p⟩, hw₁, hget, h⟩ := bind_ok.mp h
  obtain ⟨status', hw₂, hcall, hget⟩ := bind_ok.mp hget
  cases hget
  obtain rfl := Hw.call_status hcall
  dsimp only at h
  split at h
  next hne =>
    cases h
    exact saiError2Errno_eq_zero
  next hne =>
    have hzero : st = 0 := by split at h <;> cases h <;> rfl
    exact iff_of_true hzero (not_not.mp hne)

end

theorem netdevConstruct_paired {dtype : NetdevType} (hp : Paired (t.pair name))
    (h : netdevConstruct name dtype t = .ok (st, t')) : Paired (t'.pair name) := by
  rw [netdevConstruct, gets_bind, require_bind, modify_bind] at h
  obtain ⟨hnone, h⟩ := h
  cases h
  have howned := hp.owned
  rw [pair, Option.isNone_iff_eq_none.mp hnone] at howned
  have hno : (t.pair name).2 = none :=
    Option.not_isSome_iff_eq_none.mp (howned ▸ Bool.false_ne_true)
  have hdev : Function.update t.netdevs name (some (.alloc name dtype)) name = _ :=
    Function.update_self ..
  refine ⟨?_, fun hif hfind => by cases hno.symm.trans hfind⟩
  show Option.any _ (Function.update t.netdevs name _ name) = (t.pair name).2.isSome
  rw [hdev, hno]
  rfl

theorem netdevDestruct_paired (hp : Paired (t.pair name))
    (h : netdevDestruct name t = .ok (st, t')) : Paired (t'.pair name) := by
  obtain ⟨dev, hdev, h⟩ := netdev_bind.1 h
  obtain ⟨st₁, t₁, hremove, h⟩ := bind_ok.mp h
  cases h
  have hlookup : t₁.hif.allHostIntf.lookup name = none := by
    split at hremove
    next hinit =>
      obtain ⟨hif, hremove', rfl⟩ := onHif_ok.1 hremove
      obtain ⟨entry, hfind⟩ := Option.isSome_iff_exists.mp ((hp.lookup_isSome hdev).trans hinit)
      rw [hostIntfNetdevRemove_ok hfind (hp.removable _ hfind) hremove']
      exact AList.lookup_erase ..
    next hinit =>
      cases hremove
      exact hp.lookup_eq_none hdev (Bool.not_eq_true _ ▸ hinit)
  refine ⟨?_, fun hif hfind => by cases hlookup.symm.trans hfind⟩
  show Option.any _ (Function.update t₁.netdevs name none name) =
    (t₁.hif.allHostIntf.lookup name).isSome
  rw [Function.update_self, hlookup]
  rfl

/-- The destruction of an initialized netdev without an entry aborts. -/
theorem netdevDestruct_aborts {dev : NetdevSai} (hdev : t.netdevs name = some dev)
    (hinit : dev.isPortInitialized = true)
    (hno : (t.hif.allHostIntf.lookup name).isSome = false) :
    netdevDestruct name t = .error (.assertion "hif") := by
  have hremove : onHif (hostIntfNetdevRemove name) t = .error (.assertion "hif") := by
    unfold onHif zoom
    rw [hostIntfNetdevRemove, hostIntfEntryFind, gets_bind,
      Option.isNone_iff_eq_none.mp (Option.isSome_eq_false_iff.mp hno)]
    rfl
  rw [netdevDestruct, bind_of_ok (netdev_ok.2 ⟨hdev, rfl⟩), if_pos hinit, bind_of_error hremove]

section
variable [OvsLib]

theorem createVlanIntf_ok {dev : NetdevSai} (hdev : t.netdevs name = some dev)
    (h : createVlanIntf name t = .ok (st, t')) :
    t'.netdevs name = some { dev with macAddr := t.saiApiMac } ∧
      ((st ≠ 0 ∧ t'.hif.allHostIntf = t.hif.allHostIntf) ∨
        (st = 0 ∧
          ∃ hif, t'.hif.allHostIntf.lookup name = some hif ∧ hif.type = .l3VlanNetdev)) := by
  rw [createVlanIntf, require_bind] at h
  obtain ⟨-, h⟩ := h
  rw [require_bind, gets_bind, modifyNetdev_bind] at h
  obtain ⟨-, h⟩ := h
  obtain ⟨hif, hcreate, rfl⟩ := onHif_ok.1 h
  refine ⟨mapNetdev_some hdev, ?_⟩
  rcases hostIntfNetdevCreate_ok hcreate with ⟨-, hst, htable, -⟩ | ⟨hst, -, -, -, htable, -⟩
  · exact .inl ⟨hst, htable⟩
  · exact .inr ⟨hst, _, htable ▸ AList.lookup_insert _, rfl⟩

variable [OpenswitchIdl] {args : Smap}

/-- An initialization that finds work to do marks the netdev initialized when its host interface is
created, and that of a bridge interface always does. -/
theorem setHwIntfInfoInternal_ok (h : setHwIntfInfoInternal name args t = .ok (st, t')) :
    ∃ dev, t.netdevs name = some dev ∧ ((dev.isPortInitialized = true ∧ t' = t) ∨
      (dev.isPortInitialized = false ∧ ∃ dev', t'.netdevs name = some dev' ∧
        ((smapGetBool args .bridge OpenswitchIdl.DFLT_INTERFACE_HW_INTF_INFO_MAP_BRIDGE = true ∧
            dev'.isPortInitialized = true ∧ t'.hif.allHostIntf = t.hif.allHostIntf) ∨
          (smapGetBool args .bridge OpenswitchIdl.DFLT_INTERFACE_HW_INTF_INFO_MAP_BRIDGE = false ∧
            ((dev'.isPortInitialized = false ∧ t'.hif.allHostIntf = t.hif.allHostIntf) ∨
              (dev'.isPortInitialized = true ∧
                ∃ hif, t'.hif.allHostIntf.lookup name = some hif ∧
                  hif.type = .l3VlanNetdev)))))) := by
  obtain ⟨dev, hdev, h⟩ := netdev_bind.1 h
  refine ⟨dev, hdev, ?_⟩
  split at h
  next hinit =>
    cases h
    exact .inl ⟨hinit, rfl⟩
  next hinit =>
  rw [Bool.not_eq_true] at hinit
  refine .inr ⟨hinit, ?_⟩
  cases hbridge :
    smapGetBool args .bridge OpenswitchIdl.DFLT_INTERFACE_HW_INTF_INFO_MAP_BRIDGE with
  | true =>
    rw [if_pos hbridge, zero_thenOk, modifyNetdev_bind] at h
    cases h
    exact ⟨_, mapNetdev_some hdev, .inl ⟨rfl, rfl, rfl⟩⟩
  | false =>
    rw [if_neg (by rw [hbridge]; decide)] at h
    rcases thenOk_ok.mp h with ⟨h₁, h0⟩ | ⟨t₁, h₁, hend⟩
    · obtain ⟨hdev', hcreate⟩ := createVlanIntf_ok hdev h₁
      obtain ⟨-, htable⟩ := hcreate.resolve_right fun hok => h0 hok.1
      exact ⟨_, hdev', .inr ⟨rfl, .inl ⟨hinit, htable⟩⟩⟩
    · obtain ⟨hdev', hcreate⟩ := createVlanIntf_ok hdev h₁
      obtain ⟨-, hfind⟩ := hcreate.resolve_left fun hfail => hfail.1 rfl
      rw [modifyNetdev_bind] at hend
      cases hend
      exact ⟨_, mapNetdev_some hdev', .inr ⟨rfl, .inr ⟨rfl, hfind⟩⟩⟩

/-- The handle of the port that an initialization is for. -/
abbrev portHandle (args : Smap) : Nat := ((smapGetInt args .switchIntfId (-1)).signExtend 64).toNat

/-- The host interface of a port can be created. -/
def NetdevSys.CanOwn (t : NetdevSys) (name : String) (handle : Nat) (type : HostIntfType) : Prop :=
  t.hif.CanCreate name handle type ∧ t.hif.CanAddress type

variable [Build]

/-- An initialization that finds work to do marks the netdev initialized when its host interface is
created and its port is read. -/
theorem setHwIntfInfo_ok (h : setHwIntfInfo name args t = .ok (st, t')) :
    ∃ dev, t.netdevs name = some dev ∧
      (((dev.isPortInitialized = true ∨ name = OpenswitchIdl.DEFAULT_BRIDGE_NAME) ∧ t' = t) ∨
      (dev.isPortInitialized = false ∧ name ≠ OpenswitchIdl.DEFAULT_BRIDGE_NAME ∧
        ∃ dev', t'.netdevs name = some dev' ∧
          ((¬t.CanOwn name (portHandle args) .l2PortNetdev ∧ dev'.isPortInitialized = false ∧
            t'.hif.allHostIntf.lookup name = t.hif.allHostIntf.lookup name) ∨
          (t.CanOwn name (portHandle args) .l2PortNetdev ∧
            (dev'.isPortInitialized = true ↔ t.hw.nextOutcome = .success) ∧
            ∃ hif, t'.hif.allHostIntf.lookup name = some hif ∧ hif.type = .l2PortNetdev)))) := by
  obtain ⟨dev, hdev, h⟩ := netdev_bind.1 h
  refine ⟨dev, hdev, ?_⟩
  dsimp only at h
  split at h
  next hskip =>
    cases h
    simp only [Bool.or_eq_true, decide_eq_true_eq] at hskip
    exact .inl ⟨hskip, rfl⟩
  next hskip =>
  simp only [Bool.or_eq_true, decide_eq_true_eq, not_or, Bool.not_eq_true] at hskip
  obtain ⟨hinit, hbridge⟩ := hskip
  refine .inr ⟨hinit, hbridge, ?_⟩
  rw [gets_bind, modifyNetdev_bind] at h
  obtain ⟨st₁, t₁, honHif, h⟩ := bind_ok.mp h
  obtain ⟨hif, hcreate, rfl⟩ := onHif_ok.1 honHif
  rcases hostIntfNetdevCreate_ok hcreate with ⟨hfail, hst, htable, -⟩ |
    ⟨rfl, hcan, haddr, -, htable, -⟩
  · rw [if_pos hst] at h
    cases h
    exact ⟨_, mapNetdev_some hdev, .inl ⟨hfail, hinit, congrArg _ htable⟩⟩
  · rw [if_neg (not_not.mpr rfl)] at h
    obtain ⟨⟨st₂, conf⟩, t₂, honHw, h⟩ := bind_ok.mp h
    obtain ⟨hw, hget, rfl⟩ := NetdevSys.onHw_ok.1 honHw
    have hread := opsSaiPortConfigGet_ok hget
    have hlookup : hif.allHostIntf.lookup name = _ := htable ▸ AList.lookup_insert _
    dsimp only at h
    rw [modifyNetdev_bind] at h
    split at h
    next hst =>
      cases h
      refine ⟨_, mapNetdev_some (mapNetdev_some hdev), .inr ⟨⟨hcan, haddr⟩, ?_, _, hlookup, rfl⟩⟩
      exact iff_of_false (by rw [hinit]; decide) (mt hread.mpr hst)
    next hst =>
      rw [modifyNetdev_bind] at h
      cases h
      refine ⟨_, mapNetdev_some (mapNetdev_some (mapNetdev_some hdev)), .inr ⟨⟨hcan, haddr⟩, ?_, _,
        hlookup, rfl⟩⟩
      exact iff_of_true rfl (hread.mp (not_not.mp hst))

theorem setHwIntfInfo_exact (hp : Paired (t.pair name))
    (h : setHwIntfInfo name args t = .ok (st, t')) :
    (NetdevCall.Safe t (.setHwIntfInfo name args) → Paired (t'.pair name)) ∧
      ((t'.pair name).1.any (·.isPortInitialized) = (t'.pair name).2.isSome →
        NetdevCall.Safe t (.setHwIntfInfo name args)) := by
  obtain ⟨dev, hdev, h⟩ := setHwIntfInfo_ok h
  rcases h with ⟨hskip, rfl⟩ | ⟨hinit, hbridge, dev', hdev', h⟩
  · refine ⟨fun _ => hp, fun _ dev' hdev' hinit hbridge => ?_⟩
    cases hdev.symm.trans hdev'
    rcases hskip with hskip | hskip
    · cases hinit.symm.trans hskip
    · exact absurd hskip hbridge
  rcases h with ⟨hfail, hinit', hlookup⟩ | ⟨hown, hread, hif, hfind, htype⟩
  · have hpair : t'.pair name = (some dev', none) :=
      Prod.ext hdev' (hlookup.trans (hp.lookup_eq_none hdev hinit))
    rw [hpair]
    exact ⟨fun _ => .of_none hinit', fun _ _ _ _ _ hown => absurd hown hfail⟩
  · have hpair : t'.pair name = (some dev', some hif) := Prod.ext hdev' hfind
    rw [hpair]
    refine ⟨fun hsafe => ?_, fun hinit' _ _ _ _ _ => hread.mp hinit'⟩
    exact .of_some (hread.mpr (hsafe dev hdev hinit hbridge hown)) (by rw [htype]; decide)

omit [Build] in
theorem setHwIntfInfoInternal_exact (hp : Paired (t.pair name))
    (h : setHwIntfInfoInternal name args t = .ok (st, t')) :
    (NetdevCall.Safe t (.setHwIntfInfoInternal name args) → Paired (t'.pair name)) ∧
      ((t'.pair name).1.any (·.isPortInitialized) = (t'.pair name).2.isSome →
        NetdevCall.Safe t (.setHwIntfInfoInternal name args)) := by
  obtain ⟨dev, hdev, h⟩ := setHwIntfInfoInternal_ok h
  rcases h with ⟨hinit, rfl⟩ | ⟨hinit, dev', hdev', h⟩
  · refine ⟨fun _ => hp, fun _ dev' hdev' hinit' => ?_⟩
    cases hdev.symm.trans hdev'
    cases hinit.symm.trans hinit'
  have hno := hp.lookup_eq_none hdev hinit
  rcases h with ⟨hbridge, hinit', htable⟩ | ⟨hbridge, h⟩
  · have hpair : t'.pair name = (some dev', none) := Prod.ext hdev' ((congrArg _ htable).trans hno)
    rw [hpair]
    refine ⟨fun hsafe => ?_, fun howned => ?_⟩
    · cases hbridge.symm.trans (hsafe dev hdev hinit)
    · cases hinit'.symm.trans howned
  · refine ⟨fun _ => ?_, fun _ _ _ _ => hbridge⟩
    rcases h with ⟨hinit', htable⟩ | ⟨hinit', hif, hfind, htype⟩
    · have hpair : t'.pair name = (some dev', none) :=
        Prod.ext hdev' ((congrArg _ htable).trans hno)
      rw [hpair]
      exact .of_none hinit'
    · have hpair : t'.pair name = (some dev', some hif) := Prod.ext hdev' hfind
      rw [hpair]
      exact .of_some hinit' (by rw [htype]; decide)

/-- A call pairs its netdev with an entry exactly when it is safe. -/
theorem NetdevCall.run_exact {c : NetdevCall} (hp : Paired (t.pair c.netdevName))
    (h : c.run t = .ok (st, t')) :
    (c.Safe t → Paired (t'.pair c.netdevName)) ∧
      ((t'.pair c.netdevName).1.any (·.isPortInitialized) = (t'.pair c.netdevName).2.isSome →
        c.Safe t) := by
  cases c with
  | construct name type => exact ⟨fun _ => netdevConstruct_paired hp h, fun _ => trivial⟩
  | setHwIntfInfo name args => exact setHwIntfInfo_exact hp h
  | setHwIntfInfoInternal name args => exact setHwIntfInfoInternal_exact hp h
  | destruct name => exact ⟨fun _ => netdevDestruct_paired hp h, fun _ => trivial⟩

omit [OvsLib] [OpenswitchIdl] in
theorem opsSaiPortConfigGet_avoids {E : Halt → Prop} {hwId : Nat} {conf : OpsSaiPortConfig}
    {hw : Hw} : Avoids E (opsSaiPortConfigGet hwId conf) hw := by
  have hcall : ∀ effect hw, Avoids E (Hw.call effect) hw := fun effect hw e h => by
    unfold Hw.call Hw.callIf at h
    split at h <;> cases h
  refine .bind (.gets _) fun oid hw₁ _ => ?_
  refine .bind (.bind (hcall _ _) fun _ _ _ => ?_) fun r hw₂ _ => ?_
  · exact .bind (.gets _) fun _ _ _ => .pure _
  · exact .ite (fun _ => .pure _) fun _ => .ite (fun _ => .pure _) fun _ => .pure _

/-- A call on a netdev that is paired does not fail an assertion about the table. -/
theorem NetdevCall.run_avoids {c : NetdevCall} (hp : Paired (t.pair c.netdevName)) :
    Avoids TableAssertion c.run t := by
  have hnetdev : ∀ name, Avoids TableAssertion (netdev name) t := fun name =>
    .bind (.gets _) fun _ _ _ => .need (.inr (by decide))
  cases c with
  | construct name type =>
    refine .bind (.gets _) fun _ _ _ => .bind (.require (.inr (by decide))) fun _ _ _ => ?_
    exact .bind (.modify _) fun _ _ _ => .pure _
  | setHwIntfInfo name args =>
    refine .bind (hnetdev name) fun dev t₁ hread => ?_
    obtain ⟨hdev, rfl⟩ := netdev_ok.1 hread
    refine .ite (fun _ => .pure _) fun hskip => ?_
    simp only [Bool.or_eq_true, decide_eq_true_eq, not_or, Bool.not_eq_true] at hskip
    have hno := hp.lookup_eq_none hdev hskip.1
    refine .bind (.gets _) fun mac t₂ hmac => .bind (.modify _) fun _ t₃ hmodify => ?_
    cases hmac
    cases hmodify
    refine .bind (.zoom (hostIntfNetdevCreate_avoids hno)) fun _ _ _ => .ite (fun _ => .pure _) ?_
    refine fun _ => .bind (.zoom opsSaiPortConfigGet_avoids) fun _ _ _ => ?_
    refine .bind (.modify _) fun _ _ _ => .ite (fun _ => .pure _) fun _ => ?_
    exact .bind (.modify _) fun _ _ _ => .pure _
  | setHwIntfInfoInternal name args =>
    refine .bind (hnetdev name) fun dev t₁ hread => ?_
    obtain ⟨hdev, rfl⟩ := netdev_ok.mp hread
    refine .ite (fun _ => .pure _) fun hinit => ?_
    have hno := hp.lookup_eq_none hdev (Bool.eq_false_iff.mpr hinit)
    refine .thenOk (.ite (fun _ => .pure _) fun _ => ?_) fun _ _ =>
      .bind (.modify _) fun _ _ _ => .pure _
    refine .bind (.require (.inr (by decide))) fun _ t₂ h₂ => ?_
    obtain ⟨-, h₂⟩ := require_ok.mp h₂
    cases h₂
    refine .bind (.require (.inr (by decide))) fun _ t₃ h₃ => ?_
    obtain ⟨-, h₃⟩ := require_ok.mp h₃
    cases h₃
    refine .bind (.gets _) fun mac t₄ hmac => .bind (.modify _) fun _ t₅ hmodify => ?_
    cases hmac
    cases hmodify
    exact .zoom (hostIntfNetdevCreate_avoids hno)
  | destruct name =>
    refine .bind (hnetdev name) fun dev t₁ hread => ?_
    obtain ⟨hdev, rfl⟩ := netdev_ok.mp hread
    refine .bind (.ite (fun hinit => .zoom (hostIntfNetdevRemove_avoids ?_)) fun _ => .pure _)
      fun _ _ _ => .bind (.modify _) fun _ _ _ => .pure _
    exact (hp.lookup_isSome hdev).trans hinit

/-! ## Runs -/

/-- A netdev is initialized exactly when it owns a host interface, and there is no other one. -/
def NetdevSys.Owned (t : NetdevSys) : Prop :=
  ∀ name, (t.netdevs name).any (·.isPortInitialized) = (t.hif.allHostIntf.lookup name).isSome

theorem NetdevCall.run_paired {c : NetdevCall} (hp : ∀ name, Paired (t.pair name))
    (hsafe : c.Safe t) (h : c.run t = .ok (st, t')) (name : String) : Paired (t'.pair name) := by
  by_cases hname : name = c.netdevName
  · subst hname
    exact (run_exact (hp _) h).1 hsafe
  · rw [run_pair hname _ _ _ h]
    exact hp name

/-- **A netdev is marked initialized exactly when it owns a host interface** in a run of safe calls.
No call then fails an assertion about the table, and the next call leaves the netdevs so exactly
when it is safe too. -/
theorem netdevs_owned_of_safe {t₀ : NetdevSys} (hnetdevs : ∀ name, t₀.netdevs name = none)
    (htable : t₀.hif.allHostIntf = ∅)
    (H : Reaches (fun t c => NetdevCall.Safe t c) NetdevCall.run t₀ t) :
    t.Owned ∧
      (∀ c, NetdevCall.run c t ≠ .error (.assertion "hif") ∧
        NetdevCall.run c t ≠ .error (.assertion "!__host_intf_entry_hmap_find")) ∧
      ∀ c st t', NetdevCall.run c t = .ok (st, t') → (t'.Owned ↔ NetdevCall.Safe t c) := by
  have hstart : ∀ name, Paired (t₀.pair name) := fun name => by
    rw [pair, hnetdevs, htable]
    exact ⟨rfl, fun _ h => by cases h⟩
  have hp : ∀ name, Paired (t.pair name) := H.invariant (I := fun t => ∀ name, Paired (t.pair name))
    (fun c _ hsafe _ _ h hp => NetdevCall.run_paired hp hsafe h) hstart
  refine ⟨fun name => (hp name).owned, fun c => ⟨fun h => ?_, fun h => ?_⟩, fun c st t' h => ?_⟩
  · exact NetdevCall.run_avoids (hp _) _ h (.inl rfl)
  · exact NetdevCall.run_avoids (hp _) _ h (.inr rfl)
  · refine ⟨fun howned => (NetdevCall.run_exact (hp _) h).2 (howned _), fun hsafe name => ?_⟩
    exact (NetdevCall.run_paired hp hsafe h name).owned

end

section
attribute [local instance] sampleOvs sampleIdl sampleBuild

/-- No netdev, and the outcomes of the SAI calls to come. -/
def noNetdevs (outcomes : List SaiStatus) : NetdevSys :=
  ⟨fun _ => none, noHostIntfs [], { Hw.reset with outcomes := outcomes }, 0⟩

/-- The host interface of a netdev that has been initialized. -/
theorem netdevs_owned_of_safe_init :
    ∃ (t : NetdevSys) (dev : NetdevSai), t.netdevs "1" = some dev ∧ dev.isPortInitialized = true ∧
      (t.hif.allHostIntf.lookup "1").isSome = true := by
  obtain ⟨t, hrun⟩ := result_eq_some.mp (show result (do
    let _ ← NetdevCall.run (.construct "1" .system)
    let outcome ← gets fun t => t.hw.nextOutcome
    let _ ← NetdevCall.run (.setHwIntfInfo "1" fun _ => none)
    let inits ← gets fun t => (t.netdevs "1").map (·.isPortInitialized)
    pure (outcome, inits)) (noNetdevs []) = some (.success, some true) by decide)
  obtain ⟨st₁, t₁, h₁, hrun⟩ := bind_ok.mp hrun
  rw [gets_bind] at hrun
  obtain ⟨st₂, t₂, h₂, hend⟩ := bind_ok.mp hrun
  rw [gets_bind, pure_apply] at hend
  simp only [Except.ok.injEq, Prod.mk.injEq, Option.map_eq_some_iff] at hend
  obtain ⟨⟨hout, dev, hdev, hinit⟩, -⟩ := hend
  have hsafe : NetdevCall.Safe t₁ (.setHwIntfInfo "1" fun _ => none) := fun _ _ _ _ _ => hout
  have H : Reaches (fun t c => NetdevCall.Safe t c) NetdevCall.run (noNetdevs []) t₂ :=
    .tail (.tail .refl ⟨.construct "1" .system, st₁, trivial, h₁⟩) ⟨_, st₂, hsafe, h₂⟩
  obtain ⟨howned, -⟩ := netdevs_owned_of_safe (fun _ => rfl) rfl H
  have howned := howned "1"
  rw [hdev] at howned
  exact ⟨t₂, dev, hdev, hinit, howned.symm.trans hinit⟩

/-- The port cannot be read after its host interface has been created. The netdev stays
uninitialized, and its destruction leaves the entry behind. -/
theorem setHwIntfInfo_orphan :
    ∃ t t' : NetdevSys, Reaches (fun _ _ => True) NetdevCall.run (noNetdevs [.failure]) t ∧
      (t.netdevs "1").any (·.isPortInitialized) = false ∧
      (t.hif.allHostIntf.lookup "1").isSome = true ∧
      netdevDestruct "1" t = .ok (0, t') ∧ (t'.hif.allHostIntf.lookup "1").isSome = true := by
  obtain ⟨t', hrun⟩ := result_eq_some.mp (show result (do
    let _ ← NetdevCall.run (.construct "1" .system)
    let _ ← NetdevCall.run (.setHwIntfInfo "1" fun _ => none)
    let l ← gets fun t =>
      ((t.netdevs "1").any (·.isPortInitialized), (t.hif.allHostIntf.lookup "1").isSome)
    let st ← netdevDestruct "1"
    let b ← gets fun t => (t.hif.allHostIntf.lookup "1").isSome
    pure (l, st, b)) (noNetdevs [.failure]) = some ((false, true), 0, true) by decide)
  obtain ⟨st₁, t₁, h₁, hrun⟩ := bind_ok.mp hrun
  obtain ⟨st₂, t₂, h₂, hrun⟩ := bind_ok.mp hrun
  rw [gets_bind] at hrun
  obtain ⟨st₃, t₃, h₃, hend⟩ := bind_ok.mp hrun
  rw [gets_bind, pure_apply] at hend
  simp only [Except.ok.injEq, Prod.mk.injEq] at hend
  obtain ⟨⟨⟨hinit, hsome⟩, rfl, hsome'⟩, -⟩ := hend
  have H : Reaches (fun _ _ => True) NetdevCall.run (noNetdevs [.failure]) t₂ :=
    .tail (.tail .refl ⟨_, st₁, trivial, h₁⟩) ⟨_, st₂, trivial, h₂⟩
  exact ⟨t₂, t₃, H, hinit, hsome, h₃, hsome'⟩

/-- A bridge interface is marked initialized without a host interface. Its destruction aborts. -/
theorem netdevDestruct_bridge :
    ∃ t : NetdevSys, Reaches (fun _ _ => True) NetdevCall.run (noNetdevs []) t ∧ ¬t.Owned ∧
      netdevDestruct "bridge_normal" t = .error (.assertion "hif") := by
  let args : Smap := fun key => if key = .bridge then some "true" else none
  obtain ⟨t, hrun⟩ := result_eq_some.mp (show result (do
    let _ ← NetdevCall.run (.construct "bridge_normal" .internal)
    let _ ← NetdevCall.run (.setHwIntfInfoInternal "bridge_normal" args)
    gets fun t => ((t.netdevs "bridge_normal").map (·.isPortInitialized),
      (t.hif.allHostIntf.lookup "bridge_normal").isSome)) (noNetdevs []) = some (some true, false)
    by decide +kernel)
  obtain ⟨st₁, t₁, h₁, hrun⟩ := bind_ok.mp hrun
  obtain ⟨st₂, t₂, h₂, hend⟩ := bind_ok.mp hrun
  simp only [gets_apply, Except.ok.injEq, Prod.mk.injEq, Option.map_eq_some_iff] at hend
  obtain ⟨⟨⟨dev, hdev, hinit⟩, hno⟩, rfl⟩ := hend
  have H : Reaches (fun _ _ => True) NetdevCall.run (noNetdevs []) t₂ :=
    .tail (.tail .refl ⟨_, st₁, trivial, h₁⟩) ⟨_, st₂, trivial, h₂⟩
  refine ⟨t₂, H, fun howned => ?_, netdevDestruct_aborts hdev hinit hno⟩
  have howned := howned "bridge_normal"
  rw [hdev, hno] at howned
  cases hinit.symm.trans howned

end

end SwitchdSai
