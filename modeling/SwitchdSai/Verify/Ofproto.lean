import SwitchdSai.Model.BundleConfig

/-!
# Access to the state of an ofproto

What the accessors of `OfprotoSai` do, as inversion lemmas and as rules for `Rel`. A program over
the hardware leaves the tables of the ofproto as they were (`onHw_tables`).
-/

namespace SwitchdSai

open Exec

namespace OfprotoSai

variable {α β : Type} {o o' : OfprotoSai}

/-- Everything but the hardware. -/
def tables (o : OfprotoSai) :
    OfprotoType × Nat × (OfpPort → Option OfportSai) × AList fun _ : BundlePtr => OfbundleSai :=
  (o.type, o.vrid, o.ofports, o.bundles)

theorem onHw_ok {m : Exec Hw α} {a : α} :
    onHw m o = .ok (a, o') ↔ ∃ hw, m o.hw = .ok (a, hw) ∧ o' = { o with hw := hw } :=
  zoom_ok

theorem onHw_tables (m : Exec Hw α) : Frame tables (onHw m) := Rel.zoom fun _ _ _ _ => rfl

/-- A program over the hardware relates the states as it relates the hardware. -/
theorem onHw_rel {R : OfprotoSai → OfprotoSai → Prop} {m : Exec Hw α}
    (h : ∀ o a hw, m o.hw = .ok (a, hw) → R o { o with hw := hw }) : Rel R (onHw m) := Rel.zoom h

theorem ofport_bind {p : OfpPort} {k : OfportSai → Exec OfprotoSai β} {r : β × OfprotoSai} :
    (ofport p >>= k) o = .ok r ↔ ∃ port, o.ofports p = some port ∧ k port o = .ok r := by
  rw [ofport, bind_ok]
  simp only [gets_bind, need_ok]
  constructor
  · rintro ⟨port, o₁, ⟨_, hp, h₁⟩, h⟩
    cases h₁
    exact ⟨port, hp, h⟩
  · rintro ⟨port, hp, h⟩
    exact ⟨port, o, ⟨port, hp, rfl⟩, h⟩

theorem ofbundle_bind {b : BundlePtr} {k : OfbundleSai → Exec OfprotoSai β}
    {r : β × OfprotoSai} :
    (ofbundle b >>= k) o = .ok r ↔
      ∃ bundle, o.bundles.lookup b = some bundle ∧ k bundle o = .ok r := by
  rw [ofbundle, bind_ok]
  simp only [gets_bind, need_ok]
  constructor
  · rintro ⟨bundle, o₁, ⟨_, hb, h₁⟩, h⟩
    cases h₁
    exact ⟨bundle, hb, h⟩
  · rintro ⟨bundle, hb, h⟩
    exact ⟨bundle, o, ⟨bundle, hb, rfl⟩, h⟩

theorem ofport_ends {p : OfpPort} {port : OfportSai} {k : OfportSai → Exec OfprotoSai β}
    {R : β → OfprotoSai → Prop} (hp : o.ofports p = some port) (h : Ends (k port) o R) :
    Ends (ofport p >>= k) o R := by
  obtain ⟨c, o', hk, hR⟩ := h
  exact ⟨c, o', ofport_bind.2 ⟨port, hp, hk⟩, hR⟩

theorem ofbundle_ends {b : BundlePtr} {bundle : OfbundleSai} {k : OfbundleSai → Exec OfprotoSai β}
    {R : β → OfprotoSai → Prop} (hb : o.bundles.lookup b = some bundle)
    (h : Ends (k bundle) o R) : Ends (ofbundle b >>= k) o R := by
  obtain ⟨c, o', hk, hR⟩ := h
  exact ⟨c, o', ofbundle_bind.2 ⟨bundle, hb, hk⟩, hR⟩

theorem ofport_apply {p : OfpPort} {port : OfportSai} (hp : o.ofports p = some port) :
    ofport p o = .ok (port, o) := by
  rw [ofport, gets_bind, hp]
  rfl

theorem ofbundle_apply {b : BundlePtr} {bundle : OfbundleSai}
    (hb : o.bundles.lookup b = some bundle) : ofbundle b o = .ok (bundle, o) := by
  rw [ofbundle, gets_bind, hb]
  rfl

theorem modifyPort_ok {p : OfpPort} {f : OfportSai → OfportSai} {u : Unit} :
    modifyPort p f o = .ok (u, o') ↔ ∃ port, o.ofports p = some port ∧
      o' = o.setPort p (f port) := by
  rw [modifyPort, ofport_bind]
  simp [modify_apply, eq_comm]

theorem modifyBundle_ok {b : BundlePtr} {f : OfbundleSai → OfbundleSai} {u : Unit} :
    modifyBundle b f o = .ok (u, o') ↔ ∃ bundle, o.bundles.lookup b = some bundle ∧
      o' = o.setBundle b (f bundle) := by
  rw [modifyBundle, ofbundle_bind]
  simp [modify_apply, eq_comm]

theorem modifyPort_bind {p : OfpPort} {f : OfportSai → OfportSai} {k : Unit → Exec OfprotoSai β}
    {r : β × OfprotoSai} :
    (modifyPort p f >>= k) o = .ok r ↔ ∃ port, o.ofports p = some port ∧
      k () (o.setPort p (f port)) = .ok r := by
  rw [bind_ok]
  constructor
  · rintro ⟨_, o₁, h₁, h⟩
    obtain ⟨port, hp, rfl⟩ := modifyPort_ok.1 h₁
    exact ⟨port, hp, by assumption⟩
  · rintro ⟨port, hp, h⟩
    exact ⟨(), _, modifyPort_ok.2 ⟨port, hp, rfl⟩, h⟩

theorem modifyBundle_bind {b : BundlePtr} {f : OfbundleSai → OfbundleSai}
    {k : Unit → Exec OfprotoSai β} {r : β × OfprotoSai} :
    (modifyBundle b f >>= k) o = .ok r ↔ ∃ bundle, o.bundles.lookup b = some bundle ∧
      k () (o.setBundle b (f bundle)) = .ok r := by
  rw [bind_ok]
  constructor
  · rintro ⟨_, o₁, h₁, h⟩
    obtain ⟨bundle, hb, rfl⟩ := modifyBundle_ok.1 h₁
    exact ⟨bundle, hb, by assumption⟩
  · rintro ⟨bundle, hb, h⟩
    exact ⟨(), _, modifyBundle_ok.2 ⟨bundle, hb, rfl⟩, h⟩

/-- A walk visits the elements in some order. -/
theorem walkTable_ok {table l : List α} (h : walkTable table o = .ok (l, o')) :
    l.Perm table ∧ ∃ cs, o' = { o with hw := { o.hw with choices := cs } } := by
  obtain ⟨seed, o₁, h₁, hend⟩ := bind_ok.mp h
  obtain ⟨hw, hchoose, rfl⟩ := onHw_ok.1 h₁
  cases hchoose
  cases hend
  exact ⟨walk_perm _ _, _, rfl⟩

section
variable {R : OfprotoSai → OfprotoSai → Prop}

theorem modifyPort_rel {p : OfpPort} {f : OfportSai → OfportSai}
    (h : ∀ o port, o.ofports p = some port → R o (o.setPort p (f port))) :
    Rel R (modifyPort p f) := by
  intro o u o' hm
  obtain ⟨port, hp, rfl⟩ := modifyPort_ok.1 hm
  exact h o port hp

theorem modifyBundle_rel {b : BundlePtr} {f : OfbundleSai → OfbundleSai}
    (h : ∀ o bundle, o.bundles.lookup b = some bundle → R o (o.setBundle b (f bundle))) :
    Rel R (modifyBundle b f) := by
  intro o u o' hm
  obtain ⟨bundle, hb, rfl⟩ := modifyBundle_ok.1 hm
  exact h o bundle hb

variable [IsPreorder OfprotoSai R]

theorem ofport_rel (p : OfpPort) : Rel R (ofport p) :=
  (Rel.gets _).bind fun _ => Rel.need _ _

theorem ofbundle_rel (b : BundlePtr) : Rel R (ofbundle b) :=
  (Rel.gets _).bind fun _ => Rel.need _ _

end

/-! ## Ports and bundles after a change -/

theorem setPort_ofports (p q : OfpPort) (port : OfportSai) (o : OfprotoSai) :
    (o.setPort p port).ofports q = if q = p then some port else o.ofports q :=
  Function.update_apply ..

theorem setBundle_lookup (b b' : BundlePtr) (bundle : OfbundleSai) (o : OfprotoSai) :
    (o.setBundle b bundle).bundles.lookup b' =
      if b' = b then some bundle else o.bundles.lookup b' := by
  split
  next h => subst h; exact AList.lookup_insert _
  next h => exact AList.lookup_insert_ne h

@[simp] theorem setPort_bundles (p : OfpPort) (port : OfportSai) (o : OfprotoSai) :
    (o.setPort p port).bundles = o.bundles := rfl

@[simp] theorem setPort_hw (p : OfpPort) (port : OfportSai) (o : OfprotoSai) :
    (o.setPort p port).hw = o.hw := rfl

@[simp] theorem setBundle_ofports (b : BundlePtr) (bundle : OfbundleSai) (o : OfprotoSai) :
    (o.setBundle b bundle).ofports = o.ofports := rfl

@[simp] theorem setBundle_hw (b : BundlePtr) (bundle : OfbundleSai) (o : OfprotoSai) :
    (o.setBundle b bundle).hw = o.hw := rfl

theorem lookup_erase (bs : AList fun _ : BundlePtr => OfbundleSai) (b b' : BundlePtr) :
    (bs.erase b).lookup b' = if b' = b then none else bs.lookup b' := by
  split
  next h => subst h; exact AList.lookup_erase _ _
  next h => exact AList.lookup_erase_ne h

end OfprotoSai

/-! ## An environment and settings for examples -/

/-- The library functions on a few texts. -/
@[reducible] def sampleOvs : OvsLib where
  addrIsIpv6 s := s.toList.contains ':'
  ipParseMasked s :=
    if s = "10.0.0.1/32" then some (0x0100000a, 0xffffffff)
    else if s = "10.0.0.2/32" then some (0x0200000a, 0xffffffff)
    else if s = "10.1.0.0/16" then some (0x0000010a, 0x0000ffff)
    else none
  ipv6ParseMasked _ := none
  inetPton4 s :=
    if s = "10.0.0.1" then some 0x0100000a
    else if s = "10.0.0.2" then some 0x0200000a
    else none
  inetPton6 _ := none
  ethAddrFromString s :=
    if s = "00:00:00:00:00:01" then some 1
    else if s = "00:00:00:00:00:02" then some 2
    else none
  atoi s := if s = "1500" then 1500 else if s = "9000" then 9000 else 0
  strcaseEq s t := s.toLower = t.toLower
  strtol s := if s = "10" then 10 else 0

@[reducible] def sampleBuild : Build := ⟨true, 64⟩

@[reducible] def sampleIdl : OpenswitchIdl where
  DEFAULT_BRIDGE_NAME := "bridge_normal"
  DFLT_INTERFACE_HW_INTF_INFO_MAP_BRIDGE := false
  INTERFACE_USER_CONFIG_MAP_AUTONEG_ON := "on"
  INTERFACE_HW_INTF_CONFIG_MAP_DUPLEX_FULL := "full"
  INTERFACE_HW_INTF_CONFIG_MAP_PAUSE_TX := "tx"
  INTERFACE_HW_INTF_CONFIG_MAP_PAUSE_RX := "rx"
  INTERFACE_HW_INTF_CONFIG_MAP_PAUSE_RXTX := "rxtx"
  INTERFACE_HW_INTF_CONFIG_MAP_ENABLE_TRUE := "true"

/-- Settings for access mode on VLAN `vlan`. -/
def accessSettings (vlan : Int) : OfprotoBundleSettings :=
  ⟨"1", [1], none, .access, vlan, none, true, ⟨false, false, false, false⟩, none, none, [], []⟩

/-- An initialized netdev with the label `hwId`. -/
def samplePort (type : NetdevType) (hwId : Nat) : OfportSai :=
  ⟨{ NetdevSai.alloc (toString hwId) type with hwId := hwId, isPortInitialized := true }, none⟩

/-- The system ports 1 and 2. -/
def samplePorts (p : OfpPort) : Option OfportSai :=
  if p = 1 ∨ p = 2 then some (samplePort .system p) else none

end SwitchdSai
