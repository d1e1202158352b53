import SwitchdSai.Verify.Addresses
import SwitchdSai.Verify.RifsFound

/-!
# What the functions on a bundle rely on

The functions of the provider assert that pointers are set, that netdevs are initialized and that
tables have what is looked up in them, and follow pointers that may dangle. `Robust` states what
they rely on. In such a state the functions that program the VLANs, the router interface and the
addresses of a bundle stop at most where the SDK does not translate a port.
-/

namespace SwitchdSai

open Exec OfprotoSai

variable {o o' : OfprotoSai} {b : BundlePtr} {p : OfpPort} {bundle : OfbundleSai}
  {s : OfprotoBundleSettings} {isIpv6 ipv6Prefix : Bool} {ip : String} {r : IpRecord} {st : Int}

/-! ## What the functions rely on -/

/-- The host prefixes of the address can be made in the buffer for them. -/
structure IpTextOk (ip : String) : Prop where
  fits : ip.utf8ByteSize < PREFIX_SIZE
  slash : ip.toList.contains '/' = true
  pfxFits : ∀ isIpv6, (ipHostPrefix ip isIpv6).utf8ByteSize < PREFIX_SIZE

def IpRecord.TextsOk (r : IpRecord) : Prop :=
  ∀ isIpv6 ip, r.primary isIpv6 = some ip ∨ ip ∈ r.secondary isIpv6 → IpTextOk ip

def OfprotoBundleSettings.TextsOk (s : OfprotoBundleSettings) : Prop :=
  ∀ isIpv6 ip, s.primary isIpv6 = some ip ∨ ip ∈ s.secondary isIpv6 → IpTextOk ip

namespace OfprotoSai

def TextsOk (o : OfprotoSai) : Prop := ∀ b r, o.ipRecord b = some r → r.TextsOk

/-- The netdevs are initialized. -/
def Initialized (o : OfprotoSai) : Prop :=
  ∀ p netdev, o.netdevs p = some netdev → netdev.isPortInitialized = true

/-- The bundle `b` exists. -/
def Live (b : BundlePtr) (o : OfprotoSai) : Prop := (o.links.members b).isSome = true

/-- The pointers of ports and bundles and the handles of router interfaces can be followed. -/
structure Wired (o : OfprotoSai) : Prop where
  links : o.links.WF
  rifs : RifsFound o
  inited : o.Initialized

structure Robust (o : OfprotoSai) : Prop extends o.Wired where
  natives : o.NativesInRange
  texts : o.TextsOk

end OfprotoSai

theorem live_iff : o.Live b ↔ ∃ bundle, o.bundles.lookup b = some bundle := by
  unfold OfprotoSai.Live OfprotoSai.links bundlesBy
  rw [Option.isSome_map, Option.isSome_iff_exists]

theorem live_of_links (h : o'.links = o.links) : o'.Live b ↔ o.Live b := by
  unfold OfprotoSai.Live
  rw [h]

theorem OfprotoSai.Initialized.of_netdevs (h : o'.netdevs = o.netdevs) (hi : o.Initialized) :
    o'.Initialized := fun p netdev hp => hi p netdev (h ▸ hp)

theorem TextsOk.of_shrink (h : BundlesShrink (·.ipRecord) o o') (ht : o.TextsOk) : o'.TextsOk :=
  fun b r hr => ht b r (h b r hr)

namespace OfprotoSai.Robust

theorem of_shrink (hr : o.Robust) (hw : o'.Wired) (hn : BundlesShrink (·.vlanSettings) o o')
    (ht : BundlesShrink (·.ipRecord) o o') : o'.Robust :=
  ⟨hw, NativesInRange.of_shrink hn hr.natives, TextsOk.of_shrink ht hr.texts⟩

theorem sameButEntries (hr : o.Robust) (h : SameButEntries o o') : o'.Robust :=
  hr.of_shrink ⟨h.links ▸ hr.links, h.rifsSame.found hr.rifs,
    hr.inited.of_netdevs h.evolves.netdevs⟩
    (bundlesShrink_of_eq (bundlesBy_of (k := (·.vlanSettings)) h.bundles fun _ => rfl))
    (bundlesShrink_of_eq (bundlesBy_of (k := (·.ipRecord)) h.bundles fun _ => rfl))

end OfprotoSai.Robust

/-! ## Access to ports and bundles -/

section
variable {E : Halt → Prop} {α : Type}

/-- What follows a read of a bundle that exists. -/
theorem ofbundle_bind_avoids {k : OfbundleSai → Exec OfprotoSai α} (h : o.Live b)
    (hk : ∀ bundle, o.bundles.lookup b = some bundle → Avoids E (k bundle) o) :
    Avoids E (ofbundle b >>= k) o := by
  obtain ⟨bundle, hb⟩ := live_iff.1 h
  unfold Avoids
  rw [bind_of_ok (ofbundle_apply hb)]
  exact hk bundle hb

theorem modifyBundle_avoids {f : OfbundleSai → OfbundleSai} (h : o.Live b) :
    Avoids E (modifyBundle b f) o := ofbundle_bind_avoids h fun _ _ => Avoids.modify _

/-- Record a change and return zero. -/
theorem modifyBundle_zero_avoids {f : OfbundleSai → OfbundleSai} (h : o.Live b) :
    Avoids E (do modifyBundle b f; return 0 : Exec OfprotoSai Int) o :=
  (modifyBundle_avoids h).bind fun _ _ _ => Avoids.pure _

variable {changed add : Bool} {trunks : VlanBitmap} {hwId : Nat} {vlan : Int}

variable {rifType : RouterIntfType} {handle : Nat} {enable : Bool}

variable [OvsLib] [Build]

end

/-! ## IP addresses -/

section
variable {v : Bool}

theorem IpRecord.setPrimary_primary {new : Option String} {w : Bool} :
    (r.setPrimary v new).primary w = if w = v then new else r.primary w :=
  Function.update_apply ..

theorem IpRecord.TextsOk.setPrimary {new : Option String} (hr : r.TextsOk)
    (hnew : ∀ ip, new = some ip → IpTextOk ip) : (r.setPrimary v new).TextsOk := by
  rintro w ip (h | h)
  · rw [IpRecord.setPrimary_primary] at h
    split at h
    next => exact hnew ip h
    next => exact hr w ip (.inl h)
  · exact hr w ip (.inr h)

theorem IpRecord.TextsOk.setSecondary {ips : List String} (hr : r.TextsOk)
    (hips : ∀ ip ∈ ips, IpTextOk ip) : (r.setSecondary v ips).TextsOk := by
  rintro w ip (h | h)
  · exact hr w ip (.inl h)
  · by_cases hw : w = v
    · subst hw
      rw [setSecondary_secondary] at h
      exact hips ip h
    · rw [setSecondary_of_ne hw] at h
      exact hr w ip (.inr h)

end

section
variable {E : Halt → Prop}

variable [OvsLib] [Build]

end

end SwitchdSai
