import SwitchdSai.Lib.Run
import SwitchdSai.Verify.Ofproto

/-!
# Access to the netdevs

What the accessors of `NetdevSys` do, as inversion lemmas.
-/

namespace SwitchdSai

open Exec

namespace NetdevSys

variable {α : Type} {s s' : NetdevSys} {name : String}

theorem onHif_ok {m : Exec HostIntfs α} {a : α} :
    onHif m s = .ok (a, s') ↔ ∃ hif, m s.hif = .ok (a, hif) ∧ s' = { s with hif := hif } :=
  zoom_ok

theorem onHw_ok {m : Exec Hw α} {a : α} :
    onHw m s = .ok (a, s') ↔ ∃ hw, m s.hw = .ok (a, hw) ∧ s' = { s with hw := hw } :=
  zoom_ok

theorem netdev_ok {dev : NetdevSai} :
    netdev name s = .ok (dev, s') ↔ s.netdevs name = some dev ∧ s' = s := by
  rw [netdev, gets_bind, need_ok]
  simp only [Prod.mk.injEq]
  constructor
  · rintro ⟨_, hdev, rfl, rfl⟩
    exact ⟨hdev, rfl⟩
  · rintro ⟨hdev, rfl⟩
    exact ⟨dev, hdev, rfl, rfl⟩

theorem netdev_bind {k : NetdevSai → Exec NetdevSys α} {r : α × NetdevSys} :
    (netdev name >>= k) s = .ok r ↔ ∃ dev, s.netdevs name = some dev ∧ k dev s = .ok r := by
  rw [bind_ok]
  constructor
  · rintro ⟨dev, s₁, hread, h⟩
    obtain ⟨hdev, rfl⟩ := netdev_ok.1 hread
    exact ⟨dev, hdev, h⟩
  · rintro ⟨dev, hdev, h⟩
    exact ⟨dev, s, netdev_ok.2 ⟨hdev, rfl⟩, h⟩

/-- Change a netdev that exists. -/
def mapNetdev (name : String) (f : NetdevSai → NetdevSai) (s : NetdevSys) : NetdevSys :=
  { s with netdevs := Function.update s.netdevs name ((s.netdevs name).map f) }

theorem modifyNetdev_bind {f : NetdevSai → NetdevSai} {k : Unit → Exec NetdevSys α} :
    (modifyNetdev name f >>= k) s = k () (s.mapNetdev name f) := rfl

theorem mapNetdev_some {f : NetdevSai → NetdevSai} {dev : NetdevSai}
    (h : s.netdevs name = some dev) : (s.mapNetdev name f).netdevs name = some (f dev) :=
  (Function.update_self ..).trans (congrArg (Option.map f) h)

end NetdevSys

end SwitchdSai
