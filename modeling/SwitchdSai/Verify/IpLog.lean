import SwitchdSai.Lib.Logged
import SwitchdSai.Verify.Addresses

/-!
# The route calls behind the addresses of a bundle

The functions that program addresses, written down once more with a log of their calls of
`ops_sai_route_ip_to_me_add` and `ops_sai_route_remove` (`Exec.Logged`). Each is the function of the
model when the log is forgotten.
-/

namespace SwitchdSai

open Exec OfprotoSai

/-- A place where a bundle records addresses. -/
structure IpSlot where
  isIpv6 : Bool
  isSecondary : Bool
  deriving DecidableEq, Repr

/-- A call that adds or removes the host route of an address. -/
structure IpCall where
  slot : IpSlot
  add : Bool
  ip : String
  /-- The prefix that is passed. -/
  pfx : String
  status : Int
  deriving DecidableEq, Repr

namespace IpLog

variable [OvsLib] [Build]

def ofprotoIpAdd (slot : IpSlot) (ip : String) (isIpv6 : Bool) : Logged IpCall OfprotoSai Int := do
  let pfx ← ofprotoIpPrefix ip isIpv6
  let vrid ← gets OfprotoSai.vrid
  Logged.event (fun status => ⟨slot, true, ip, pfx, status⟩) (onHw (opsSaiRouteIpToMeAdd vrid pfx))

def ofprotoIpRemove (slot : IpSlot) (ip : String) (isIpv6 : Bool) :
    Logged IpCall OfprotoSai Int := do
  let pfx ← ofprotoIpPrefix ip isIpv6
  let vrid ← gets OfprotoSai.vrid
  Logged.event (fun status => ⟨slot, false, ip, pfx, status⟩) (onHw (opsSaiRouteRemove vrid pfx))

/-- The first part of `ipPrimaryReconfigure`. -/
def ipPrimaryDrop (b : BundlePtr) (isIpv6 : Bool) (old new : Option String) :
    Logged IpCall OfprotoSai Int :=
  match old with
  | some old =>
    if new = some old then pure 0
    else (ofprotoIpRemove ⟨isIpv6, false⟩ old isIpv6).thenOk do
      modifyBundle b (OfbundleSai.setPrimary isIpv6 none)
      return 0
  | none => pure 0

/-- The second part of `ipPrimaryReconfigure`. -/
def ipPrimaryAdd (b : BundlePtr) (isIpv6 : Bool) (new : Option String) :
    Logged IpCall OfprotoSai Int :=
  match new with
  | some ip => (ofprotoIpAdd ⟨isIpv6, false⟩ ip isIpv6).thenOk do
      modifyBundle b (OfbundleSai.setPrimary isIpv6 (some ip))
      return 0
  | none => pure 0

def ipPrimaryReconfigure (b : BundlePtr) (isIpv6 : Bool) (new : Option String) :
    Logged IpCall OfprotoSai Int := do
  let bundle ← ofbundle b
  (ipPrimaryDrop b isIpv6 (bundle.primary isIpv6) new).thenOk (ipPrimaryAdd b isIpv6 new)

def ipSecondaryRemove (b : BundlePtr) (isIpv6 ipv6Prefix : Bool) (ip : String) :
    Logged IpCall OfprotoSai Int :=
  (ofprotoIpRemove ⟨isIpv6, true⟩ ip ipv6Prefix).thenOk do
    modifyBundle b fun bundle => bundle.setSecondary isIpv6 ((bundle.secondary isIpv6).erase ip)
    return 0

def ipSecondaryAdd (b : BundlePtr) (isIpv6 : Bool) (ip : String) : Logged IpCall OfprotoSai Int :=
  (ofprotoIpAdd ⟨isIpv6, true⟩ ip false).thenOk do
    modifyBundle b fun bundle => bundle.setSecondary isIpv6 (ip :: bundle.secondary isIpv6)
    return 0

def ofbundleIpSecondaryReconfigure (b : BundlePtr) (s : OfprotoBundleSettings) (isIpv6 : Bool) :
    Logged IpCall OfprotoSai Int := do
  let bundle ← ofbundle b
  let newIpList := if isIpv6 then s.ip6AddressSecondary else s.ip4AddressSecondary
  let oldIps ← walkTable (bundle.secondary isIpv6)
  let newIps ← walkTable newIpList.dedup
  (Logged.forEach oldIps fun ip =>
    if newIpList.contains ip then pure 0 else ipSecondaryRemove b isIpv6 false ip).thenOk <|
  Logged.forEach newIps fun ip => do
    let bundle ← ofbundle b
    if bundle.ipSecondaryFind ip then pure 0 else ipSecondaryAdd b isIpv6 ip

def ofbundleIpReconfigure (b : BundlePtr) (s : OfprotoBundleSettings) :
    Logged IpCall OfprotoSai Int :=
  (if s.ipChange.primaryIpv4 then ipPrimaryReconfigure b false s.ip4Address else pure 0).thenOk <|
  (if s.ipChange.primaryIpv6 then ipPrimaryReconfigure b true s.ip6Address else pure 0).thenOk <|
  (if s.ipChange.secondaryIpv4 then ofbundleIpSecondaryReconfigure b s false
    else pure 0).thenOk <|
  if s.ipChange.secondaryIpv6 then ofbundleIpSecondaryReconfigure b s true else pure 0

def ipPrimaryRemove (b : BundlePtr) (isIpv6 : Bool) : Logged IpCall OfprotoSai Int := do
  let bundle ← ofbundle b
  match bundle.primary isIpv6 with
  | some ip => ofprotoIpRemove ⟨isIpv6, false⟩ ip isIpv6
  | none => return 0

def ipSecondaryRemoveAll (b : BundlePtr) (isIpv6 : Bool) : Logged IpCall OfprotoSai Int := do
  let bundle ← ofbundle b
  let ips ← walkTable (bundle.secondary isIpv6)
  Logged.forEach ips (ipSecondaryRemove b isIpv6 isIpv6)

def ofbundleIpRemove (b : BundlePtr) : Logged IpCall OfprotoSai Int :=
  (ipPrimaryRemove b false).thenOk <|
  (ipPrimaryRemove b true).thenOk <|
  (ipSecondaryRemoveAll b false).thenOk <|
  ipSecondaryRemoveAll b true

/-! ## Forgetting the log -/

section
variable {b : BundlePtr} {s : OfprotoBundleSettings} {isIpv6 ipv6Prefix : Bool} {ip : String}
  {new : Option String} {slot : IpSlot}

omit [Build] in
@[simp] theorem ofprotoIpAdd_prog :
    (ofprotoIpAdd slot ip isIpv6).prog = SwitchdSai.ofprotoIpAdd ip isIpv6 := by
  simp [ofprotoIpAdd, SwitchdSai.ofprotoIpAdd]

@[simp] theorem ofprotoIpRemove_prog :
    (ofprotoIpRemove slot ip isIpv6).prog = SwitchdSai.ofprotoIpRemove ip isIpv6 := by
  simp [ofprotoIpRemove, SwitchdSai.ofprotoIpRemove]

@[simp] theorem ipPrimaryReconfigure_prog : (ipPrimaryReconfigure b isIpv6 new).prog =
    SwitchdSai.ipPrimaryReconfigure b isIpv6 new := by
  simp only [ipPrimaryReconfigure, SwitchdSai.ipPrimaryReconfigure, Logged.prog_bind,
    Logged.prog_lift, Logged.prog_thenOk]
  refine bind_congr fun bundle => ?_
  cases bundle.primary isIpv6 <;> cases new <;> simp [ipPrimaryDrop, ipPrimaryAdd]

@[simp] theorem ipSecondaryRemove_prog : (ipSecondaryRemove b isIpv6 ipv6Prefix ip).prog =
    SwitchdSai.ipSecondaryRemove b isIpv6 ipv6Prefix ip := by
  simp [ipSecondaryRemove, SwitchdSai.ipSecondaryRemove]

omit [Build] in
@[simp] theorem ipSecondaryAdd_prog :
    (ipSecondaryAdd b isIpv6 ip).prog = SwitchdSai.ipSecondaryAdd b isIpv6 ip := by
  simp [ipSecondaryAdd, SwitchdSai.ipSecondaryAdd]

@[simp] theorem ofbundleIpSecondaryReconfigure_prog :
    (ofbundleIpSecondaryReconfigure b s isIpv6).prog =
      SwitchdSai.ofbundleIpSecondaryReconfigure b s isIpv6 := by
  simp [ofbundleIpSecondaryReconfigure, SwitchdSai.ofbundleIpSecondaryReconfigure]

@[simp] theorem ofbundleIpReconfigure_prog :
    (ofbundleIpReconfigure b s).prog = SwitchdSai.ofbundleIpReconfigure b s := by
  simp [ofbundleIpReconfigure, SwitchdSai.ofbundleIpReconfigure]

@[simp] theorem ipPrimaryRemove_prog :
    (ipPrimaryRemove b isIpv6).prog = SwitchdSai.ipPrimaryRemove b isIpv6 := by
  simp only [ipPrimaryRemove, SwitchdSai.ipPrimaryRemove, Logged.prog_bind, Logged.prog_lift]
  refine bind_congr fun bundle => ?_
  cases bundle.primary isIpv6 <;> simp

@[simp] theorem ipSecondaryRemoveAll_prog :
    (ipSecondaryRemoveAll b isIpv6).prog = SwitchdSai.ipSecondaryRemoveAll b isIpv6 := by
  simp [ipSecondaryRemoveAll, SwitchdSai.ipSecondaryRemoveAll]

@[simp] theorem ofbundleIpRemove_prog :
    (ofbundleIpRemove b).prog = SwitchdSai.ofbundleIpRemove b := by
  simp [ofbundleIpRemove, SwitchdSai.ofbundleIpRemove]

/-! ## One call -/

variable {o o' : OfprotoSai} {st : Int}

omit [Build] in
theorem ofprotoIpAdd_log (h : SwitchdSai.ofprotoIpAdd ip isIpv6 o = .ok (st, o')) :
    (ofprotoIpAdd slot ip isIpv6).log o = [⟨slot, true, ip, ipHostPrefix ip isIpv6, st⟩] := by
  obtain ⟨pfx, o₁, hpfx, hcall⟩ := bind_ok.mp h
  obtain ⟨rfl, rfl⟩ := ofprotoIpPrefix_ok hpfx
  rw [gets_bind] at hcall
  rw [ofprotoIpAdd, Logged.log_bind (t := liftM (ofprotoIpPrefix ip isIpv6)) hpfx]
  exact Logged.log_event hcall

theorem ofprotoIpRemove_log (h : SwitchdSai.ofprotoIpRemove ip isIpv6 o = .ok (st, o')) :
    (ofprotoIpRemove slot ip isIpv6).log o = [⟨slot, false, ip, ipHostPrefix ip isIpv6, st⟩] := by
  obtain ⟨pfx, o₁, hpfx, hcall⟩ := bind_ok.mp h
  obtain ⟨rfl, rfl⟩ := ofprotoIpPrefix_ok hpfx
  rw [gets_bind] at hcall
  rw [ofprotoIpRemove, Logged.log_bind (t := liftM (ofprotoIpPrefix ip isIpv6)) hpfx]
  exact Logged.log_event hcall

end

end IpLog

end SwitchdSai
