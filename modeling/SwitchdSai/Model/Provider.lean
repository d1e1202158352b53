import SwitchdSai.Model.L3
import SwitchdSai.Model.Registry

/-!
# The ofprotos of the provider

The life of an ofproto (`sai-ofproto-provider.c`) and the virtual routers of the SDK
(`sai-vendor-router.c`); the table `all_ofproto_sai` is that of `Datapaths`. All ofprotos work on
one hardware. An ofproto is identified by its allocation, and following a pointer to one that has
been freed has no defined meaning. The ofproto library allocates an ofproto, constructs it, and
deallocates it without destructing it when the construction has failed.
-/

namespace SwitchdSai

open Exec

/-- `struct ofproto_sai`, with the fields of `up` that the provider reads. -/
structure OfprotoRecord where
  name : String
  type : OfprotoType
  vrid : Nat
  ofports : OfpPort → Option OfportSai
  bundles : AList fun _ : BundlePtr => OfbundleSai

structure Provider where
  /-- The ofprotos in memory. -/
  ofprotos : AList fun _ : OfprotoPtr => OfprotoRecord
  /-- The virtual routers of the SDK. -/
  routers : List Nat
  hw : Hw

/-- A provider without ofprotos. -/
def Provider.new (hw : Hw) : Provider := ⟨∅, [], hw⟩

/-- An ofproto at work on the hardware. -/
def OfprotoRecord.on (record : OfprotoRecord) (hw : Hw) : OfprotoSai :=
  ⟨record.type, record.vrid, record.ofports, record.bundles, hw⟩

/-- The record of an ofproto that has worked. -/
def OfprotoRecord.after (record : OfprotoRecord) (o : OfprotoSai) : OfprotoRecord :=
  ⟨record.name, o.type, o.vrid, o.ofports, o.bundles⟩

namespace Provider

def onHw {α : Type} (m : Exec Hw α) : Exec Provider α := zoom hw (fun t s => { s with hw := t }) m

/-- The ofproto a pointer refers to. -/
def ofproto (p : OfprotoPtr) : Exec Provider OfprotoRecord := do
  let record ← gets fun s => s.ofprotos.lookup p
  need (.undefined "ofproto") record

def setOfproto (p : OfprotoPtr) (record : OfprotoRecord) (s : Provider) : Provider :=
  { s with ofprotos := s.ofprotos.insert p record }

/-- A function of the provider on the ofproto at `p`. -/
def onOfproto {α : Type} (p : OfprotoPtr) (m : Exec OfprotoSai α) : Exec Provider α := do
  let record ← ofproto p
  zoom (fun s => record.on s.hw)
    (fun o s => { s.setOfproto p (record.after o) with hw := o.hw }) m

end Provider

open Provider

/-! ## Virtual routers -/

/-- SDK `sx_api_router_set`, adding a router under an id that is not in use. -/
def sxRouterAdd : Exec Provider (SaiStatus × Nat) := do
  let n ← onHw Hw.choose
  let vrid ← gets fun s => fresh n s.routers
  let status ← onHw sxCall
  if status = .success then
    modify fun s => { s with routers := vrid :: s.routers }
    return (status, vrid)
  else return (status, vrid)

/-- SDK `sx_api_router_set`, deleting a router with its routes. A router that has interfaces is in
use. -/
def sxRouterDelete (vrid : Nat) : Exec Provider SaiStatus := do
  let known ← gets fun s => decide (vrid ∈ s.routers)
  let status ← onHw <| Hw.callIf
    (fun hw => known && hw.routerIntfs.entries.all fun e => decide (e.2.vrid ≠ vrid))
    fun hw => { hw with routes := Function.update hw.routes vrid fun _ => none }
  if status = .success then
    modify fun s => { s with routers := s.routers.erase vrid }
    return status
  else return status

/-- `__router_create`, with the contents of `*handle` after the call. -/
def opsSaiRouterCreate (handle : Nat) : Exec Provider (Int × Nat) := do
  let (status, vrid) ← sxRouterAdd
  if status ≠ .success then return (sxError2Errno status, handle)
  return (0, vrid)

def opsSaiRouterRemove (handle : Nat) : Exec Provider Int := do
  let status ← sxRouterDelete handle
  return sxError2Errno status

/-! ## The life of an ofproto -/

/-- `__alloc`, with what the ofproto library then fills in. -/
def ofprotoAlloc (name : String) (type : OfprotoType) (ofports : OfpPort → Option OfportSai) :
    Exec Provider OfprotoPtr := do
  let n ← onHw Hw.choose
  let p ← gets fun s => fresh n s.ofprotos.keys
  modify (setOfproto p ⟨name, type, 0, ofports, ∅⟩)
  return p

/-- `__construct`. -/
def ofprotoConstruct (p : OfprotoPtr) : Exec Provider Int := do
  let record ← ofproto p
  if record.type = .vrf then
    let (error, vrid) ← opsSaiRouterCreate record.vrid
    modify (setOfproto p { record with vrid := vrid })
    return error
  else return 0

/-- `__destruct`. The status of the removal is dropped. -/
def ofprotoDestruct (p : OfprotoPtr) : Exec Provider Unit := do
  let record ← ofproto p
  if record.type = .vrf then
    let _ ← opsSaiRouterRemove record.vrid
    return ()
  else return ()

/-- `__sai_dealloc`. -/
def ofprotoDealloc (p : OfprotoPtr) : Exec Provider Unit :=
  modify fun s => { s with ofprotos := s.ofprotos.erase p }

/-- The calls of the ofproto library that create an ofproto. -/
def ofprotoCreate (name : String) (type : OfprotoType) (ofports : OfpPort → Option OfportSai) :
    Exec Provider Int := do
  let p ← ofprotoAlloc name type ofports
  let error ← ofprotoConstruct p
  if error ≠ 0 then
    ofprotoDealloc p
    return error
  else return 0

/-- The calls of the ofproto library that destroy an ofproto. -/
def ofprotoDestroy (p : OfprotoPtr) : Exec Provider Unit := do
  ofprotoDestruct p
  ofprotoDealloc p

end SwitchdSai
