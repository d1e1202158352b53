import SwitchdSai.Lib.Cursor
import SwitchdSai.Model.Ofproto

/-!
# The port dump

The iteration over the ports of an ofproto (`__port_dump_start`, `__port_dump_next` and
`__port_query_by_name`). It is a coroutine: the state of the iteration survives from one call to the
next. A call is given a number of turns, and has no result when they do not suffice.
-/

namespace SwitchdSai

def ENODEV : Int := 19

/-- `EOF` of the C library. -/
def EOF : Int := -1

/-- `OFPP_NONE`: not associated with a physical port. -/
def OFPP_NONE : OfpPort := 0xffff

/-- The sets of strings of the OVS library. -/
class SsetLib (Sset : Type) where
  mem : Sset → String → Prop
  /-- `sset_at_position`, with `bucket` and `offset` before and after. -/
  atPosition : Sset → Nat × Nat → Option String × (Nat × Nat)

instance {Sset : Type} [SsetLib Sset] : Membership String Sset := ⟨SsetLib.mem⟩

/-- `struct ofproto_port`. -/
structure OfprotoPort where
  name : String
  type : String
  ofpPort : OfpPort
  deriving DecidableEq, Repr

/-- What the dump reads of the ofproto, and the registry of netdevs. -/
structure PortTables (Sset : Type) where
  ports : Sset
  ghostPorts : Sset
  /-- `up.port_by_name`, with the number of each port. -/
  portByName : String → Option OfpPort
  /-- `netdev_get_type_from_name`. -/
  netdevGetTypeFromName : String → Option String

/-- `struct port_dump_state`. -/
structure PortDumpState where
  bucket : Nat
  offset : Nat
  ghost : Bool
  /-- `port`, when `has_port` is set. -/
  port : Option OfprotoPort
  deriving DecidableEq, Repr

variable {Sset : Type} [SsetLib Sset]

omit [SsetLib Sset] in
/-- `__port_query_by_name`. -/
def portQueryByName (o : PortTables Sset) (devname : String) : Except Int OfprotoPort :=
  match o.netdevGetTypeFromName devname with
  | some type => .ok ⟨devname, type, (o.portByName devname).getD OFPP_NONE⟩
  | none => .error ENODEV

/-- `__port_dump_start`. -/
def portDumpStart : PortDumpState := ⟨0, 0, false, none⟩

omit [SsetLib Sset] in
/-- What one turn of the loop of `__port_dump_next` returns, if it returns. -/
def portDumpTurn (o : PortTables Sset) (name : String) : Option (Except Int OfprotoPort) :=
  match portQueryByName o name with
  | .ok port => some (.ok port)
  | .error error => if error ≠ ENODEV then some (.error error) else none

/-- `__port_dump_next`. -/
def portDumpNext (o : PortTables Sset) :
    Nat → PortDumpState → Option (Except Int OfprotoPort × PortDumpState)
  | 0, _ => none
  | n + 1, state =>
    -- the port that was returned last is destroyed
    let state := { state with port := none }
    match Cursor.find (SsetLib.atPosition o.ports) (portDumpTurn o) n
      (state.bucket, state.offset) with
    | none => none
    | some (some (.ok port), bucket, offset) =>
      some (.ok port, { state with bucket, offset, port := some port })
    | some (some (.error error), bucket, offset) =>
      some (.error error, { state with bucket, offset })
    | some (none, bucket, offset) =>
      if state.ghost then some (.error EOF, { state with bucket, offset })
      else portDumpNext o n { state with ghost := true, bucket := 0, offset := 0 }

/-- `__port_dump_next` until it returns no port: the ports, and what it returns at last. -/
def portDumpAll (o : PortTables Sset) : Nat → PortDumpState → Option (List OfprotoPort × Int)
  | 0, _ => none
  | n + 1, state =>
    match portDumpNext o n state with
    | none => none
    | some (.ok port, state) => (portDumpAll o n state).map fun r => (port :: r.1, r.2)
    | some (.error error, _) => some ([], error)

/-- A full port dump. -/
def portDump (o : PortTables Sset) (n : Nat) : Option (List OfprotoPort × Int) :=
  portDumpAll o n portDumpStart

end SwitchdSai
