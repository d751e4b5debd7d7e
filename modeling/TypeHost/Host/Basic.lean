import TypeHost.Heap.Lemmas
import TypeHost.Host.Object
import TypeHost.Param

/-!
The reference host: a heap of types, tuples and instances, and a table of type names. This module
holds its state and what can be asked of it without following bases.
-/
namespace TypeHost

/-- How the host reclaims objects. A tracing host takes the collection flag as advice. -/
inductive GcMode where
  | refCounting | tracing
deriving DecidableEq

def GcMode.name : GcMode → String
  | .refCounting => "RefCounting"
  | .tracing => "Tracing"

structure Host where
  gcMode : GcMode
  heap : Heap HostObject := {}
  /-- Full names of the types, each with its handle. -/
  names : Std.ExtTreeMap String Handle := ∅

structure Location where
  object : Handle
  offset : Nat
deriving DecidableEq

/-- A computation on the host that can fail. What it did to the host before it failed stays done. -/
abbrev HostM := ExceptT HostError (StateM Host)

namespace HostM

variable {α β : Type}

def on (host : Host) (call : HostM α) : Except HostError α × Host := (call.run.run host).run

@[simp] theorem on_throw (host : Host) (cause : HostError) :
    on host (throw cause : HostM α) = (.error cause, host) := rfl

@[simp] theorem on_get_bind (host : Host) (rest : Host → HostM β) :
    on host (get >>= rest) = on host (rest host) := rfl

@[simp] theorem on_error_bind (host : Host) (cause : HostError) (rest : α → HostM β) :
    on host (liftM (Except.error cause : Except HostError α) >>= rest) = (.error cause, host) := rfl

@[simp] theorem on_ok_bind (host : Host) (a : α) (rest : α → HostM β) :
    on host (liftM (Except.ok a : Except HostError α) >>= rest) = on host (rest a) := rfl

@[simp] theorem on_modify_bind (host : Host) (change : Host → Host) (rest : Unit → HostM β) :
    on host (modify change >>= rest) = on (change host) (rest ()) := rfl

@[simp] theorem on_modifyGet (host : Host) (change : Host → α × Host) :
    on host (modifyGet change : HostM α) = (.ok (change host).1, (change host).2) := rfl

end HostM

namespace Host

/-- The universal base; the first object of every host. -/
def objectType : Handle := .pack 0 0
def typeType : Handle := .pack 1 0
def tupleType : Handle := .pack 2 0

def get? (host : Host) (h : Handle) : Option HostObject := host.heap.get? h

def type? (host : Host) (h : Handle) : Option RegisteredType :=
  match host.get? h with
  | some (.type t) => some t
  | _ => none

def tuple? (host : Host) (h : Handle) : Option (List Handle) :=
  match host.get? h with
  | some (.tuple items) => some items
  | _ => none

def instance? (host : Host) (h : Handle) : Option Instance :=
  match host.get? h with
  | some (.inst i) => some i
  | _ => none

def isType (host : Host) (h : Handle) : Bool := (host.type? h).isSome

def typeInfo (host : Host) (h : Handle) : Option TypeInfo := (host.type? h).map (·.info)

def typeOf (host : Host) (h : Handle) : Option Handle :=
  (host.get? h).map fun
    | .type _ => typeType
    | .tuple _ => tupleType
    | .inst i => i.type

def findType (host : Host) (h : Handle) : Except HostError RegisteredType :=
  match host.get? h with
  | some (.type t) => .ok t
  | some _ => .error (.notAType h)
  | none => .error (.unknownHandle h)

def lookup (host : Host) (name : String) : Option Handle := host.names[name]?

def refCount? (host : Host) (h : Handle) : Option UInt32 := host.heap.refCount? h

def instanceSize (host : Host) (h : Handle) : Option Nat := (host.instance? h).map (·.structSize)

def head? (host : Host) (h : Handle) : Option ObjectHead :=
  (host.instance? h).map (·.memory.head)

/-- The struct of an instance of either mode. -/
def asStruct (host : Host) (h : Handle) : Option Location :=
  (host.instance? h).map fun i => ⟨h, i.structOffset⟩

/-- The header of an instance of either mode. -/
def asStructLegacy (host : Host) (h : Handle) : Option Location :=
  (host.instance? h).map fun _ => ⟨h, 0⟩

/-- Stores a type under its name. The caller has taken the references to its bases. -/
def insertType (host : Host) (t : RegisteredType) : Handle × Host :=
  ((host.heap.allocate (.type t)).1,
    { host with
      heap := (host.heap.allocate (.type t)).2
      names := host.names.insert t.name (host.heap.allocate (.type t)).1 })

def retainAll (host : Host) (handles : List Handle) : Host :=
  { host with heap := handles.foldl Heap.addRef host.heap }

def core (gcMode : GcMode) : Host :=
  let host := (insertType { gcMode } (BuiltinType.register { name := "object" } [])).2
  let host := host.retainAll [objectType, objectType]
  let host := (host.insertType
    (BuiltinType.register { name := "type", flags := .versionTagTracking, legacy := true }
      [objectType])).2
  (host.insertType
    (BuiltinType.register { name := "tuple", basicsize := 24, itemsize := 8, legacy := true }
      [objectType])).2

end Host
end TypeHost
