import TypeHost.Accessor
import TypeHost.Host.Memory

/-! What a handle of the host can name: a type, a tuple of handles, or an instance with memory. -/
namespace TypeHost

structure RegisteredType where
  /-- Full, possibly dotted name. -/
  name : String
  basicsize : Int32
  itemsize : Int32
  flags : TypeFlags
  legacy : Bool
  /-- Provided by the host rather than built from a spec. -/
  builtin : Bool
  bases : List Handle
  doc : Option String := none
  /-- Slots after overrides, in definition order. -/
  slots : List SlotId := []
  /-- Attribute names after overrides, in definition order. -/
  attrs : List String := []
  /-- The host supplies the constructor. -/
  defaultNew : Bool := false
deriving DecidableEq

/-- A type that the host provides. Left as it is, it has no struct and may be subclassed. -/
structure BuiltinType where
  name : String
  basicsize : Int32 := 0
  itemsize : Int32 := 0
  flags : TypeFlags := TypeFlags.versionTagTracking.union .baseType
  legacy : Bool := false
deriving DecidableEq

structure Instance where
  type : Handle
  mode : LayoutMode
  memory : Memory

inductive HostObject where
  | type (type : RegisteredType)
  | tuple (items : List Handle)
  | inst (object : Instance)

namespace RegisteredType

def info (t : RegisteredType) : TypeInfo where
  name := (splitName t.name).2
  module := (splitName t.name).1
  basicsize := t.basicsize
  itemsize := t.itemsize
  flags := t.flags
  legacy := t.legacy
  builtin := t.builtin

end RegisteredType

def BuiltinType.register (b : BuiltinType) (bases : List Handle) : RegisteredType where
  name := b.name
  basicsize := b.basicsize
  itemsize := b.itemsize
  flags := b.flags
  legacy := b.legacy
  builtin := true
  bases := bases

def LayoutMode.structOffset : LayoutMode → Nat
  | .pure => headSize
  | .legacy => 0

namespace Instance

def structOffset (i : Instance) : Nat := i.mode.structOffset

/-- Bytes of the struct, header included for a legacy type. -/
def structSize (i : Instance) : Nat := i.memory.size - i.structOffset

end Instance

namespace HostObject

/-- The handles to which the object holds a reference: the bases of a type, the items of a tuple,
the type of an instance. -/
def references : HostObject → List Handle
  | .type t => t.bases
  | .tuple items => items
  | .inst i => [i.type]

def syncHead (count : UInt32) : HostObject → HostObject
  | .inst i => .inst { i with memory := i.memory.writeRefCount count }
  | object => object

@[simp] theorem references_syncHead (count : UInt32) (object : HostObject) :
    (object.syncHead count).references = object.references := by
  cases object <;> rfl

end HostObject
end TypeHost
