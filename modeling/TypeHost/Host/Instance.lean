import TypeHost.Host.Basic
import TypeHost.Host.Size

/-! Making tuples and instances, and the memory that an extension reads and writes. -/
namespace TypeHost

inductive MemoryFault where
  | notAnInstance | outOfRange
deriving DecidableEq

def Instance.fresh (type : Handle) (legacy : Bool) (size : Nat) : Instance where
  type := type
  mode := .ofLegacy legacy
  memory := (({ size } : Memory).writeRefCount 1).writeType type

namespace Host

/-- Stores an object that has no name. The caller has taken the references that it holds. -/
def insert (host : Host) (object : HostObject) : Handle × Host :=
  ((host.heap.allocate object).1, { host with heap := (host.heap.allocate object).2 })

/-- A tuple holds a reference to each live item. -/
def newTuple (host : Host) (items : List Handle) : Handle × Host :=
  (host.retainAll items).insert (.tuple items)

/-- An instance with room for `nitems` items; it holds a reference to its type. -/
def newInstance (host : Host) (ty : Handle) (nitems : UInt64) : Except HostError Handle × Host :=
  HostM.on host do
    let t ← (← get).findType ty
    let some size := t.allocation? nitems | throw (.instanceTooLarge t.name nitems)
    modify (·.retainAll [ty])
    modifyGet (·.insert (.inst (.fresh ty t.legacy size.toNat)))

def readStruct (host : Host) (h : Handle) (start length : Nat) :
    Except MemoryFault (List UInt8) :=
  match host.instance? h with
  | none => .error .notAnInstance
  | some i =>
    if start + length ≤ i.structSize then .ok (i.memory.read (i.structOffset + start) length)
    else .error .outOfRange

/-- Writes bytes anywhere into the memory of an instance, its header included. -/
def writeMemory (host : Host) (h : Handle) (start : Nat) (bytes : List UInt8) :
    Except MemoryFault Host :=
  match host.instance? h with
  | none => .error .notAnInstance
  | some i =>
    if start + bytes.length ≤ i.memory.size then
      .ok { host with
        heap := host.heap.update h fun _ => .inst { i with memory := i.memory.write start bytes } }
    else .error .outOfRange

def writeStruct (host : Host) (h : Handle) (start : Nat) (bytes : List UInt8) :
    Except MemoryFault Host :=
  match host.instance? h with
  | none => .error .notAnInstance
  | some i => host.writeMemory h (i.structOffset + start) bytes

end Host
end TypeHost
