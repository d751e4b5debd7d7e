import TypeHost.Proofs.Heap.Lookup

/-! A function on objects, carried over to the heap that holds them. No operation of the heap looks
into an object, so each of them commutes with such a function. -/
namespace TypeHost

variable {α β : Type}

def HeapSlot.map (f : α → β) (s : HeapSlot α) : HeapSlot β := ⟨s.generation, s.refCount, s.value.map f⟩

namespace Heap

variable {f : α → β} {heap : Heap α} {h : Handle} {s : HeapSlot α}

def map (f : α → β) (heap : Heap α) : Heap β := ⟨heap.slots.map (HeapSlot.map f), heap.free⟩

@[simp] theorem getElem?_map (f : α → β) (heap : Heap α) (i : Nat) :
    (heap.map f).slots[i]? = heap.slots[i]?.map (HeapSlot.map f) := by
  simp [map]

@[simp] theorem free_map (f : α → β) (heap : Heap α) : (heap.map f).free = heap.free := rfl

@[simp] theorem slot?_map (f : α → β) (heap : Heap α) (h : Handle) :
    (heap.map f).slot? h = (heap.slot? h).map (HeapSlot.map f) := by
  cases unpack : h.unpack? with
  | none => simp [slot?_of_unpack?_none unpack]
  | some place =>
      rw [slot?_of_unpack? unpack, slot?_of_unpack? unpack, getElem?_map, Option.filter_map]
      congr 2
      funext s
      simp [HeapSlot.map]

@[simp] theorem get?_map (f : α → β) (heap : Heap α) (h : Handle) :
    (heap.map f).get? h = (heap.get? h).map f := by
  simp [get?, Option.bind_map, Option.map_bind, HeapSlot.map, Function.comp_def]

@[simp] theorem refCount?_map (f : α → β) (heap : Heap α) (h : Handle) :
    (heap.map f).refCount? h = heap.refCount? h := by
  simp [refCount?, HeapSlot.map, Function.comp_def]

@[simp] theorem contains_map (f : α → β) (heap : Heap α) (h : Handle) :
    (heap.map f).contains h = heap.contains h := by
  simp [contains]

@[simp] theorem live_map (f : α → β) (heap : Heap α) : (heap.map f).live = heap.live := by
  simp [live, slotCount, freeCount, map]

@[simp] theorem generation_map (f : α → β) (heap : Heap α) (index : UInt32) :
    (heap.map f).generation index = heap.generation index := by
  rw [generation, generation, getElem?_map]
  cases heap.slots[index.toNat]? <;> rfl

theorem setSlot_map (f : α → β) (heap : Heap α) (h : Handle) (s : HeapSlot α) :
    (heap.map f).setSlot h (s.map f) = (heap.setSlot h s).map f := by
  unfold setSlot
  split
  · simp [map, Array.map_setIfInBounds]
  · rfl

theorem addRef_map (f : α → β) (heap : Heap α) (h : Handle) :
    (heap.map f).addRef h = (heap.addRef h).map f := by
  cases found : heap.slot? h with
  | none => rw [addRef_of_none found, addRef_of_none (by simp [found])]
  | some s =>
      rw [addRef_of_slot? found, ← setSlot_map]
      exact addRef_of_slot? (s := s.map f) (by simp [found])

theorem release_map (f : α → β) (heap : Heap α) (h : Handle) :
    (heap.map f).release h = ((heap.release h).1.map f, (heap.release h).2.map f) := by
  unfold release
  rw [slot?_map]
  cases h.unpack? with
  | none => rfl
  | some place =>
      cases heap.slot? h with
      | none => rfl
      | some s =>
          have shared := heap.setSlot_map f h { s with refCount := countDown s.refCount }
          have freed := heap.setSlot_map f h ⟨s.generation + 1, 0, none⟩
          simp only [HeapSlot.map, Option.map_none] at shared freed
          simp only [Option.map_some, HeapSlot.map]
          split
          · rw [shared, Option.map_none]
          · rw [freed]
            rfl

theorem allocate_map (f : α → β) (heap : Heap α) (a : α) :
    (heap.map f).allocate (f a) = ((heap.allocate a).1, (heap.allocate a).2.map f) := by
  unfold allocate
  rw [free_map]
  split
  · rw [generation_map]
    simp [map, Array.map_setIfInBounds, HeapSlot.map]
  · simp [map, HeapSlot.map]

theorem setSlot_self (found : heap.slot? h = some s) : heap.setSlot h s = heap := by
  obtain ⟨index, unpack, slot, -⟩ := slot?_eq_some found
  have same : heap.slots.setIfInBounds index.toNat s = heap.slots := by
    apply Array.ext_getElem?
    intro i
    rw [Array.getElem?_setIfInBounds]
    by_cases here : index.toNat = i
    · subst here
      have inside := (Array.getElem?_eq_some_iff.1 slot).1
      rw [if_pos rfl, if_pos inside, slot]
    · rw [if_neg here]
  simp only [setSlot, unpack, same]

theorem map_update {g : α → α} (unseen : ∀ a, heap.get? h = some a → f (g a) = f a) :
    (heap.update h g).map f = heap.map f := by
  cases found : heap.slot? h with
  | none => rw [update_of_none found]
  | some s =>
      obtain ⟨index, unpack, slot, full⟩ := slot?_eq_some found
      obtain ⟨a, value⟩ := Option.isSome_iff_exists.1 full
      have here : heap.get? h = some a := by rw [get?, found, Option.bind_some, value]
      have same : HeapSlot.map f { s with value := s.value.map g } = s.map f := by
        simp [HeapSlot.map, value, unseen a here]
      rw [update_of_slot? found, ← setSlot_map, same, setSlot_map, setSlot_self found]

end Heap
end TypeHost
