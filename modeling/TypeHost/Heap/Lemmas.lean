import TypeHost.Heap

/-! The total weight of the live objects under each operation, and the list of live handles. -/
namespace TypeHost

namespace Heap

variable {α : Type}

theorem slot?_eq_some {heap : Heap α} {h : Handle} {slot : HeapSlot α}
    (eq : heap.slot? h = some slot) :
    ∃ index, h.unpack? = some (index, slot.generation) ∧
      heap.slots[index.toNat]? = some slot ∧ slot.value.isSome := by
  simp only [slot?, Option.bind_eq_some_iff, Option.filter_eq_some_iff, Bool.and_eq_true,
    beq_iff_eq] at eq
  obtain ⟨⟨index, generation⟩, hunpack, hslot, rfl, hvalue⟩ := eq
  exact ⟨index, hunpack, hslot, hvalue⟩

theorem total_setSlot (weight : α → Nat) {heap : Heap α} {h : Handle} {s t : HeapSlot α}
    (eq : heap.slot? h = some s) :
    (heap.setSlot h t).total weight + s.value.elim 0 weight
      = heap.total weight + t.value.elim 0 weight := by
  obtain ⟨index, hunpack, hslot, -⟩ := slot?_eq_some eq
  simp only [setSlot, hunpack, total, Array.toList_setIfInBounds]
  exact tally_set _ (by simpa using hslot)

theorem total_release (weight : α → Nat) (heap : Heap α) (h : Handle) :
    (heap.release h).2.total weight + (heap.release h).1.elim 0 weight = heap.total weight := by
  unfold release
  split
  · rename_i index generation slot _ eq
    have keep := total_setSlot weight
      (t := { slot with refCount := countDown slot.refCount }) eq
    have drop := total_setSlot weight
      (t := ⟨slot.generation + 1, 0, none⟩) eq
    split
    · simpa using keep
    · simpa [total] using drop
  · simp

theorem total_update (weight : α → Nat) (heap : Heap α) (h : Handle) {f : α → α}
    (hf : ∀ a, weight (f a) = weight a) : (heap.update h f).total weight = heap.total weight := by
  unfold update
  split
  · rename_i slot eq
    have := total_setSlot weight (t := { slot with value := slot.value.map f }) eq
    cases hvalue : slot.value <;> simp_all
  · rfl

theorem mem_handles {heap : Heap α} {h : Handle} {a : α} (eq : heap.get? h = some a) :
    h ∈ heap.handles := by
  obtain ⟨slot, hslot, hvalue⟩ := Option.bind_eq_some_iff.1 eq
  obtain ⟨index, hunpack, hindex, hsome⟩ := slot?_eq_some hslot
  simp only [handles, List.mem_filterMap, Prod.exists]
  refine ⟨slot, index.toNat, ?_, ?_⟩
  · rw [List.mem_zipIdx_iff_getElem?]
    simpa using hindex
  · simp [hsome, Handle.pack_of_unpack? hunpack]

end Heap
end TypeHost
