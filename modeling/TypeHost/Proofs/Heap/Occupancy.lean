import Mathlib.Data.List.Induction
import Mathlib.Data.List.Infix
import Mathlib.Data.List.Nodup
import Mathlib.Data.Set.Operations
import Mathlib.Order.Bounds.Defs
import TypeHost.Proofs.Heap.Generation

/-! Runs of the heap. The free list names the empty slots, so what is not free is occupied. A slot
is made only while none is free, so there are as many of them as objects once lived together. -/
namespace TypeHost

inductive HeapCall (α : Type) where
  | allocate (value : α)
  | addRef (h : Handle)
  | release (h : Handle)

namespace Heap

variable {α : Type} {heap : Heap α} {s : HeapSlot α} {calls first : List (HeapCall α)} {i : Nat}

def step (heap : Heap α) : HeapCall α → Heap α
  | .allocate value => (heap.allocate value).2
  | .addRef h => heap.addRef h
  | .release h => (heap.release h).2

def run (calls : List (HeapCall α)) : Heap α := calls.foldl step {}

theorem run_append (first later : List (HeapCall α)) :
    run (first ++ later) = later.foldl step (run first) := List.foldl_append

section Free

/-- An empty slot is on the free list. The list holds indices of 32 bits, so this needs every slot
to have one. -/
theorem Sound.mem_free_iff (sound : heap.Sound) (room : heap.slotCount ≤ 0xFFFFFFFF) :
    i ∈ heap.free.map (·.toNat) ↔ ∃ s, heap.slots[i]? = some s ∧ s.value = none := by
  constructor
  · intro mem
    obtain ⟨index, free, rfl⟩ := List.mem_map.1 mem
    exact (sound.mem_free index).1 free
  · rintro ⟨s, slot, empty⟩
    have bound : i < heap.slotCount := (Array.getElem?_eq_some_iff.1 slot).1
    have index : (UInt32.ofNat i).toNat = i :=
      UInt32.toNat_ofNat_of_lt' (Nat.lt_of_lt_of_le bound (Nat.le_trans room (by decide)))
    exact List.mem_map.2 ⟨_, (sound.mem_free _).2 ⟨s, index.symm ▸ slot, empty⟩, index⟩

theorem Sound.lt_of_mem_free (sound : heap.Sound) {index : UInt32} (mem : index ∈ heap.free) :
    index.toNat < heap.slotCount :=
  let ⟨_, slot, _⟩ := (sound.mem_free index).1 mem
  (Array.getElem?_eq_some_iff.1 slot).1

theorem Sound.free_perm (sound : heap.Sound) (room : heap.slotCount ≤ 0xFFFFFFFF) :
    (heap.free.map (·.toNat)).Perm (heap.slots.toList.findIdxs (·.value.isNone)) := by
  have distinct : (heap.free.map (·.toNat)).Nodup :=
    List.Nodup.map (fun _ _ same => UInt32.toNat_inj.1 same) sound.free_nodup
  refine (List.perm_ext_iff_of_nodup distinct List.nodup_findIdxs).2 fun i => ?_
  rw [sound.mem_free_iff room, List.mem_findIdxs_iff_exists_getElem_pos]
  simp only [Array.getElem?_eq_some_iff, Option.isNone_iff_eq_none, Array.length_toList,
    Array.getElem_toList]
  constructor
  · rintro ⟨s, ⟨bound, rfl⟩, empty⟩
    exact ⟨bound, empty⟩
  · rintro ⟨bound, empty⟩
    exact ⟨_, ⟨bound, rfl⟩, empty⟩

theorem Sound.freeCount_add (sound : heap.Sound) (room : heap.slotCount ≤ 0xFFFFFFFF) :
    heap.freeCount + heap.slots.toList.countP (·.value.isSome) = heap.slotCount := by
  have free : heap.freeCount = heap.slots.toList.countP (·.value.isNone) := by
    rw [← List.length_findIdxs (s := 0), ← (sound.free_perm room).length_eq, List.length_map,
      freeCount]
  rw [free, slotCount, ← Array.length_toList,
    List.length_eq_countP_add_countP (fun s : HeapSlot α => s.value.isNone)]
  congr 2
  funext s
  cases s.value <;> rfl

theorem Sound.allocate_spares (sound : heap.Sound) (room : heap.slotCount < 0xFFFFFFFF) (value : α)
    (slot : heap.slots[i]? = some s) (full : s.value.isSome) :
    (heap.allocate value).2.slots[i]? = some s := by
  obtain ⟨index, generation, placed⟩ :=
    sound.allocate_placed value (Nat.le_trans (heap.slotCount_allocate_le value) room)
  have apart : i ≠ index.toNat := by
    rintro rfl
    rw [(placed.vacant s slot).2] at full
    cases full
  rw [placed.others i apart, slot]

end Free

section Steps

theorem Sound.step (sound : heap.Sound) (call : HeapCall α) : (heap.step call).Sound := by
  cases call with
  | allocate value => exact sound.allocate value
  | addRef h => exact sound.addRef h
  | release h => exact sound.release h

theorem sound_run (calls : List (HeapCall α)) : (run calls).Sound := by
  induction calls using List.reverseRecOn with
  | nil => exact sound_empty
  | append_singleton calls call ih =>
      rw [run_append]
      exact ih.step call

/-- A slot is made only where none is left free. -/
theorem step_fills (heap : Heap α) (call : HeapCall α) :
    (heap.step call).slotCount = heap.slotCount ∨
      (heap.step call).slotCount = heap.slotCount + 1 ∧ (heap.step call).free = [] := by
  cases call with
  | allocate value =>
      change (heap.allocate value).2.slotCount = _ ∨ (heap.allocate value).2.slotCount = _ ∧
        (heap.allocate value).2.free = []
      unfold allocate
      split
      · exact .inl Array.size_setIfInBounds
      · rename_i full
        exact .inr ⟨Array.size_push _, full⟩
  | addRef h => exact .inl (heap.wanes_addRef h).size
  | release h => exact .inl (heap.wanes_release h).size

theorem slotCount_run_le (before : first <+: calls) :
    (run first).slotCount ≤ (run calls).slotCount := by
  obtain ⟨later, rfl⟩ := before
  rw [run_append]
  generalize run first = heap
  induction later generalizing heap with
  | nil => exact Nat.le_refl _
  | cons call rest ih =>
      refine Nat.le_trans ?_ (ih (heap.step call))
      rcases heap.step_fills call with same | ⟨more, -⟩ <;> omega

end Steps

theorem isGreatest_live (calls : List (HeapCall α)) :
    IsGreatest ((fun first => (run first).live) '' {first | first <+: calls})
      (run calls).slotCount := by
  refine ⟨?_, ?_⟩
  · induction calls using List.reverseRecOn with
    | nil => exact ⟨[], List.prefix_refl [], rfl⟩
    | append_singleton calls call ih =>
        have last : run (calls ++ [call]) = (run calls).step call := run_append ..
        rcases (run calls).step_fills call with same | ⟨-, full⟩
        · obtain ⟨first, before, peak⟩ := ih
          refine ⟨first, before.trans (List.prefix_append ..), ?_⟩
          rw [last, same]
          exact peak
        · -- The new slot is needed because all others are taken, so this is a new peak.
          refine ⟨_, List.prefix_refl _, ?_⟩
          dsimp only
          rw [live, freeCount, last, full]
          rfl
  · rintro _ ⟨first, before, rfl⟩
    exact Nat.le_trans (Nat.sub_le ..) (slotCount_run_le before)

/-- After any calls the free list names each empty slot once and no other, and an occupied slot
has been counted. So a new object takes the place of none, the number of live objects is right,
and there are no more slots than were needed at once. -/
theorem slots_accounted (calls : List (HeapCall α)) (room : (run calls).slotCount < 0xFFFFFFFF) :
    let heap : Heap α := run calls
    heap.free.Nodup ∧
      (∀ i, i ∈ heap.free.map (·.toNat) ↔ ∃ s, heap.slots[i]? = some s ∧ s.value = none) ∧
      (∀ (i : Nat) (s : HeapSlot α), heap.slots[i]? = some s → s.value.isSome →
        1 ≤ s.refCount.toNat) ∧
      (∀ (value : α) (i : Nat) (s : HeapSlot α), heap.slots[i]? = some s → s.value.isSome →
        (heap.allocate value).2.slots[i]? = some s) ∧
      (∀ index ∈ heap.free, index.toNat < heap.slots.size) ∧
      heap.freeCount ≤ heap.slotCount ∧
      heap.live = heap.slots.toList.countP (·.value.isSome) ∧
      IsGreatest ((fun first => (run first).live) '' {first | first <+: calls})
        heap.slotCount := by
  intro heap
  have sound : heap.Sound := sound_run calls
  have whole := sound.freeCount_add (Nat.le_of_lt room)
  refine ⟨sound.free_nodup, fun i => sound.mem_free_iff (Nat.le_of_lt room), sound.counted,
    fun value i s => sound.allocate_spares room value, fun index => sound.lt_of_mem_free, ?_, ?_,
    isGreatest_live calls⟩
  · omega
  · rw [live]
    omega

/-- Three slots, of which two are freed and one is taken again; a handle is released twice, and
another is used after its object is gone. -/
theorem slots_accounted_reused :
    let calls : List (HeapCall Nat) := [.allocate 7, .allocate 8, .addRef (.pack 0 0), .allocate 9,
      .release (.pack 1 0), .release (.pack 1 0), .release (.pack 2 0), .addRef (.pack 2 0),
      .allocate 5, .release (.pack 2 0), .release (.pack 0 0)]
    (run calls).slotCount < 0xFFFFFFFF ∧ (run calls).free = [1] ∧ (run calls).live = 2 ∧
      (run calls).slots.toList.countP (·.value.isSome) = 2 ∧
      IsGreatest ((fun first => (run first).live) '' {first | first <+: calls}) 3 := by
  intro calls
  have room : (run calls).slotCount < 0xFFFFFFFF := by decide
  have free : (run calls).free = [1] := by decide
  have live : (run calls).live = 2 := by decide
  have count : (run calls).slotCount = 3 := by decide
  obtain ⟨-, -, -, -, -, -, occupied, peak⟩ := slots_accounted calls room
  exact ⟨room, free, live, occupied ▸ live, count ▸ peak⟩

end Heap
end TypeHost
