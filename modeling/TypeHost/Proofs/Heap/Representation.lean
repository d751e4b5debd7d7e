import TypeHost.Proofs.Heap.Lookup

/-! The representation of the heap: the free list holds exactly the empty slots, each once, and no
occupied slot has a count of zero. Every operation keeps this. -/
namespace TypeHost

namespace Heap

variable {α : Type} {heap : Heap α} {h : Handle} {s t : HeapSlot α}

structure Sound (heap : Heap α) : Prop where
  free_nodup : heap.free.Nodup
  mem_free : ∀ index : UInt32, index ∈ heap.free ↔
    ∃ s, heap.slots[index.toNat]? = some s ∧ s.value = none
  counted : ∀ (i : Nat) (s : HeapSlot α), heap.slots[i]? = some s → s.value.isSome →
    0 < s.refCount.toNat

theorem sound_empty : Sound ({} : Heap α) where
  free_nodup := List.nodup_nil
  mem_free index := by simp
  counted i s slot := by simp at slot

theorem toNat_countUp (n : UInt32) : (countUp n).toNat = min 0xFFFFFFFF (n.toNat + 1) := by
  have bound := n.toNat_lt
  unfold countUp
  split
  · rename_i top
    rw [top]
    decide
  · rename_i below
    have small : n.toNat ≠ 0xFFFFFFFF := fun eq => below (UInt32.toNat_inj.1 eq)
    rw [UInt32.toNat_add, UInt32.toNat_one]
    omega

theorem countUp_pos (n : UInt32) : 0 < (countUp n).toNat := by
  rw [toNat_countUp]
  omega

def countUpBy (count : UInt32) (n : Nat) : UInt32 := UInt32.ofNat (min 0xFFFFFFFF (count.toNat + n))

theorem toNat_countUpBy (count : UInt32) (n : Nat) :
    (countUpBy count n).toNat = min 0xFFFFFFFF (count.toNat + n) := by
  rw [countUpBy, UInt32.toNat_ofNat']
  omega

theorem countUpBy_zero (count : UInt32) : countUpBy count 0 = count := by
  have bound := count.toNat_lt
  rw [← UInt32.toNat_inj, toNat_countUpBy]
  omega

theorem countUpBy_countUp (count : UInt32) (n : Nat) :
    countUpBy (countUp count) n = countUpBy count (n + 1) := by
  rw [← UInt32.toNat_inj, toNat_countUpBy, toNat_countUpBy, toNat_countUp]
  omega

theorem Sound.missing_of_vacant (sound : heap.Sound) {index generation : UInt32}
    (unpack : h.unpack? = some (index, generation))
    (vacant : index ∈ heap.free ∨ heap.slots[index.toNat]? = none) : heap.slot? h = none := by
  rcases vacant with free | unmade
  · obtain ⟨s, slot, empty⟩ := (sound.mem_free index).1 free
    exact slot?_of_empty unpack slot empty
  · rw [slot?_of_unpack? unpack, unmade, Option.filter_none]

theorem Sound.setSlot (sound : heap.Sound) (found : heap.slot? h = some s) (full : t.value.isSome)
    (counted : 0 < t.refCount.toNat) : (heap.setSlot h t).Sound := by
  obtain ⟨index, unpack, slot, occupied⟩ := slot?_eq_some found
  refine ⟨by rw [free_setSlot]; exact sound.free_nodup, ?_, ?_⟩
  · intro index'
    rw [free_setSlot, sound.mem_free index', getElem?_setSlot unpack slot]
    split
    · rename_i same
      rw [same, slot]
      constructor
      · rintro ⟨s', ⟨⟩, empty⟩
        simp [empty] at occupied
      · rintro ⟨s', ⟨⟩, empty⟩
        simp [empty] at full
    · rfl
  · intro i s' slot' full'
    rw [getElem?_setSlot unpack slot] at slot'
    split at slot'
    · cases slot'
      exact counted
    · exact sound.counted i s' slot' full'

theorem Sound.refCount_pos (sound : heap.Sound) (found : heap.slot? h = some s) :
    0 < s.refCount.toNat := by
  obtain ⟨index, -, slot, full⟩ := slot?_eq_some found
  exact sound.counted _ s slot full

theorem Sound.addRef (sound : heap.Sound) (h : Handle) : (heap.addRef h).Sound := by
  cases found : heap.slot? h with
  | none =>
      rw [addRef_of_none found]
      exact sound
  | some s =>
      rw [addRef_of_slot? found]
      exact sound.setSlot found (isSome_of_slot? found :) (countUp_pos _)

theorem Sound.update (sound : heap.Sound) (h : Handle) (f : α → α) : (heap.update h f).Sound := by
  cases found : heap.slot? h with
  | none =>
      rw [update_of_none found]
      exact sound
  | some s =>
      obtain ⟨index, unpack, slot, full⟩ := slot?_eq_some found
      rw [update_of_slot? found]
      exact sound.setSlot found (by simpa using full) (sound.counted _ s slot full)

theorem Sound.freeSlot (sound : heap.Sound) {index : UInt32} (found : heap.slot? h = some s)
    (unpack : h.unpack? = some (index, s.generation)) (slot : heap.slots[index.toNat]? = some s)
    (empty : t.value = none) :
    ({ heap.setSlot h t with free := index :: heap.free } : Heap α).Sound := by
  have occupied : index ∉ heap.free := by
    intro mem
    obtain ⟨s', slot', empty'⟩ := (sound.mem_free index).1 mem
    cases slot.symm.trans slot'
    have := isSome_of_slot? found
    simp [empty'] at this
  refine ⟨List.nodup_cons.2 ⟨occupied, sound.free_nodup⟩, ?_, ?_⟩
  · intro index'
    rw [List.mem_cons, getElem?_setSlot unpack slot]
    by_cases same : index' = index
    · simp [same, empty]
    · have apart : index'.toNat ≠ index.toNat := fun eq => same (UInt32.toNat_inj.1 eq)
      rw [if_neg apart, ← sound.mem_free index']
      simp [same]
  · intro i s' slot' full'
    rw [getElem?_setSlot unpack slot] at slot'
    split at slot'
    · cases slot'
      simp [empty] at full'
    · exact sound.counted i s' slot' full'

theorem Sound.release (sound : heap.Sound) (h : Handle) : (heap.release h).2.Sound := by
  have released := release_cases heap h
  generalize heap.release h = result at released ⊢
  cases released with
  | dead missing => exact sound
  | shared found more =>
      exact sound.setSlot found (isSome_of_slot? found :) (UInt32.lt_iff_toNat_lt.1 more)
  | last found none_left hvalue unpack slot => exact sound.freeSlot found unpack slot rfl

/-- Where a new object stands: in a slot that held nothing, under the generation of that slot. -/
structure Placed (heap : Heap α) (value : α) (result : Handle × Heap α)
    (index generation : UInt32) : Prop where
  unpack : result.1.unpack? = some (index, generation)
  vacant : ∀ s, heap.slots[index.toNat]? = some s → s.generation = generation ∧ s.value = none
  unmade : heap.slots[index.toNat]? = none → generation = 0
  filled : result.2.slots[index.toNat]? = some ⟨generation, 1, some value⟩
  others : ∀ i, i ≠ index.toNat → result.2.slots[i]? = heap.slots[i]?

theorem slotCount_le_allocate (heap : Heap α) (value : α) :
    heap.slotCount ≤ (heap.allocate value).2.slotCount := by
  unfold allocate
  split <;> simp [slotCount]

theorem slotCount_allocate_le (heap : Heap α) (value : α) :
    (heap.allocate value).2.slotCount ≤ heap.slotCount + 1 := by
  unfold allocate
  split <;> simp [slotCount]

theorem Sound.allocate_placed (sound : heap.Sound) (value : α)
    (room : (heap.allocate value).2.slotCount ≤ 0xFFFFFFFF) :
    ∃ index generation, heap.Placed value (heap.allocate value) index generation := by
  cases hfree : heap.free with
  | nil =>
      have result : heap.allocate value = (.pack (UInt32.ofNat heap.slots.size) 0,
          { heap with slots := heap.slots.push ⟨0, 1, some value⟩ }) := by
        simp only [allocate, hfree]
      have small : heap.slots.size < 0xFFFFFFFF := by
        rw [result, slotCount, Array.size_push] at room
        exact room
      have index : (UInt32.ofNat heap.slots.size).toNat = heap.slots.size := by
        rw [UInt32.toNat_ofNat']
        omega
      rw [result]
      refine ⟨UInt32.ofNat heap.slots.size, 0, Handle.unpack?_pack (by omega), ?_, fun _ => rfl,
        ?_, ?_⟩
      · intro s slot
        rw [index] at slot
        simp at slot
      · simp [index]
      · intro i ne
        rw [index] at ne
        simp [Array.getElem?_push, ne]
  | cons index rest =>
      obtain ⟨s, slot, empty⟩ := (sound.mem_free index).1 (hfree ▸ List.mem_cons_self)
      obtain ⟨bound, -⟩ := Array.getElem?_eq_some_iff.1 slot
      have generation : heap.generation index = s.generation := by
        simp only [Heap.generation, slot, Option.elim_some]
      have result : heap.allocate value = (.pack index s.generation,
          { slots := heap.slots.setIfInBounds index.toNat ⟨s.generation, 1, some value⟩
            free := rest }) := by
        simp only [allocate, hfree, generation]
      have small : heap.slots.size ≤ 0xFFFFFFFF := by
        rw [result, slotCount, Array.size_setIfInBounds] at room
        exact room
      rw [result]
      refine ⟨index, s.generation, Handle.unpack?_pack (by omega), ?_, ?_, ?_, ?_⟩
      · rintro s' slot'
        cases slot.symm.trans slot'
        exact ⟨rfl, empty⟩
      · intro unmade
        rw [slot] at unmade
        cases unmade
      · simp [bound]
      · intro i ne
        exact Array.getElem?_setIfInBounds_ne ne.symm

theorem Sound.allocate (sound : heap.Sound) (value : α) : (heap.allocate value).2.Sound := by
  unfold Heap.allocate
  cases hfree : heap.free with
  | nil =>
      -- With an empty free list no slot is empty.
      have full (i : Nat) (s : HeapSlot α) (slot : heap.slots[i]? = some s)
          (small : i < UInt32.size) : s.value ≠ none := by
        intro empty
        have index : (UInt32.ofNat i).toNat = i := UInt32.toNat_ofNat_of_lt' small
        have mem := (sound.mem_free (UInt32.ofNat i)).2 ⟨s, index.symm ▸ slot, empty⟩
        simp [hfree] at mem
      refine ⟨List.nodup_nil, ?_, ?_⟩
      · intro index
        dsimp only
        rw [Array.getElem?_push]
        constructor
        · intro mem
          cases mem
        · rintro ⟨s, slot, empty⟩
          split at slot
          · cases slot
            cases empty
          · exact absurd empty (full _ s slot index.toNat_lt)
      · intro i s slot occupied
        dsimp only at slot
        rw [Array.getElem?_push] at slot
        split at slot
        · cases slot
          exact Nat.zero_lt_one
        · exact sound.counted i s slot occupied
  | cons index rest =>
      have nodup := List.nodup_cons.1 (hfree ▸ sound.free_nodup)
      obtain ⟨old, here, -⟩ := (sound.mem_free index).1 (hfree ▸ List.mem_cons_self)
      obtain ⟨bound, -⟩ := Array.getElem?_eq_some_iff.1 here
      refine ⟨nodup.2, ?_, ?_⟩
      · intro index'
        dsimp only
        rw [Array.getElem?_setIfInBounds]
        by_cases same : index' = index
        · subst same
          simp [bound, nodup.1]
        · have apart : index.toNat ≠ index'.toNat := fun eq => same (UInt32.toNat_inj.1 eq.symm)
          rw [if_neg apart, ← sound.mem_free index', hfree, List.mem_cons]
          simp [same]
      · intro i s slot occupied
        dsimp only at slot
        rw [Array.getElem?_setIfInBounds] at slot
        split at slot
        · cases slot
          exact Nat.zero_lt_one
        · exact sound.counted i s slot occupied

theorem total_addRef (weight : α → Nat) (heap : Heap α) (h : Handle) :
    (heap.addRef h).total weight = heap.total weight := by
  cases found : heap.slot? h with
  | none => rw [addRef_of_none found]
  | some s =>
      rw [addRef_of_slot? found]
      have := total_setSlot weight (t := { s with refCount := countUp s.refCount }) found
      dsimp only at this
      omega

theorem Sound.total_allocate (sound : heap.Sound) (value : α) (weight : α → Nat) :
    (heap.allocate value).2.total weight = heap.total weight + weight value := by
  unfold Heap.allocate
  cases hfree : heap.free with
  | nil =>
      simp only [total, Array.toList_push, tally_append, tally_cons, tally_nil, Option.elim_some,
        Nat.add_zero]
  | cons index rest =>
      obtain ⟨s, slot, empty⟩ := (sound.mem_free index).1 (hfree ▸ List.mem_cons_self)
      have replaced := tally_set (fun slot : HeapSlot α => slot.value.elim 0 weight)
        (b := ⟨heap.generation index, 1, some value⟩) (Array.getElem?_toList.trans slot)
      simp only [empty, Option.elim_none, Option.elim_some, Nat.add_zero] at replaced
      simp only [total, Array.toList_setIfInBounds]
      exact replaced

end Heap
end TypeHost
