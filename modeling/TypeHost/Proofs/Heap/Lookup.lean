import TypeHost.Heap.Lemmas

/-! What a handle finds after each operation of the heap. An operation on one handle leaves what
every other handle finds as it was. -/
namespace TypeHost

namespace Heap

variable {α : Type} {heap : Heap α} {h other : Handle} {s t : HeapSlot α}

theorem slot?_of_unpack? {index generation : UInt32}
    (unpack : h.unpack? = some (index, generation)) :
    heap.slot? h = heap.slots[index.toNat]?.filter fun slot =>
      slot.generation == generation && slot.value.isSome := by
  rw [slot?, unpack, Option.bind_some]

theorem slot?_of_unpack?_none (unpack : h.unpack? = none) : heap.slot? h = none := by
  rw [slot?, unpack, Option.bind_none]

theorem slot?_of_slots {index : UInt32} (unpack : h.unpack? = some (index, s.generation))
    (slot : heap.slots[index.toNat]? = some s) (full : s.value.isSome) :
    heap.slot? h = some s := by
  simp [slot?_of_unpack? unpack, slot, full]

theorem slot?_of_empty {index generation : UInt32}
    (unpack : h.unpack? = some (index, generation))
    (slot : heap.slots[index.toNat]? = some s) (empty : s.value = none) :
    heap.slot? h = none := by
  simp [slot?_of_unpack? unpack, slot, empty]

theorem slot?_pack {i : Nat} (room : heap.slotCount < 0xFFFFFFFF) (slot : heap.slots[i]? = some s)
    (full : s.value.isSome) : heap.slot? (.pack (UInt32.ofNat i) s.generation) = some s := by
  obtain ⟨bound, -⟩ := Array.getElem?_eq_some_iff.1 slot
  have small : i < 0xFFFFFFFF := Nat.lt_trans bound room
  have index : (UInt32.ofNat i).toNat = i :=
    UInt32.toNat_ofNat_of_lt' (Nat.lt_trans small (by decide))
  exact slot?_of_slots (Handle.unpack?_pack (by omega)) (index.symm ▸ slot) full

theorem mem_handles_iff (room : heap.slotCount < 0xFFFFFFFF) :
    h ∈ heap.handles ↔ (heap.slot? h).isSome := by
  constructor
  · intro mem
    rw [handles, List.mem_filterMap] at mem
    obtain ⟨⟨s, i⟩, place, eq⟩ := mem
    rw [List.mem_zipIdx_iff_getElem?, Array.getElem?_toList] at place
    dsimp only at eq
    split at eq
    · rename_i full
      cases eq
      rw [slot?_pack room place full]
      rfl
    · cases eq
  · intro live
    obtain ⟨s, found⟩ := Option.isSome_iff_exists.1 live
    obtain ⟨index, -, -, full⟩ := slot?_eq_some found
    obtain ⟨a, value⟩ := Option.isSome_iff_exists.1 full
    exact mem_handles (a := a) (by rw [get?, found, Option.bind_some, value])

theorem handles_nodup (room : heap.slotCount < 0xFFFFFFFF) : heap.handles.Nodup := by
  have ordered : heap.slots.toList.zipIdx.Pairwise fun a b => a.2 < b.2 := by
    rw [← List.pairwise_map, List.zipIdx_map_snd]
    exact List.pairwise_lt_range'
  have index {s : HeapSlot α} {i : Nat} (place : (s, i) ∈ heap.slots.toList.zipIdx) :
      (UInt32.ofNat i).toNat = i ∧ i + 1 < 0x100000000 := by
    rw [List.mem_zipIdx_iff_getElem?, Array.getElem?_toList] at place
    have bound := Nat.lt_trans (Array.getElem?_eq_some_iff.1 place).1 room
    exact ⟨UInt32.toNat_ofNat_of_lt' (Nat.lt_trans bound (by decide)), by omega⟩
  rw [handles, List.Nodup, List.pairwise_filterMap]
  apply ordered.imp_of_mem
  rintro ⟨s, i⟩ ⟨t, j⟩ place place' lt h first h' second rfl
  simp only [Option.ite_none_right_eq_some, Option.some.injEq] at first second
  obtain ⟨index_i, small_i⟩ := index place
  obtain ⟨index_j, small_j⟩ := index place'
  have same := congrArg Handle.unpack? (first.2.trans second.2.symm)
  rw [Handle.unpack?_pack (by rwa [index_i]), Handle.unpack?_pack (by rwa [index_j])] at same
  simp only [Option.some.injEq, Prod.mk.injEq] at same
  have := congrArg UInt32.toNat same.1
  rw [index_i, index_j] at this
  exact Nat.ne_of_lt lt this

theorem exists_of_total_pos (room : heap.slotCount < 0xFFFFFFFF) {weight : α → Nat}
    (pos : 0 < heap.total weight) : ∃ h a, heap.get? h = some a ∧ 0 < weight a := by
  obtain ⟨s, mem, heavy⟩ := exists_of_tally_pos pos
  obtain ⟨i, slot⟩ := List.getElem?_of_mem mem
  rw [Array.getElem?_toList] at slot
  cases value : s.value with
  | none => simp [value] at heavy
  | some a =>
      have found := slot?_pack room slot (value ▸ rfl)
      exact ⟨_, a, by rw [get?, found, Option.bind_some, value], by simpa [value] using heavy⟩

section SetSlot

theorem slots_setSlot {index generation : UInt32}
    (unpack : h.unpack? = some (index, generation)) :
    (heap.setSlot h t).slots = heap.slots.setIfInBounds index.toNat t := by
  simp only [setSlot, unpack]

theorem free_setSlot : (heap.setSlot h t).free = heap.free := by
  unfold setSlot
  split <;> rfl

theorem setSlot_setSlot (heap : Heap α) (h : Handle) (s t : HeapSlot α) :
    (heap.setSlot h s).setSlot h t = heap.setSlot h t := by
  cases unpack : h.unpack? with
  | none => simp only [setSlot, unpack]
  | some place => simp only [setSlot, unpack, Array.setIfInBounds_setIfInBounds]

theorem getElem?_setSlot {index generation : UInt32}
    (unpack : h.unpack? = some (index, generation)) (slot : heap.slots[index.toNat]? = some s)
    (i : Nat) :
    (heap.setSlot h t).slots[i]? = if i = index.toNat then some t else heap.slots[i]? := by
  obtain ⟨bound, -⟩ := Array.getElem?_eq_some_iff.1 slot
  rw [slots_setSlot unpack, Array.getElem?_setIfInBounds]
  by_cases same : i = index.toNat
  · simp [same, bound]
  · rw [if_neg (Ne.symm same), if_neg same]

theorem getElem?_setSlot_self {index generation : UInt32}
    (unpack : h.unpack? = some (index, generation)) (slot : heap.slots[index.toNat]? = some s) :
    (heap.setSlot h t).slots[index.toNat]? = some t := by
  rw [getElem?_setSlot unpack slot, if_pos rfl]

theorem slot?_setSlot_self (found : heap.slot? h = some s) (same : t.generation = s.generation)
    (full : t.value.isSome) : (heap.setSlot h t).slot? h = some t := by
  obtain ⟨index, unpack, slot, -⟩ := slot?_eq_some found
  exact slot?_of_slots (same ▸ unpack) (getElem?_setSlot_self unpack slot) full

theorem slot?_setSlot_empty (found : heap.slot? h = some s) (empty : t.value = none) :
    (heap.setSlot h t).slot? h = none := by
  obtain ⟨index, unpack, slot, -⟩ := slot?_eq_some found
  exact slot?_of_empty unpack (getElem?_setSlot_self unpack slot) empty

/-- Another handle into the same slot carries another generation, so it finds nothing in it. -/
theorem slot?_setSlot_of_ne (found : heap.slot? h = some s)
    (keep : t.value.isSome → t.generation = s.generation) (ne : other ≠ h) :
    (heap.setSlot h t).slot? other = heap.slot? other := by
  obtain ⟨index, unpack, slot, -⟩ := slot?_eq_some found
  cases hother : other.unpack? with
  | none => rw [slot?_of_unpack?_none hother, slot?_of_unpack?_none hother]
  | some place =>
      obtain ⟨index', generation'⟩ := place
      rw [slot?_of_unpack? hother, slot?_of_unpack? hother]
      by_cases same : index' = index
      · subst same
        have differ : s.generation ≠ generation' := by
          rintro rfl
          exact ne ((Handle.pack_of_unpack? hother).symm.trans (Handle.pack_of_unpack? unpack))
        rw [getElem?_setSlot_self unpack slot, slot]
        simp only [Option.filter_some, beq_iff_eq, differ, Bool.and_eq_true, false_and, if_false]
        rw [if_neg]
        rintro ⟨eq, full⟩
        exact differ ((keep full).symm.trans eq)
      · have apart : index'.toNat ≠ index.toNat := fun eq => same (UInt32.toNat_inj.1 eq)
        rw [getElem?_setSlot unpack slot, if_neg apart]

theorem index_ne {index index' : UInt32} (found : heap.slot? h = some s)
    (found' : heap.slot? other = some t) (unpack : h.unpack? = some (index, s.generation))
    (unpack' : other.unpack? = some (index', t.generation)) (ne : h ≠ other) :
    index.toNat ≠ index'.toNat := by
  intro same
  cases UInt32.toNat_inj.1 same
  obtain ⟨i, hi, slot, -⟩ := slot?_eq_some found
  obtain ⟨j, hj, slot', -⟩ := slot?_eq_some found'
  cases unpack.symm.trans hi
  cases unpack'.symm.trans hj
  cases slot.symm.trans slot'
  exact ne ((Handle.pack_of_unpack? unpack).symm.trans (Handle.pack_of_unpack? unpack'))

theorem setSlot_comm {s' t' : HeapSlot α} (found : heap.slot? h = some s)
    (found' : heap.slot? other = some t) (ne : h ≠ other) :
    (heap.setSlot h s').setSlot other t' = (heap.setSlot other t').setSlot h s' := by
  obtain ⟨index, unpack, -, -⟩ := slot?_eq_some found
  obtain ⟨index', unpack', -, -⟩ := slot?_eq_some found'
  simp only [setSlot, unpack, unpack']
  rw [Array.setIfInBounds_comm _ _ (index_ne found found' unpack unpack' ne)]

end SetSlot

section Operations

theorem addRef_of_slot? (found : heap.slot? h = some s) :
    heap.addRef h = heap.setSlot h { s with refCount := countUp s.refCount } := by
  simp only [addRef, found]

theorem addRef_of_none (missing : heap.slot? h = none) : heap.addRef h = heap := by
  simp only [addRef, missing]

theorem free_addRef (heap : Heap α) (h : Handle) : (heap.addRef h).free = heap.free := by
  unfold addRef
  split
  · exact free_setSlot
  · rfl

theorem update_of_slot? {f : α → α} (found : heap.slot? h = some s) :
    heap.update h f = heap.setSlot h { s with value := s.value.map f } := by
  simp only [update, found]

theorem update_of_none {f : α → α} (missing : heap.slot? h = none) : heap.update h f = heap := by
  simp only [update, missing]

theorem isSome_of_slot? (found : heap.slot? h = some s) : s.value.isSome :=
  let ⟨_, _, _, full⟩ := slot?_eq_some found
  full

theorem slot?_addRef_self (heap : Heap α) (h : Handle) :
    (heap.addRef h).slot? h
      = (heap.slot? h).map fun s => { s with refCount := countUp s.refCount } := by
  cases found : heap.slot? h with
  | none => rw [addRef_of_none found, found, Option.map_none]
  | some s =>
      rw [addRef_of_slot? found, Option.map_some]
      exact slot?_setSlot_self found rfl (isSome_of_slot? found :)

theorem slot?_addRef_of_ne (ne : other ≠ h) :
    (heap.addRef h).slot? other = heap.slot? other := by
  cases found : heap.slot? h with
  | none => rw [addRef_of_none found]
  | some s =>
      rw [addRef_of_slot? found]
      exact slot?_setSlot_of_ne found (fun _ => rfl) ne

theorem slot?_update_self (heap : Heap α) (h : Handle) (f : α → α) :
    (heap.update h f).slot? h = (heap.slot? h).map fun s => { s with value := s.value.map f } := by
  cases found : heap.slot? h with
  | none => rw [update_of_none found, found, Option.map_none]
  | some s =>
      rw [update_of_slot? found, Option.map_some]
      exact slot?_setSlot_self found rfl (by simpa using isSome_of_slot? found)

theorem slot?_update_of_ne {f : α → α} (ne : other ≠ h) :
    (heap.update h f).slot? other = heap.slot? other := by
  cases found : heap.slot? h with
  | none => rw [update_of_none found]
  | some s =>
      rw [update_of_slot? found]
      exact slot?_setSlot_of_ne found (fun _ => rfl) ne

theorem addRef_comm (heap : Heap α) (h other : Handle) :
    (heap.addRef h).addRef other = (heap.addRef other).addRef h := by
  by_cases same : h = other
  · rw [same]
  · have kept : (heap.addRef other).slot? h = heap.slot? h := slot?_addRef_of_ne same
    have kept' : (heap.addRef h).slot? other = heap.slot? other :=
      slot?_addRef_of_ne (Ne.symm same)
    cases found : heap.slot? h with
    | none => rw [addRef_of_none found, addRef_of_none (kept.trans found)]
    | some s =>
        cases found' : heap.slot? other with
        | none => rw [addRef_of_none found', addRef_of_none (kept'.trans found')]
        | some t =>
            rw [addRef_of_slot? (kept.trans found), addRef_of_slot? (kept'.trans found'),
              addRef_of_slot? found, addRef_of_slot? found', setSlot_comm found found' same]

theorem isSome_slot?_addRef (heap : Heap α) (h other : Handle) :
    ((heap.addRef h).slot? other).isSome = (heap.slot? other).isSome := by
  by_cases same : other = h
  · rw [same, slot?_addRef_self, Option.isSome_map]
  · rw [slot?_addRef_of_ne same]

theorem map_refCount_slot?_update (heap : Heap α) (h other : Handle) (f : α → α) :
    ((heap.update h f).slot? other).map (·.refCount)
      = (heap.slot? other).map (·.refCount) := by
  by_cases same : other = h
  · rw [same, slot?_update_self, Option.map_map]
    rfl
  · rw [slot?_update_of_ne same]

theorem isSome_slot?_update (heap : Heap α) (h other : Handle) (f : α → α) :
    ((heap.update h f).slot? other).isSome = (heap.slot? other).isSome := by
  rw [← Option.isSome_map, map_refCount_slot?_update, Option.isSome_map]

inductive Released (heap : Heap α) (h : Handle) : Option α × Heap α → Prop
  | dead : heap.slot? h = none → Released heap h (none, heap)
  | shared {s : HeapSlot α} : heap.slot? h = some s → 0 < countDown s.refCount →
      Released heap h (none, heap.setSlot h { s with refCount := countDown s.refCount })
  | last {s : HeapSlot α} {value : α} {index : UInt32} : heap.slot? h = some s →
      countDown s.refCount = 0 → s.value = some value →
      h.unpack? = some (index, s.generation) → heap.slots[index.toNat]? = some s →
      Released heap h (some value,
        { heap.setSlot h ⟨s.generation + 1, 0, none⟩ with free := index :: heap.free })

theorem release_cases (heap : Heap α) (h : Handle) : Released heap h (heap.release h) := by
  cases found : heap.slot? h with
  | none =>
      have : heap.release h = (none, heap) := by
        unfold release
        split
        · rename_i eq
          rw [found] at eq
          cases eq
        · rfl
      exact this ▸ .dead found
  | some s =>
      obtain ⟨index, unpack, slot, full⟩ := slot?_eq_some found
      obtain ⟨value, hvalue⟩ := Option.isSome_iff_exists.1 full
      simp only [release, unpack, found]
      split
      · rename_i more
        exact .shared found more
      · rename_i none_left
        rw [hvalue]
        exact .last found (UInt32.toNat_inj.1 (by
          simpa [UInt32.lt_iff_toNat_lt] using none_left)) hvalue unpack slot

theorem slot?_free (found : heap.slot? h = some s) (free : List UInt32) :
    ({ heap.setSlot h ⟨s.generation + 1, 0, none⟩ with free } : Heap α).slot? h = none :=
  slot?_setSlot_empty found rfl

theorem slot?_release_of_ne (ne : other ≠ h) :
    (heap.release h).2.slot? other = heap.slot? other := by
  have released := release_cases heap h
  generalize heap.release h = result at released ⊢
  cases released with
  | dead missing => rfl
  | shared found more => exact slot?_setSlot_of_ne found (fun _ => rfl) ne
  | last found none_left hvalue unpack slot =>
      exact slot?_setSlot_of_ne (t := ⟨_, 0, none⟩) found (fun full => nomatch full) ne

theorem get?_addRef (heap : Heap α) (h other : Handle) :
    (heap.addRef h).get? other = heap.get? other := by
  by_cases same : other = h
  · subst same
    rw [get?, get?, slot?_addRef_self]
    cases heap.slot? other <;> rfl
  · rw [get?, get?, slot?_addRef_of_ne same]

theorem get?_update_self (heap : Heap α) (h : Handle) (f : α → α) :
    (heap.update h f).get? h = (heap.get? h).map f := by
  rw [get?, get?, slot?_update_self]
  cases heap.slot? h <;> rfl

theorem get?_update_of_ne {f : α → α} (ne : other ≠ h) :
    (heap.update h f).get? other = heap.get? other := by
  rw [get?, get?, slot?_update_of_ne ne]

/-- A release changes no object that outlives it. -/
theorem get?_of_get?_release {a : α} (found : (heap.release h).2.get? other = some a) :
    heap.get? other = some a := by
  by_cases same : other = h
  · subst same
    have released := release_cases heap other
    generalize heap.release other = result at released found
    cases released with
    | dead missing => exact found
    | @shared s found' more =>
        have kept := slot?_setSlot_self (t := { s with refCount := countDown s.refCount })
          found' rfl (isSome_of_slot? found' :)
        change (Heap.slot? _ other).bind _ = _ at found
        rw [kept] at found
        rw [get?, found']
        exact found
    | @last s value index found' none_left hvalue unpack slot =>
        have gone := slot?_free found' (index :: heap.free)
        rw [get?, gone] at found
        cases found
  · rwa [get?, slot?_release_of_ne same] at found

theorem free_allocate (heap : Heap α) (value : α) :
    (heap.allocate value).2.free = heap.free.tail := by
  unfold allocate
  split <;> rename_i eq <;> rw [eq]
  · rfl
  · rfl

theorem allocate_handle (heap : Heap α) (a b : α) : (heap.allocate a).1 = (heap.allocate b).1 := by
  unfold allocate
  split <;> rfl

theorem slots_allocate_either (heap : Heap α) (a b : α) (i : Nat) :
    (heap.allocate a).2.slots[i]? = (heap.allocate b).2.slots[i]? ∨
    ∃ generation, (heap.allocate a).2.slots[i]? = some ⟨generation, 1, some a⟩ ∧
      (heap.allocate b).2.slots[i]? = some ⟨generation, 1, some b⟩ := by
  unfold allocate
  split
  · rename_i index rest _
    simp only [Array.getElem?_setIfInBounds]
    split
    · split
      · exact .inr ⟨_, rfl, rfl⟩
      · exact .inl rfl
    · exact .inl rfl
  · simp only [Array.getElem?_push]
    split
    · exact .inr ⟨_, rfl, rfl⟩
    · exact .inl rfl

theorem slot?_allocate_either (heap : Heap α) (a b : α) (h : Handle) :
    (heap.allocate a).2.slot? h = (heap.allocate b).2.slot? h ∨
    ∃ generation, (heap.allocate a).2.slot? h = some ⟨generation, 1, some a⟩ ∧
      (heap.allocate b).2.slot? h = some ⟨generation, 1, some b⟩ := by
  cases unpack : h.unpack? with
  | none => exact .inl (by rw [slot?_of_unpack?_none unpack, slot?_of_unpack?_none unpack])
  | some place =>
      obtain ⟨index, generation⟩ := place
      rw [slot?_of_unpack? unpack, slot?_of_unpack? unpack]
      rcases heap.slots_allocate_either a b index.toNat with same | ⟨generation', first, second⟩
      · exact .inl (by rw [same])
      · rw [first, second, Option.filter_some, Option.filter_some]
        by_cases same : generation' = generation
        · simp [same]
        · simp [same]

/-- A new object disturbs at most the slot into which it is put. That one was free or did not exist,
and the handle that is given out names it. -/
theorem slot?_of_allocate {value : α} (found : (heap.allocate value).2.slot? h = some s) :
    heap.slot? h = some s ∨ h = (heap.allocate value).1 ∧
      ∃ index generation, h.unpack? = some (index, generation) ∧
        (index ∈ heap.free ∨ heap.slots[index.toNat]? = none) ∧
        s = ⟨generation, 1, some value⟩ := by
  obtain ⟨index, unpack, slot, full⟩ := slot?_eq_some found
  have old (same : heap.slots[index.toNat]? = some s) : heap.slot? h = some s :=
    slot?_of_slots unpack same full
  have named := Handle.pack_of_unpack? unpack
  unfold allocate at slot ⊢
  split at slot <;> rename_i free <;> rw [free]
  · rename_i vacant rest
    dsimp only at slot ⊢
    rw [Array.getElem?_setIfInBounds] at slot
    split at slot
    · rename_i same
      obtain rfl := UInt32.toNat_inj.1 same
      split at slot
      · cases slot
        exact .inr ⟨named.symm, vacant, _, unpack, .inl List.mem_cons_self, rfl⟩
      · cases slot
    · exact .inl (old slot)
  · dsimp only at slot ⊢
    rw [Array.getElem?_push] at slot
    split at slot
    · rename_i last
      cases slot
      have place : UInt32.ofNat heap.slots.size = index := by rw [← last, UInt32.ofNat_toNat]
      have unmade : heap.slots[index.toNat]? = none := by simp [last]
      exact .inr ⟨by rw [place, named], index, _, unpack, .inr unmade, rfl⟩
    · exact .inl (old slot)

end Operations

end Heap
end TypeHost
