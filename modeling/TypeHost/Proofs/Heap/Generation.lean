import TypeHost.Proofs.Heap.Representation

/-! Generations. A slot grows older by one each time it is freed, and until its generation wraps
around no handle is given out twice. -/
namespace TypeHost

variable {α : Type}

/-- What can become of a slot while nothing is allocated. -/
inductive HeapSlot.Ages (s t : HeapSlot α) : Prop
  | stays : t.generation = s.generation → t.value.isSome = s.value.isSome → Ages s t
  | freed : s.value.isSome → t.value = none → t.generation = s.generation + 1 → Ages s t

theorem HeapSlot.Ages.trans {s t u : HeapSlot α} (first : s.Ages t) (second : t.Ages u) :
    s.Ages u := by
  cases first with
  | stays same full =>
      cases second with
      | stays same' full' => exact .stays (same'.trans same) (full'.trans full)
      | freed full' empty older => exact .freed (full ▸ full') empty (same ▸ older)
  | freed full empty older =>
      cases second with
      | stays same' full' =>
          have : u.value = none := by simpa [empty] using full'
          exact .freed full this (same'.trans older)
      | freed full' => simp [empty] at full'

namespace Heap

variable {heap before after : Heap α} {h other : Handle} {s t : HeapSlot α}

/-- Some slots were freed, each at most once, and none was filled or made. -/
structure Wanes (before after : Heap α) : Prop where
  size : after.slots.size = before.slots.size
  ages : ∀ (i : Nat) (s : HeapSlot α), before.slots[i]? = some s →
    ∃ t, after.slots[i]? = some t ∧ s.Ages t

theorem Wanes.refl (heap : Heap α) : heap.Wanes heap :=
  ⟨rfl, fun _ s slot => ⟨s, slot, .stays rfl rfl⟩⟩

theorem Wanes.trans {last : Heap α} (first : before.Wanes after) (second : after.Wanes last) :
    before.Wanes last := by
  refine ⟨second.size.trans first.size, ?_⟩
  intro i s slot
  obtain ⟨t, slot', ages⟩ := first.ages i s slot
  obtain ⟨u, slot'', ages'⟩ := second.ages i t slot'
  exact ⟨u, slot'', ages.trans ages'⟩

theorem wanes_setSlot (found : heap.slot? h = some s) (ages : s.Ages t) :
    heap.Wanes (heap.setSlot h t) := by
  obtain ⟨index, unpack, slot, -⟩ := slot?_eq_some found
  refine ⟨by rw [slots_setSlot unpack, Array.size_setIfInBounds], ?_⟩
  intro i s' slot'
  rw [getElem?_setSlot unpack slot]
  split
  · rename_i same
    rw [same, slot] at slot'
    cases slot'
    exact ⟨t, rfl, ages⟩
  · exact ⟨s', slot', .stays rfl rfl⟩

theorem wanes_addRef (heap : Heap α) (h : Handle) : heap.Wanes (heap.addRef h) := by
  cases found : heap.slot? h with
  | none =>
      rw [addRef_of_none found]
      exact .refl heap
  | some s =>
      rw [addRef_of_slot? found]
      exact wanes_setSlot found (.stays rfl rfl)

theorem wanes_update (heap : Heap α) (h : Handle) (f : α → α) : heap.Wanes (heap.update h f) := by
  cases found : heap.slot? h with
  | none =>
      rw [update_of_none found]
      exact .refl heap
  | some s =>
      rw [update_of_slot? found]
      exact wanes_setSlot found (.stays rfl (by simp))

theorem wanes_release (heap : Heap α) (h : Handle) : heap.Wanes (heap.release h).2 := by
  have released := release_cases heap h
  generalize heap.release h = result at released ⊢
  cases released with
  | dead missing => exact .refl heap
  | shared found more => exact wanes_setSlot found (.stays rfl rfl)
  | last found none_left hvalue unpack slot =>
      have freed := wanes_setSlot (t := ⟨_, 0, none⟩) found
        (.freed (isSome_of_slot? found) rfl rfl)
      exact ⟨freed.size, freed.ages⟩

def occupied (heap : Heap α) (i : Nat) : Bool := heap.slots[i]?.any (·.value.isSome)

/-- The generation of a slot; one not yet made has none behind it. -/
def age (heap : Heap α) (i : Nat) : UInt32 := heap.slots[i]?.elim 0 (·.generation)

/-- One more for each slot that held an object and holds none now. -/
def AgesByFrees (before after : Heap α) : Prop :=
  ∀ i, after.age i = before.age i + if before.occupied i && !after.occupied i then 1 else 0

theorem Wanes.agesByFrees (wanes : before.Wanes after) : before.AgesByFrees after := by
  intro i
  unfold age occupied
  cases slot : before.slots[i]? with
  | none =>
      have : after.slots[i]? = none := by
        rw [Array.getElem?_eq_none_iff] at slot ⊢
        exact wanes.size ▸ slot
      simp [this]
  | some s =>
      obtain ⟨t, slot', ages⟩ := wanes.ages i s slot
      rw [slot']
      cases ages with
      | stays same full =>
          simp only [Option.any_some, Option.elim_some, same, full, Bool.and_not_self]
          simp
      | freed full empty older => simp [full, empty, older]

/-- A slot whose object is freed is one generation older than the handle of the object. -/
theorem Wanes.age_of_freed (wanes : before.Wanes after) {index generation : UInt32}
    (unpack : h.unpack? = some (index, generation)) (live : (before.slot? h).isSome)
    (freed : after.slot? h = none) : after.age index.toNat = generation + 1 := by
  obtain ⟨s, found⟩ := Option.isSome_iff_exists.1 live
  obtain ⟨index', unpack', slot, full⟩ := slot?_eq_some found
  cases unpack.symm.trans unpack'
  obtain ⟨t, slot', ages⟩ := wanes.ages _ s slot
  cases ages with
  | stays same full' =>
      have still := slot?_of_slots (same ▸ unpack) slot' (full' ▸ full)
      cases freed.symm.trans still
  | freed _ _ older => rw [age, slot', Option.elim_some, older]

theorem getElem?_addRef (heap : Heap α) (h : Handle) (i : Nat) :
    ∃ count, (heap.addRef h).slots[i]? = heap.slots[i]?.map ({ · with refCount := count }) := by
  have unchanged : ∃ count, heap.slots[i]? = heap.slots[i]?.map ({ · with refCount := count }) := by
    cases heap.slots[i]? with
    | none => exact ⟨0, rfl⟩
    | some s => exact ⟨s.refCount, rfl⟩
  cases found : heap.slot? h with
  | none => rwa [addRef_of_none found]
  | some s =>
      obtain ⟨index, unpack, slot, -⟩ := slot?_eq_some found
      rw [addRef_of_slot? found, getElem?_setSlot unpack slot]
      split
      · rename_i same
        rw [same, slot]
        exact ⟨_, rfl⟩
      · exact unchanged

theorem age_addRef (heap : Heap α) (h : Handle) (i : Nat) :
    (heap.addRef h).age i = heap.age i := by
  obtain ⟨count, slot⟩ := heap.getElem?_addRef h i
  rw [age, age, slot]
  cases heap.slots[i]? <;> rfl

theorem occupied_addRef (heap : Heap α) (h : Handle) (i : Nat) :
    (heap.addRef h).occupied i = heap.occupied i := by
  obtain ⟨count, slot⟩ := heap.getElem?_addRef h i
  rw [occupied, occupied, slot]
  cases heap.slots[i]? <;> rfl

namespace Placed

variable {value : α} {result : Handle × Heap α} {index generation : UInt32}

theorem age (placed : heap.Placed value result index generation) (i : Nat) :
    result.2.age i = heap.age i := by
  unfold Heap.age
  by_cases same : i = index.toNat
  · subst same
    rw [placed.filled]
    cases slot : heap.slots[index.toNat]? with
    | none => exact placed.unmade slot
    | some s => exact (placed.vacant s slot).1.symm
  · rw [placed.others i same]

theorem occupied (placed : heap.Placed value result index generation) {i : Nat}
    (full : heap.occupied i) : result.2.occupied i := by
  unfold Heap.occupied at full ⊢
  by_cases same : i = index.toNat
  · subst same
    rw [placed.filled]
    rfl
  · rwa [placed.others i same]

theorem slot?_self (placed : heap.Placed value result index generation) :
    result.2.slot? result.1 = some ⟨generation, 1, some value⟩ :=
  slot?_of_slots placed.unpack placed.filled rfl

theorem slot?_of_ne (placed : heap.Placed value result index generation)
    (ne : other ≠ result.1) : result.2.slot? other = heap.slot? other := by
  cases hother : other.unpack? with
  | none => rw [slot?_of_unpack?_none hother, slot?_of_unpack?_none hother]
  | some place =>
      obtain ⟨index', generation'⟩ := place
      rw [slot?_of_unpack? hother, slot?_of_unpack? hother]
      by_cases same : index' = index
      · subst same
        have differ : generation ≠ generation' := by
          rintro rfl
          exact ne ((Handle.pack_of_unpack? hother).symm.trans
            (Handle.pack_of_unpack? placed.unpack))
        rw [placed.filled]
        cases slot : heap.slots[index'.toNat]? with
        | none => simp [differ]
        | some s =>
            have empty : s.value = none := (placed.vacant s slot).2
            rw [Option.filter_some_neg (by simp [differ]), Option.filter_some_neg (by simp [empty])]
      · rw [placed.others _ fun eq => same (UInt32.toNat_inj.1 eq)]

end Placed

/-- A handle that some occupant of its slot has carried: an older one, or the present one. -/
def Issued (heap : Heap α) (h : Handle) : Prop :=
  ∃ index generation s, h.unpack? = some (index, generation) ∧
    heap.slots[index.toNat]? = some s ∧
    (generation < s.generation ∨ generation = s.generation ∧ s.value.isSome)

theorem issued_of_slot? (found : heap.slot? h = some s) : heap.Issued h :=
  let ⟨index, unpack, slot, full⟩ := slot?_eq_some found
  ⟨index, s.generation, s, unpack, slot, .inr ⟨rfl, full⟩⟩

/-- Freeing makes a handle stale for good as long as no generation wraps around. -/
theorem Issued.wanes (issued : before.Issued h) (wanes : before.Wanes after)
    (older : ∀ i, before.age i ≤ after.age i) : after.Issued h := by
  obtain ⟨index, generation, s, unpack, slot, carried⟩ := issued
  obtain ⟨t, slot', ages⟩ := wanes.ages _ s slot
  refine ⟨index, generation, t, unpack, slot', ?_⟩
  cases ages with
  | stays same full => rwa [same, full]
  | freed full empty next =>
      have := older index.toNat
      simp only [age, slot, slot', Option.elim_some, next] at this
      rw [next]
      refine .inl ?_
      have upper : generation ≤ s.generation := by
        rcases carried with lt | ⟨eq, -⟩
        · exact UInt32.le_of_lt lt
        · exact UInt32.le_of_eq eq
      rw [UInt32.lt_iff_toNat_lt]
      rw [UInt32.le_iff_toNat_le] at this upper
      have := s.generation.toNat_lt
      rw [UInt32.toNat_add] at *
      simp at *
      omega

namespace Placed

variable {value : α} {result : Handle × Heap α} {index generation : UInt32}

theorem not_issued (placed : heap.Placed value result index generation) :
    ¬ heap.Issued result.1 := by
  rintro ⟨index', generation', s, unpack, slot, carried⟩
  cases placed.unpack.symm.trans unpack
  obtain ⟨same, empty⟩ := placed.vacant s slot
  rcases carried with lt | ⟨-, full⟩
  · exact UInt32.lt_irrefl _ (same ▸ lt)
  · simp [empty] at full

theorem issued (placed : heap.Placed value result index generation) (issued : heap.Issued h) :
    result.2.Issued h := by
  obtain ⟨index', generation', s, unpack, slot, carried⟩ := issued
  by_cases same : index'.toNat = index.toNat
  · rw [same] at slot
    obtain ⟨age, empty⟩ := placed.vacant s slot
    refine ⟨index', generation', _, unpack, same ▸ placed.filled, .inl ?_⟩
    rcases carried with lt | ⟨-, full⟩
    · exact age ▸ lt
    · simp [empty] at full
  · exact ⟨index', generation', s, unpack, placed.others _ same ▸ slot, carried⟩

end Placed

end Heap
end TypeHost
