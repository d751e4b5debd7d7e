import TypeHost.Proofs.Host.Constancy
import TypeHost.Proofs.Host.Sizes

/-! Where the trailing items of an instance lie. There is memory for all of them, and in front of a
pure struct the header is out of their way. A legacy struct begins with the header: its items stay
clear of it only if its fixed part is as large, for what a small struct is short of comes last. -/
namespace TypeHost

variable {host start : Host} {h ty : Handle} {t : RegisteredType} {i : Instance} {nitems : UInt64}
  {place length : Nat} {bytes : List UInt8} {gcMode : GcMode} {builtins : List BuiltinType}
  {first : List HostAction}

namespace RegisteredType

structure InItems (t : RegisteredType) (nitems : UInt64) (place length : Nat) : Prop where
  behind : t.basicsize.toInt ≤ place
  within : (place + length : Int) ≤ t.need nitems

/-- The items of a legacy struct, if they take any room, come behind a fixed part that covers the
header. -/
def ItemsClear (t : RegisteredType) (nitems : UInt64) : Prop :=
  t.legacy = true → 16 ≤ t.basicsize.toInt ∨ t.itemsize.toInt * nitems.toNat = 0

theorem InItems.fits (items : t.InItems nitems place length) (sized : t.Sized) :
    (LayoutMode.ofLegacy t.legacy).structOffset + place + length ≤ t.allocation nitems := by
  have struct := sized.struct nitems
  have offset := t.structOffset_le_allocation nitems
  have within := items.within
  have room : t.need nitems ≤ t.structNeed nitems := by
    rw [structNeed]
    split
    · exact Int.le_max_left _ _
    · exact Int.le_refl _
  omega

/-- The condition is exact: without it the first item begins inside the header. -/
theorem Sized.itemsClear_iff (sized : t.Sized) : t.ItemsClear nitems ↔
    ∀ place length, t.InItems nitems place length → 0 < length →
      headSize ≤ (LayoutMode.ofLegacy t.legacy).structOffset + place := by
  constructor
  · intro clear place length items some_byte
    obtain ⟨behind, within⟩ := items
    rw [need] at within
    cases mode : t.legacy with
    | false => exact Nat.le_add_right _ _
    | true =>
        rcases clear mode with covered | none
        · rw [headSize]
          omega
        · omega
  · intro apart legacy
    rw [legacy] at apart
    by_contra! small
    have basic := Int32.le_iff_toInt_le.1 sized.1
    have item := Int32.le_iff_toInt_le.1 sized.2
    rw [Int32.toInt_zero] at basic item
    have nonneg := Int.mul_nonneg item (Int.natCast_nonneg nitems.toNat)
    have covers : headSize ≤ 0 + t.basicsize.toInt.toNat := by
      refine apart _ 1 ⟨?_, ?_⟩ Nat.one_pos
      · exact Int.self_le_toNat _
      · rw [need]
        omega
    rw [headSize] at covers
    omega

end RegisteredType

namespace Host

theorem writeStruct_within (here : host.instance? h = some i)
    (within : i.structOffset + place + bytes.length ≤ i.memory.size) :
    ∃ next, host.writeStruct h place bytes = .ok next ∧
      next.readStruct h place bytes.length = .ok bytes ∧
      (headSize ≤ i.structOffset + place ∨ bytes = [] → next.head? h = host.head? h) := by
  let written : Instance := { i with memory := i.memory.write (i.structOffset + place) bytes }
  refine ⟨{ host with heap := host.heap.update h fun _ => .inst written }, ?_, ?_⟩
  · simp only [writeStruct, here, writeMemory, if_pos within]
    rfl
  have there : Host.instance?
      { host with heap := host.heap.update h fun _ => .inst written } h = some written := by
    rw [instance?_eq_some, get?, Heap.get?_update_self]
    exact congrArg (Option.map _) (instance?_eq_some.1 here)
  have size : written.structSize = i.structSize := by
    rw [Instance.structSize, Memory.size_write]
    rfl
  constructor
  · have room : place + bytes.length ≤ written.structSize := by
      rw [size, Instance.structSize]
      omega
    rw [readStruct, there]
    dsimp only
    rw [if_pos room]
    exact congrArg Except.ok (i.memory.read_write_self _ _)
  · intro spared
    rw [head?, head?, there, here, Option.map_some, Option.map_some]
    exact congrArg some (i.memory.head_write_of_spared spared)

/-- An instance has room for its items: what is written over them is read back, for as long as it
lives. They stay clear of its header if its type is pure, and that of a legacy type exactly if there
are none or the fixed part of its struct covers the header. -/
theorem items_have_room (created : create gcMode builtins = .ok start)
    (found : (start.run first).type? ty = some t)
    (made : ((start.run first).perform (.newInstance ty nitems)).1 = .made h) :
    ∃ i : Instance, (start.run first).store (.inst i)
        = (h, ((start.run first).perform (.newInstance ty nitems)).2) ∧
      (∀ place length, t.InItems nitems place length →
        i.structOffset + place + length ≤ i.memory.size) ∧
      (t.ItemsClear nitems ↔ ∀ place length, t.InItems nitems place length → 0 < length →
        headSize ≤ i.structOffset + place) ∧
      ∀ later, let actions := first ++ .call (.newInstance ty nitems) :: later
        let host := start.run actions
        host.heap.slotCount < 0xFFFFFFFF → (∀ i, start.frees actions i < 0x100000000) →
        host.heap.contains h = true →
        ∀ place bytes, t.InItems nitems place bytes.length →
          ∃ next, host.writeStruct h place bytes = .ok next ∧
            next.readStruct h place bytes.length = .ok bytes ∧
            (t.ItemsClear nitems → next.head? h = host.head? h) := by
  have sized := Reachable.sized ⟨gcMode, builtins, start, first, created, rfl⟩ found
  obtain ⟨object, makes, handle, stored⟩ := store_of_made made
  cases makes with | inst found' small =>
  cases found.symm.trans found'
  refine ⟨_, Prod.ext handle stored.symm, ?_, sized.itemsClear_iff, ?_⟩
  · intro place length items
    rw [Instance.size_fresh]
    exact items.fits sized
  intro later actions host room few live place bytes items
  have new := new_of_create created (room_of_run room)
  obtain ⟨i, here, -, mode, size⟩ :=
    instance_of_made new.sound room (new.aged few) found made live
  have offset : i.structOffset = (LayoutMode.ofLegacy t.legacy).structOffset :=
    congrArg LayoutMode.structOffset mode
  have within : i.structOffset + place + bytes.length ≤ i.memory.size := by
    rw [offset, size, Instance.size_fresh]
    exact items.fits sized
  obtain ⟨next, wrote, reads, spares⟩ := writeStruct_within here within
  refine ⟨next, wrote, reads, fun clear => spares ?_⟩
  rcases Nat.eq_zero_or_pos bytes.length with none | some_byte
  · exact .inr (List.length_eq_zero_iff.1 none)
  · exact .inl (offset ▸ sized.itemsClear_iff.1 clear place bytes.length items some_byte)

/-- A legacy type whose struct is the header and then items: they fill up with ones, the header does
not see it. -/
theorem items_have_room_legacy :
    let row : TypeSpec := { name := "m.Row", basicsize := 16, itemsize := 8, legacy := true }
    let first : List HostAction := [.call (.typeFromSpec row [])]
    let host := (core .refCounting).run
      (first ++ [.call (.newInstance (.pack 3 0) 2), .call (.addRef (.pack 4 0))])
    ∃ next, host.writeStruct (.pack 4 0) 16 (List.replicate 16 0xff) = .ok next ∧
      next.readStruct (.pack 4 0) 16 16 = .ok (List.replicate 16 0xff) ∧
      next.head? (.pack 4 0) = some ⟨2, .pack 3 0⟩ := by
  intro row first host
  have created : create .refCounting [] = .ok (core .refCounting) := rfl
  have typed : (((core .refCounting).run first).type? (.pack 3 0)).map
      (fun t => (t.basicsize, t.itemsize)) = some (16, 8) := by decide
  obtain ⟨t, found, sizes⟩ := Option.map_eq_some_iff.1 typed
  rw [Prod.mk.injEq] at sizes
  obtain ⟨basic, item⟩ := sizes
  have made : (((core .refCounting).run first).perform (.newInstance (.pack 3 0) 2)).1
      = .made (.pack 4 0) := by decide
  have items : t.InItems 2 16 16 := by
    refine ⟨?_, ?_⟩
    · rw [basic]
      decide
    · rw [RegisteredType.need, basic, item]
      decide
  have clear : t.ItemsClear 2 := by
    intro legacy
    rw [basic]
    exact .inl (by decide)
  obtain ⟨i, -, -, -, lasts⟩ := items_have_room created found made
  obtain ⟨next, wrote, reads, spares⟩ := lasts [.call (.addRef (.pack 4 0))] (by decide)
    (fun i => Nat.lt_of_le_of_lt (frees_le_length _ _ i) (by decide)) (by decide) 16
    (List.replicate 16 0xff) items
  refine ⟨next, wrote, reads, (spares clear).trans ?_⟩
  decide

/-- The items of a legacy type that declares no struct lie over the header: sixteen bytes are all
that the instance has, for the header and for two items, and what is written over the items is its
count and its type from then on. -/
theorem items_over_header :
    let row : TypeSpec := { name := "row", itemsize := 8, legacy := true }
    let host := (core .refCounting).run [.call (.typeFromSpec row [])]
    let filled := host.run [.call (.newInstance (.pack 3 0) 2),
      .write (.pack 4 0) 0 (List.replicate 16 0xff)]
    (∃ t, host.type? (.pack 3 0) = some t ∧ t.InItems 2 0 16) ∧
      (host.perform (.newInstance (.pack 3 0) 2)).1 = .made (.pack 4 0) ∧
      (host.perform (.newInstance (.pack 3 0) 2)).2.instanceSize (.pack 4 0) = some 16 ∧
      (host.perform (.newInstance (.pack 3 0) 2)).2.head? (.pack 4 0) = some ⟨1, .pack 3 0⟩ ∧
      filled.head? (.pack 4 0) = some ⟨-1, ⟨0xffffffffffffffff⟩⟩ := by
  intro row host filled
  have typed : (host.type? (.pack 3 0)).map (fun t => (t.basicsize, t.itemsize)) = some (0, 8) := by
    decide
  obtain ⟨t, found, sizes⟩ := Option.map_eq_some_iff.1 typed
  rw [Prod.mk.injEq] at sizes
  refine ⟨⟨t, found, ?_, ?_⟩, by decide, by decide, by decide, by decide⟩
  · rw [sizes.1]
    decide
  · rw [RegisteredType.need, sizes.1, sizes.2]
    decide

end Host
end TypeHost
