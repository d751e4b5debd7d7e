import TypeHost.Proofs.Accessor
import TypeHost.Proofs.Host.Inheritance
import TypeHost.Proofs.Host.Lasting

/-! Checked access. The guards look at the type as it is recorded now, the memory was taken when
the instance was made; they agree because a record never changes and a handle is never given out
twice. -/
namespace TypeHost

theorem RegisteredType.room_of_fits {t : RegisteredType} {size : Nat} (nitems : UInt64)
    (fits : (size : Int) ≤ t.basicsize.toInt) :
    (LayoutMode.ofLegacy t.legacy).structOffset + size ≤ t.allocation nitems := by
  have struct : size ≤ t.payload nitems := by
    unfold payload
    omega
  cases legacy : t.legacy with
  | true =>
      simp only [allocation, legacy, LayoutMode.ofLegacy, LayoutMode.structOffset, if_true]
      omega
  | false =>
      simp only [allocation, legacy, LayoutMode.ofLegacy, LayoutMode.structOffset]
      exact Nat.add_le_add_left struct headSize

theorem Instance.size_fresh (ty : Handle) (legacy : Bool) (size : Nat) :
    (Instance.fresh ty legacy size).memory.size = size := by
  rw [Instance.fresh, Memory.writeType, Memory.writeRefCount, Memory.size_write, Memory.size_write]

namespace Host

variable {host before after : Host} {h other ty : Handle} {i : Instance} {t : RegisteredType}

theorem Fades.instance? (fades : before.Fades after) (found : after.instance? h = some i) :
    ∃ j, before.instance? h = some j ∧ j.type = i.type ∧ j.mode = i.mode ∧
      j.memory.size = i.memory.size := by
  obtain ⟨old, found', same⟩ := fades.objects h _ (instance?_eq_some.1 found)
  obtain ⟨j, rfl, alike⟩ := HostObject.blank_eq_inst.1 same
  exact ⟨j, instance?_eq_some.2 found', alike⟩

/-- Every instance was made for its type as it is now, if that still lives. -/
structure Fitted (host : Host) : Prop where
  issued : ∀ h i, host.instance? h = some i → host.heap.Issued i.type
  shaped : ∀ h i t, host.instance? h = some i → host.type? i.type = some t →
    i.mode = .ofLegacy t.legacy ∧ ∃ nitems, i.memory.size = t.allocation nitems

theorem Fitted.fade (fitted : before.Fitted) (fades : before.Fades after)
    (older : ∀ i, before.heap.age i ≤ after.heap.age i) : after.Fitted := by
  refine ⟨?_, ?_⟩
  · intro h i found
    obtain ⟨j, found', type, -, -⟩ := fades.instance? found
    exact (type ▸ fitted.issued h j found').wanes fades.wanes older
  · intro h i t found typed
    obtain ⟨j, found', type, mode, size⟩ := fades.instance? found
    rw [← mode, ← size]
    exact fitted.shaped h j t found' (type ▸ fades.type? typed)

theorem Fitted.gain {call : HostCall} {object : HostObject} (fitted : before.Fitted)
    (makes : before.Makes call object) (gains : before.Gains after object other) :
    after.Fitted := by
  -- The type of an instance, new or old, had been issued before.
  have made (h : Handle) (i : Instance) (found : after.instance? h = some i) :
      before.heap.Issued i.type ∧ ∀ t, before.type? i.type = some t →
        i.mode = .ofLegacy t.legacy ∧ ∃ nitems, i.memory.size = t.allocation nitems := by
    rcases gains.instance?_cases found with rfl | found'
    · cases makes with
      | @inst ty nitems t typed small =>
          refine ⟨issued_of_type? typed, ?_⟩
          intro t' typed'
          cases typed.symm.trans typed'
          exact ⟨rfl, nitems, Instance.size_fresh _ _ _⟩
    · exact ⟨fitted.issued h i found', fun t typed => fitted.shaped h i t found' typed⟩
  refine ⟨fun h i found => gains.issued _ (made h i found).1, ?_⟩
  intro h i t found typed
  obtain ⟨issued, shaped⟩ := made h i found
  exact shaped t (gains.type?_of_issued issued ▸ typed)

theorem New.fitted (new : host.New) : host.Fitted := by
  have none (h : Handle) (i : Instance) : host.instance? h ≠ some i := by
    intro found
    obtain ⟨t, same⟩ := new.types h _ (instance?_eq_some.1 found)
    cases same
  exact ⟨fun h i found => absurd found (none h i), fun h i t found => absurd found (none h i)⟩

theorem Lasting.fitted (lasting : host.Lasting) : host.Fitted :=
  lasting.induct (fun _ _ _ created small => (new_of_create created small).fitted)
    (fun _ _ fades older fitted => fitted.fade fades older)
    fun _ _ _ _ _ makes gains fitted => fitted.gain makes gains

/-- The guards that checked access passes, and the cast it ends with. -/
theorem checkedFromHandle_eq_ok {a : Accessor} {location : Location} :
    a.checkedFromHandle host.context h ty = Except.ok location ↔
      ∃ actual t, host.typeOf h = some actual ∧ host.isSubtype actual ty = true ∧
        host.type? actual = some t ∧ t.legacy = a.mode.isLegacy ∧
        (a.struct.size : Int) ≤ t.basicsize.toInt ∧
        a.fromHandle host.context h = some location := by
  have typeOf : host.context.typeOf h = host.typeOf h := rfl
  unfold Accessor.checkedFromHandle
  simp only [typeOf, bind, pure, Accessor.isLegacy_mode]
  cases typed : host.typeOf h with
  | none => simp
  | some actual =>
      have subtype : host.context.isSubtype actual ty = host.isSubtype actual ty := rfl
      have typeInfo : host.context.typeInfo actual = (host.type? actual).map (·.info) := rfl
      simp only [subtype, typeInfo]
      cases inherits : host.isSubtype actual ty with
      | false => simp [inherits]
      | true =>
          cases found : host.type? actual with
          | none => simp [found]
          | some t =>
              have legacy : t.info.legacy = t.legacy := rfl
              have fits : a.struct.fitsIn t.info = true ↔
                  (a.struct.size : Int) ≤ t.basicsize.toInt :=
                a.struct.fitsIn_iff t.info
              simp only [Option.map_some, legacy]
              by_cases same : t.legacy = a.cast.isLegacy
              · cases roomy : a.struct.fitsIn t.info with
                | false =>
                    have small : ¬ (a.struct.size : Int) ≤ t.basicsize.toInt := by
                      rw [← fits, roomy]
                      exact Bool.false_ne_true
                    simp [found, same, small]
                | true =>
                    cases cast : a.fromHandle host.context h with
                    | none => simp [same]
                    | some pointer =>
                        simp only [same, bne_self_eq_false, Bool.not_true, Bool.false_eq_true,
                          if_false]
                        constructor
                        · rintro ⟨⟩
                          exact ⟨actual, t, rfl, inherits, found, same, fits.1 roomy, rfl⟩
                        · rintro ⟨_, _, _, _, _, _, _, ⟨⟩⟩
                          rfl
              · simp [found, same]

theorem fromHandle_eq_some {a : Accessor} {location : Location} :
    a.fromHandle host.context h = some location ↔ ∃ i, host.instance? h = some i ∧
      location = ⟨h, if a.mode.isLegacy then 0 else i.structOffset⟩ := by
  rw [a.fromHandle_eq_cast]
  generalize a.mode = kind
  cases kind with
  | pure =>
      change (host.instance? h).map (fun i => Location.mk h i.structOffset) = some location ↔ _
      rw [Option.map_eq_some_iff]
      exact exists_congr fun i => and_congr_right fun _ => eq_comm
  | legacy =>
      change (host.instance? h).map (fun _ => Location.mk h 0) = some location ↔ _
      rw [Option.map_eq_some_iff]
      exact exists_congr fun i => and_congr_right fun _ => eq_comm

theorem typeOf_instance (here : host.instance? h = some i) : host.typeOf h = some i.type := by
  rw [typeOf, instance?_eq_some.1 here, Option.map_some]

/-- Access is granted exactly to instances of the right type, mode and size, and then stays within
their memory and, for a pure struct, behind their header. -/
theorem Lasting.checkedFromHandle_exact (lasting : host.Lasting) (a : Accessor) (h ty : Handle) :
    ((∃ location, a.checkedFromHandle host.context h ty = Except.ok location) ↔
      ∃ actual t, (host.instance? h).isSome ∧ host.typeOf h = some actual ∧
        host.isSubtype actual ty = true ∧ host.type? actual = some t ∧
        t.legacy = a.mode.isLegacy ∧ (a.struct.size : Int) ≤ t.basicsize.toInt) ∧
    ∀ location, a.checkedFromHandle host.context h ty = Except.ok location →
      ∃ i, host.instance? h = some i ∧ location.object = h ∧ location.offset = i.structOffset ∧
        location.offset = (if a.mode.isLegacy then 0 else 16) ∧
        location.offset + a.struct.size ≤ i.memory.size ∧
        (a.mode = .pure → ∀ byte, byte < headSize →
          ¬ (location.offset ≤ byte ∧ byte < location.offset + a.struct.size)) := by
  refine ⟨⟨?_, ?_⟩, ?_⟩
  · rintro ⟨location, granted⟩
    obtain ⟨actual, t, typed, inherits, found, mode, fits, cast⟩ :=
      checkedFromHandle_eq_ok.1 granted
    obtain ⟨i, here, -⟩ := fromHandle_eq_some.1 cast
    exact ⟨actual, t, here ▸ rfl, typed, inherits, found, mode, fits⟩
  · rintro ⟨actual, t, here, typed, inherits, found, mode, fits⟩
    obtain ⟨i, here⟩ := Option.isSome_iff_exists.1 here
    exact ⟨_, checkedFromHandle_eq_ok.2
      ⟨actual, t, typed, inherits, found, mode, fits, fromHandle_eq_some.2 ⟨i, here, rfl⟩⟩⟩
  · rintro location granted
    obtain ⟨actual, t, typed, inherits, found, mode, fits, cast⟩ :=
      checkedFromHandle_eq_ok.1 granted
    obtain ⟨i, here, rfl⟩ := fromHandle_eq_some.1 cast
    cases typed.symm.trans (typeOf_instance here)
    obtain ⟨shape, nitems, size⟩ := lasting.fitted.shaped h i t here found
    have room := t.room_of_fits nitems fits
    rw [← shape, ← size] at room
    have offset : (if a.mode.isLegacy then 0 else i.structOffset) = i.structOffset := by
      rw [← mode, Instance.structOffset, shape]
      cases t.legacy <;> rfl
    have start : i.structOffset = if a.mode.isLegacy then 0 else 16 := by
      rw [← mode, Instance.structOffset, shape]
      cases t.legacy <;> rfl
    dsimp only
    rw [offset]
    refine ⟨i, here, rfl, rfl, start, room, ?_⟩
    intro pure byte low
    rw [pure] at start
    change i.structOffset = headSize at start
    omega

/-- An instance of the type of tuples, which is legacy and has a struct of 24 bytes. -/
theorem checkedFromHandle_exact_tupleType :
    let host := (core .refCounting).run [.call (.newInstance tupleType 0)]
    let a : Accessor := ⟨⟨"Pair", 24, true⟩, .legacy⟩
    host.Lasting ∧ ∃ location i,
      a.checkedFromHandle host.context (.pack 3 0) tupleType = Except.ok location ∧
      host.instance? (.pack 3 0) = some i ∧ location.offset + 24 ≤ i.memory.size := by
  intro host a
  have lasting : host.Lasting := ⟨.refCounting, [], _, [.call (.newInstance tupleType 0)], rfl, rfl,
    by decide, fun i => Nat.lt_of_le_of_lt (frees_le_length _ _ i) (by decide)⟩
  have found : host.type? tupleType = some (BuiltinType.register
      { name := "tuple", basicsize := 24, itemsize := 8, legacy := true } [objectType]) := rfl
  have exact := lasting.checkedFromHandle_exact a (.pack 3 0) tupleType
  obtain ⟨location, granted⟩ := exact.1.2
    ⟨tupleType, _, rfl, rfl, isSubtype_self found, found, rfl, by decide⟩
  obtain ⟨i, here, -, -, -, room, -⟩ := exact.2 location granted
  exact ⟨lasting, location, i, granted, here, room⟩

end Host
end TypeHost
