import TypeHost.Proofs.Host.CheckedAccess
import TypeHost.Proofs.Host.Constancy
import TypeHost.Proofs.Host.Plan
import TypeHost.Proofs.Layout

/-! A struct and the type registered for it. The spec that is built from a struct asks for the size
and the mode of the struct, and a registration that passes its checks grants both; so the accessor
of the struct reaches every instance of the type for as long as both live. -/
namespace TypeHost

def SpecStep.sparesStruct : SpecStep → Bool
  | .basicsize _ | .legacy _ => false
  | _ => true

theorem TypeSpec.apply_of_spares (spec : TypeSpec) {step : SpecStep}
    (spares : step.sparesStruct = true) :
    (spec.apply step).basicsize = spec.basicsize ∧ (spec.apply step).legacy = spec.legacy := by
  cases step with
  | basicsize size => cases spares
  | legacy legacy => cases spares
  | legacySlots table => cases table <;> exact ⟨rfl, rfl⟩
  | _ => exact ⟨rfl, rfl⟩

theorem TypeSpec.applyAll_of_spares (spec : TypeSpec) {steps : List SpecStep}
    (spares : ∀ step ∈ steps, step.sparesStruct = true) :
    (spec.applyAll steps).basicsize = spec.basicsize ∧
      (spec.applyAll steps).legacy = spec.legacy := by
  induction steps generalizing spec with
  | nil => exact ⟨rfl, rfl⟩
  | cons step rest ih =>
      obtain ⟨here, later⟩ := List.forall_mem_cons.1 spares
      obtain ⟨size, mode⟩ := spec.apply_of_spares here
      obtain ⟨sizes, modes⟩ := ih (spec.apply step) later
      exact ⟨sizes.trans size, modes.trans mode⟩

theorem StructType.toInt_basicsize {struct : StructType} (small : struct.size ≤ 0x7fffffff) :
    struct.basicsize.toInt = struct.size :=
  Int32.toInt_ofNat_of_lt (by omega)

theorem StructType.basicsize_eq_zero {struct : StructType} (small : struct.size ≤ 0x7fffffff) :
    struct.basicsize = 0 ↔ struct.size = 0 := by
  rw [← Int32.toInt_inj, toInt_basicsize small, Int32.toInt_zero]
  omega

namespace Host

variable {host start : Host} {a : Accessor} {name : String} {steps : List SpecStep}
  {spec : TypeSpec} {params : List SpecParam} {obj ty : Handle} {nitems : UInt64}
  {t : RegisteredType} {i : Instance} {gcMode : GcMode} {builtins : List BuiltinType}
  {actions before first between later : List HostAction}

/-- A spec that declares a struct, or lies right below the universal base, gets the mode that it
asks for, and in any case it gets at least the size. -/
theorem struct_of_plan (planned : host.plan spec params = .ok t)
    (own : spec.declaresStruct = true ∨
      ∀ bases, host.basesFor params = .ok bases → ∀ base ∈ bases, base = objectType) :
    t.legacy = spec.legacy ∧ spec.basicsize ≤ t.basicsize := by
  obtain ⟨bases, types, legacy, checks, rfl⟩ := plan_eq_ok planned
  refine ⟨?_, ?_⟩
  · apply TypeSpec.legacy_of_resolveLayoutOver checks.layout
    refine own.imp_right fun below => ?_
    rw [List.map_eq_nil_iff, List.filter_eq_nil_iff]
    intro entry mem
    have same := below bases checks.inherited entry.1 (List.of_mem_zip mem).1
    simp [same]
  · change spec.basicsize ≤ if spec.basicsize = 0 then largest (·.basicsize) types else _
    split
    · rename_i none_declared
      rw [none_declared]
      exact largest_nonneg _ types
    · exact Int32.le_refl _

/-- The accessor reaches an instance of a type that has the mode and the size of the struct. -/
theorem checkedFromHandle_of_instance (here : host.instance? obj = some i)
    (found : host.type? i.type = some t) (shape : i.mode = .ofLegacy t.legacy)
    (mode : t.legacy = a.mode.isLegacy) (fits : (a.struct.size : Int) ≤ t.basicsize.toInt) :
    a.checkedFromHandle host.context obj i.type
      = Except.ok ⟨obj, if t.legacy then 0 else 16⟩ := by
  refine checkedFromHandle_eq_ok.2 ⟨i.type, t, typeOf_instance here, isSubtype_self found, found,
    mode, fits, fromHandle_eq_some.2 ⟨i, here, ?_⟩⟩
  rw [Instance.structOffset, shape, ← mode]
  cases t.legacy <;> rfl

theorem struct_of_plan_spec {struct : StructType} (small : struct.size ≤ 0x7fffffff)
    (spares : ∀ step ∈ steps, step.sparesStruct = true)
    (planned : host.plan ((struct.spec name).applyAll steps) params = .ok t)
    (own : 0 < struct.size ∨
      ∀ bases, host.basesFor params = .ok bases → ∀ base ∈ bases, base = objectType) :
    t.legacy = struct.legacy ∧ (struct.size : Int) ≤ t.basicsize.toInt := by
  obtain ⟨size, mode⟩ := (struct.spec name).applyAll_of_spares spares
  change _ = struct.basicsize at size
  obtain ⟨granted, fits⟩ := struct_of_plan planned <| own.imp_left fun pos => by
    rw [TypeSpec.declaresStruct, decide_eq_true_eq, size, Ne, StructType.basicsize_eq_zero small]
    omega
  rw [size, Int32.le_iff_toInt_le, StructType.toInt_basicsize small] at fits
  exact ⟨granted.trans mode, fits⟩

theorem instance_run (sound : start.heap.Sound)
    (room : (start.run (first ++ .call (.newInstance ty nitems) :: later)).heap.slotCount
      < 0xFFFFFFFF)
    (young : ∀ i, (start.heap.age i).toNat
      + start.frees (first ++ .call (.newInstance ty nitems) :: later) i < 0x100000000)
    (found : (start.run first).type? ty = some t)
    (made : ((start.run first).perform (.newInstance ty nitems)).1 = .made obj)
    (live : ((start.run (first ++ .call (.newInstance ty nitems) :: later)).heap.slot? obj).isSome)
    (typed : ((start.run (first ++ .call (.newInstance ty nitems) :: later)).heap.slot? ty).isSome) :
    ∃ i, (start.run (first ++ .call (.newInstance ty nitems) :: later)).instance? obj = some i ∧
      i.type = ty ∧ i.mode = .ofLegacy t.legacy ∧
      (start.run (first ++ .call (.newInstance ty nitems) :: later)).type? ty = some t := by
  obtain ⟨i, here, type, mode, -⟩ := instance_of_made sound room young found made live
  have later_young := young_rest sound room young
  refine ⟨i, here, type, mode, ?_⟩
  rw [run_append] at room typed ⊢
  exact type?_run (sound_run sound first) room later_young found typed

/-- A struct registered through its own spec is reached through its own accessor. -/
theorem checkedFromHandle_own_struct (created : create gcMode builtins = .ok start)
    (tagged : a.struct.legacy = a.mode.isLegacy) (small : a.struct.size ≤ 0x7fffffff)
    (spares : ∀ step ∈ steps, step.sparesStruct = true)
    (built : spec = (a.struct.spec name).applyAll steps)
    (own : 0 < a.struct.size ∨ ∀ bases, (start.run first).basesFor params = .ok bases →
      ∀ base ∈ bases, base = objectType)
    (split : before = first ++ .call (.typeFromSpec spec params) :: between)
    (registered : ((start.run first).perform (.typeFromSpec spec params)).1 = .made ty)
    (made : ((start.run before).perform (.newInstance ty nitems)).1 = .made obj)
    (whole : actions = before ++ .call (.newInstance ty nitems) :: later)
    (room : (start.run actions).heap.slotCount < 0xFFFFFFFF)
    (few : ∀ i, start.frees actions i < 0x100000000)
    (live : later = [] ∨ (start.run actions).heap.contains obj = true ∧
      (start.run actions).heap.contains ty = true) :
    a.checkedFromHandle (start.run actions).context obj ty
      = Except.ok ⟨obj, if a.struct.legacy then 0 else 16⟩ := by
  subst whole
  have new := new_of_create created (room_of_run room)
  have young := new.aged few
  -- The registration grants what the struct asks for, and the record is the same ever after.
  obtain ⟨t, found, mode, fits⟩ : ∃ t, (start.run before).type? ty = some t ∧
      t.legacy = a.struct.legacy ∧ (a.struct.size : Int) ≤ t.basicsize.toInt := by
    obtain ⟨_, made_for, -⟩ := store_of_made made
    cases made_for with | @inst _ _ t found allowed =>
    subst split built
    obtain ⟨object, makes, -, kept⟩ :=
      made_run new.sound (room_of_append room) (young_first young) registered
    cases makes with | type planned =>
    cases HostObject.blank_eq_type.1 (kept _ (type?_eq_some.1 found)).symm
    exact ⟨t, found, struct_of_plan_spec small spares planned own⟩
  have both : ((start.run (before ++ .call (.newInstance ty nitems) :: later)).heap.slot? obj).isSome ∧
      ((start.run (before ++ .call (.newInstance ty nitems) :: later)).heap.slot? ty).isSome := by
    rcases live with rfl | live
    · refine ⟨live_of_givenLast new.sound room (.inr ⟨before, _, rfl, made⟩), ?_⟩
      rw [run_call] at room ⊢
      have typed := get?_of_made (sound_run new.sound before) room made (type?_eq_some.1 found)
      rw [← isSome_get?, run, List.foldl_nil, typed, Option.isSome_some]
    · exact live
  obtain ⟨i, here, rfl, shape, found⟩ := instance_run new.sound room young found made both.1 both.2
  rw [← mode]
  exact checkedFromHandle_of_instance here found shape (mode.trans tagged) fits

/-- A pure struct of eight bytes; between the calls there are others, and bytes are written. -/
theorem checkedFromHandle_own_struct_point :
    let a : Accessor := ⟨⟨"Point", 8, false⟩, .pure⟩
    let spec := (a.struct.spec "shapes.Point").applyAll [.itemsize 4, .doc "A point."]
    let before : List HostAction := [.call (.typeFromSpec spec []), .call (.newTuple [])]
    let host := (core .refCounting).run (before ++ .call (.newInstance (.pack 3 0) 2) ::
      [.write (.pack 5 0) 16 [7], .call (.addRef (.pack 3 0))])
    host.heap.contains (.pack 5 0) = true ∧ host.heap.contains (.pack 3 0) = true ∧
      a.checkedFromHandle host.context (.pack 5 0) (.pack 3 0) = Except.ok ⟨.pack 5 0, 16⟩ := by
  intro a spec before host
  have live : host.heap.contains (.pack 5 0) = true ∧ host.heap.contains (.pack 3 0) = true := by
    decide
  have created : create .refCounting [] = .ok (core .refCounting) := rfl
  have split : before = [] ++ .call (.typeFromSpec spec []) :: [.call (.newTuple [])] := rfl
  refine ⟨live.1, live.2, ?_⟩
  exact checkedFromHandle_own_struct created rfl (by decide) (by decide) rfl (.inl (by decide))
    split (by decide) (by decide) rfl (by decide)
    (fun i => Nat.lt_of_le_of_lt (frees_le_length _ _ i) (by decide)) (.inr live)

end Host
end TypeHost
