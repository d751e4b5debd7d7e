import TypeHost.Proofs.Host.Constancy
import TypeHost.Proofs.Host.Registration
import TypeHost.Proofs.Host.Sizes
import TypeHost.Proofs.Layout

/-! Substitution. A type that declares no struct of its own has the struct of its bases, in their one
mode and in the largest of their sizes, so its instances can stand in for those of each base. -/
namespace TypeHost

namespace Host

variable {host start : Host} {spec : TypeSpec} {params : List SpecParam} {t u : RegisteredType}
  {a : Accessor} {base sub x y ty : Handle} {i : Instance} {gcMode : GcMode}
  {builtins : List BuiltinType} {first : List HostAction}

/-- The universal base, which has no say in the mode, has one in the size. -/
theorem inherits_of_plan (planned : host.plan spec params = .ok t)
    (undeclared : spec.basicsize = 0) (mem : base ∈ t.bases) :
    ∃ u, host.type? base = some u ∧ u.basicsize ≤ t.basicsize ∧
      (base ≠ objectType → t.legacy = u.legacy) := by
  obtain ⟨bases, types, legacy, checks, rfl⟩ := plan_eq_ok planned
  obtain ⟨u, entry, eq⟩ := findBase_of_mem checks.found mem
  refine ⟨u, (findBase_eq_ok.1 eq).1, ?_, ?_⟩
  · rw [recordFor, if_pos undeclared]
    exact le_largest (·.basicsize) (List.of_mem_zip entry).2
  · intro ne
    have judged : u.info.layout ∈
        ((bases.zip types).filter (·.1 ≠ objectType)).map (·.2.info.layout) :=
      List.mem_map.2 ⟨_, List.mem_filter.2 ⟨entry, decide_eq_true ne⟩, rfl⟩
    exact TypeSpec.legacy_of_undeclared checks.layout (by simp [TypeSpec.declaresStruct, undeclared])
      judged

theorem exists_largest_base (reachable : host.Reachable) (planned : host.plan spec params = .ok t)
    (undeclared : spec.basicsize = 0) :
    ∃ base ∈ t.bases, ∃ u, host.type? base = some u ∧ t.basicsize = u.basicsize := by
  have based := bases_ne_nil_of_plan planned
  obtain ⟨bases, types, legacy, checks, rfl⟩ := plan_eq_ok planned
  have listed {u : RegisteredType} (mem : u ∈ types) : ∃ base ∈ bases, host.type? base = some u := by
    rwa [types_of_findBases checks.found, List.mem_filterMap] at mem
  have some_type : types ≠ [] := by
    rintro rfl
    exact based (List.forall₂_nil_right_iff.1 (mapM_eq_ok.1 checks.found))
  obtain ⟨u, mem, same⟩ := exists_largest (·.basicsize) some_type fun u mem => by
    obtain ⟨base, -, found⟩ := listed mem
    exact (reachable.sized found).1
  obtain ⟨base, mem, found⟩ := listed mem
  refine ⟨base, mem, u, found, ?_⟩
  rw [recordFor, if_pos undeclared]
  exact same

theorem checkedFromHandle_of_base (found : host.type? i.type = some t) (mem : base ∈ t.bases)
    (found' : host.type? base = some u) (size : u.basicsize ≤ t.basicsize)
    (mode : t.legacy = u.legacy) (typed : host.typeOf x = some base)
    (here : host.instance? y = some i)
    (granted : ∃ location, a.checkedFromHandle host.context x ty = Except.ok location) :
    ∃ location, a.checkedFromHandle host.context y ty = Except.ok location := by
  obtain ⟨location, granted⟩ := granted
  obtain ⟨actual, v, typed', inherits, again, same, fits, -⟩ := checkedFromHandle_eq_ok.1 granted
  cases typed.symm.trans typed'
  cases found'.symm.trans again
  refine ⟨_, checkedFromHandle_eq_ok.2 ⟨i.type, t, typeOf_instance here, ?_, found,
    mode.trans same, ?_, fromHandle_eq_some.2 ⟨i, here, rfl⟩⟩⟩
  · exact isSubtype_iff.2 (.up found List.not_mem_nil mem (isSubtype_iff.1 inherits))
  · exact Int.le_trans fits (Int32.le_iff_toInt_le.1 size)

/-- A type that declares no struct has the mode of all of its bases, the universal one apart, and the
largest of their sizes. So wherever an accessor reaches an instance of a base, it reaches every
instance of the type, for as long as type and base live. -/
theorem inherited_struct_substitutes (created : create gcMode builtins = .ok start)
    (undeclared : spec.basicsize = 0)
    (registered : ((start.run first).perform (.typeFromSpec spec params)).1 = .made sub) :
    ∃ t, (start.run first).store (.type t)
        = (sub, ((start.run first).perform (.typeFromSpec spec params)).2) ∧
      (∀ base ∈ t.bases, ∃ u, (start.run first).type? base = some u ∧
        u.basicsize ≤ t.basicsize ∧ (base ≠ objectType → t.legacy = u.legacy)) ∧
      (∃ base ∈ t.bases, ∃ u, (start.run first).type? base = some u ∧
        t.basicsize = u.basicsize) ∧
      ∀ later, let actions := first ++ .call (.typeFromSpec spec params) :: later
        let host := start.run actions
        host.heap.slotCount < 0xFFFFFFFF → (∀ i, start.frees actions i < 0x100000000) →
        host.heap.contains sub = true → host.type? sub = some t ∧
        ∀ base ∈ t.bases, base ≠ objectType → host.heap.contains base = true →
        ∀ (a : Accessor) (x y ty : Handle) (i : Instance), host.typeOf x = some base →
        host.instance? y = some i → i.type = sub →
        (∃ location, a.checkedFromHandle host.context x ty = Except.ok location) →
        ∃ location, a.checkedFromHandle host.context y ty = Except.ok location := by
  obtain ⟨object, makes, handle, stored⟩ := store_of_made registered
  cases makes with | @type _ _ t planned =>
  refine ⟨t, Prod.ext handle stored.symm, fun base mem => inherits_of_plan planned undeclared mem,
    exists_largest_base ⟨gcMode, builtins, start, first, created, rfl⟩ planned undeclared, ?_⟩
  intro later actions host room few live
  have new := new_of_create created (room_of_run room)
  have young := new.aged few
  obtain ⟨object, makes, -, kept⟩ := made_run new.sound room young registered
  cases makes with | type planned' =>
  cases planned.symm.trans planned'
  have found : host.type? sub = some t := by
    obtain ⟨last, still⟩ := exists_get? live
    rw [type?_eq_some, still, HostObject.blank_eq_type.1 (kept last still)]
  refine ⟨found, ?_⟩
  intro base mem ne base_live a x y ty i typed here type granted
  obtain ⟨u, before, size, mode⟩ := inherits_of_plan planned undeclared mem
  have found' : host.type? base = some u := by
    have later_young := young_rest new.sound room young
    simp only [host, actions, run_append] at room base_live ⊢
    exact type?_run (sound_run new.sound first) room later_young before base_live
  exact checkedFromHandle_of_base (type ▸ found) mem found' size (mode ne) typed here granted

/-- Two bases and the universal one: a type of an extension and the type of tuples, which is smaller.
The new type asks for a pure struct and gets a legacy one. -/
theorem inherited_struct_substitutes_mixed :
    let outer : TypeSpec := { name := "m.Outer", basicsize := 32, legacy := true, flags := .baseType }
    let inner : TypeSpec := { name := "m.Inner" }
    let first : List HostAction := [.call (.typeFromSpec outer []),
      .call (.newTuple [.pack 3 0, tupleType, objectType])]
    let later : List HostAction := [.call (.newInstance tupleType 0),
      .call (.newInstance (.pack 5 0) 1), .write (.pack 7 0) 24 [1], .call (.addRef (.pack 4 0))]
    let host := (core .tracing).run
      (first ++ .call (.typeFromSpec inner [⟨.basesTuple, .pack 4 0⟩]) :: later)
    let a : Accessor := ⟨⟨"Pair", 24, true⟩, .legacy⟩
    (∃ t, host.type? (.pack 5 0) = some t ∧ t.legacy = true ∧ t.basicsize = 32) ∧
      (∃ location, a.checkedFromHandle host.context (.pack 6 0) tupleType = Except.ok location) ∧
      ∃ location, a.checkedFromHandle host.context (.pack 7 0) tupleType = Except.ok location := by
  intro outer inner first later host a
  have created : create .tracing [] = .ok (core .tracing) := rfl
  have registered : (((core .tracing).run first).perform
      (.typeFromSpec inner [⟨.basesTuple, .pack 4 0⟩])).1 = .made (.pack 5 0) := by decide
  obtain ⟨t, -, -, -, lasts⟩ := inherited_struct_substitutes created rfl registered
  obtain ⟨found, substitutes⟩ := lasts later (by decide)
    (fun i => Nat.lt_of_le_of_lt (frees_le_length _ _ i) (by decide)) (by decide)
  have record : (host.type? (.pack 5 0)).map (fun t => (t.legacy, t.basicsize, t.bases))
      = some (true, 32, [.pack 3 0, tupleType, objectType]) := by decide
  have shape : (host.instance? (.pack 7 0)).map (·.type) = some (.pack 5 0) ∧
      (host.instance? (.pack 6 0)).map (·.type) = some tupleType := by decide
  have tuples : (host.type? tupleType).map (fun u => (u.legacy, u.basicsize))
      = some (true, 24) := by decide
  have live : host.heap.contains tupleType = true := by decide
  rw [found, Option.map_some, Option.some.injEq, Prod.mk.injEq, Prod.mk.injEq] at record
  obtain ⟨legacy, size, bases⟩ := record
  obtain ⟨i, here, type⟩ := Option.map_eq_some_iff.1 shape.1
  obtain ⟨j, here', type'⟩ := Option.map_eq_some_iff.1 shape.2
  obtain ⟨u, tuple, fits⟩ := Option.map_eq_some_iff.1 tuples
  have typed : host.typeOf (.pack 6 0) = some tupleType := by rw [typeOf_instance here', type']
  have granted : ∃ location,
      a.checkedFromHandle host.context (.pack 6 0) tupleType = Except.ok location :=
    ⟨_, checkedFromHandle_eq_ok.2 ⟨tupleType, u, typed, isSubtype_self tuple, tuple,
      congrArg Prod.fst fits, (congrArg (·.2.toInt) fits).symm ▸ by decide,
      fromHandle_eq_some.2 ⟨j, here', rfl⟩⟩⟩
  refine ⟨⟨t, found, legacy, size⟩, granted, ?_⟩
  have mem : tupleType ∈ t.bases := bases ▸ List.mem_cons_of_mem _ List.mem_cons_self
  exact substitutes tupleType mem (by decide) live a _ _ _ i typed here type granted

end Host
end TypeHost
