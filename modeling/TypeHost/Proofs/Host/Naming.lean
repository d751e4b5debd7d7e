import Mathlib.Data.List.TakeDrop
import Mathlib.Data.List.TakeWhile
import TypeHost.Proofs.Host.Registration

/-! Full names. A name and the two parts that are reported of it determine each other, and the table
of names holds one entry for each live type and no other. -/
namespace TypeHost

section Split

variable {name module type : String}

theorem splitName_of_undotted (undotted : '.' ∉ name.toList) : splitName name = (none, name) := by
  have all : ∀ c ∈ name.toList, decide (c ≠ '.') = true := by
    rintro c mem
    rw [decide_eq_true_eq]
    rintro rfl
    exact undotted mem
  rw [splitName, List.span_eq_takeWhile_dropWhile, List.dropWhile_eq_nil_iff.2 all]

/-- Only the first dot separates; the type may have dots of its own. -/
theorem splitName_of_dotted (dotless : '.' ∉ module.toList)
    (joined : name = module ++ "." ++ type) : splitName name = (some module, type) := by
  have chars : name.toList = module.toList ++ '.' :: type.toList := by
    rw [joined, String.toList_append, String.toList_append, List.append_assoc]
    rfl
  have all : ∀ c ∈ module.toList, decide (c ≠ '.') = true := by
    rintro c mem
    rw [decide_eq_true_eq]
    rintro rfl
    exact dotless mem
  rw [splitName, chars, List.span_eq_takeWhile_dropWhile, List.takeWhile_append_of_pos all,
    List.dropWhile_append_of_pos all]
  simp

theorem dotted_or_not (name : String) : '.' ∉ name.toList ∨
    ∃ module type : String, '.' ∉ module.toList ∧ name = module ++ "." ++ type := by
  by_cases dotted : '.' ∈ name.toList
  · obtain ⟨before, after, chars, dotless⟩ := List.eq_append_cons_of_mem dotted
    refine .inr ⟨String.ofList before, String.ofList after, ?_, ?_⟩
    · rwa [String.toList_ofList]
    · rw [← String.toList_inj, chars]
      simp
  · exact .inl dotted

theorem splitName_eq_some :
    splitName name = (some module, type) ↔
      name = module ++ "." ++ type ∧ '.' ∉ module.toList := by
  constructor
  · intro split
    rcases dotted_or_not name with undotted | ⟨module', type', dotless, joined⟩
    · rw [splitName_of_undotted undotted] at split
      cases split
    · rw [splitName_of_dotted dotless joined] at split
      cases split
      exact ⟨joined, dotless⟩
  · rintro ⟨joined, dotless⟩
    exact splitName_of_dotted dotless joined

theorem splitName_eq_none : splitName name = (none, type) ↔ name = type ∧ '.' ∉ name.toList := by
  constructor
  · intro split
    rcases dotted_or_not name with undotted | ⟨module', type', dotless, joined⟩
    · rw [splitName_of_undotted undotted] at split
      cases split
      exact ⟨rfl, undotted⟩
    · rw [splitName_of_dotted dotless joined] at split
      cases split
  · rintro ⟨rfl, undotted⟩
    exact splitName_of_undotted undotted

theorem splitName_injective {name' : String} (same : splitName name = splitName name') :
    name = name' := by
  rcases parts : splitName name with ⟨module | module, type⟩
  · rw [parts] at same
    rw [(splitName_eq_none.1 parts).1, (splitName_eq_none.1 same.symm).1]
  · rw [parts] at same
    rw [(splitName_eq_some.1 parts).1, (splitName_eq_some.1 same.symm).1]

end Split

namespace Host

variable {host : Host} {h other : Handle} {name : String} {t u : RegisteredType}

theorem taken_of_registerBuiltin {builtin : BuiltinType}
    (refused : (host.registerBuiltin builtin).1 = .error (.duplicateTypeName name)) :
    builtin.name = name ∧ (host.lookup name).isSome := by
  rw [registerBuiltin_eq] at refused
  cases sizes : checkSizes builtin.basicsize builtin.itemsize with
  | error e =>
      rw [sizes] at refused
      cases refused
  | ok _ =>
      cases taken : (host.lookup builtin.name).isSome with
      | true =>
          rw [sizes, taken] at refused
          cases refused
          exact ⟨rfl, taken⟩
      | false =>
          rw [sizes, taken] at refused
          cases refused

theorem taken_of_typeFromSpec {spec : TypeSpec} {params : List SpecParam}
    (refused : (host.typeFromSpec spec params).1 = .error (.duplicateTypeName name)) :
    spec.name = name ∧ (host.lookup name).isSome := by
  rw [typeFromSpec_eq] at refused
  cases planned : host.plan spec params with
  | ok t =>
      rw [planned] at refused
      cases refused
  | error cause =>
      rw [planned] at refused
      cases refused
      cases blamed_of_plan planned with
      | name taken => exact ⟨rfl, taken⟩
      | root resolved failed =>
          rw [findType] at failed
          split at failed <;> cases failed

theorem Named.live_of_taken (named : host.Named) (taken : (host.lookup name).isSome) :
    ∃ h t, host.type? h = some t ∧ t.name = name := by
  obtain ⟨h, found⟩ := Option.isSome_iff_exists.1 taken
  exact ⟨h, (named name h).1 found⟩

theorem Named.name_ne (named : host.Named) (found : host.type? h = some t)
    (found' : host.type? other = some u) (ne : h ≠ other) : t.name ≠ u.name := by
  intro same
  have first := (named t.name h).2 ⟨t, found, rfl⟩
  have second := (named t.name other).2 ⟨u, found', same.symm⟩
  exact ne (Option.some.inj (first.symm.trans second))

/-- The table leads exactly to the live types, by their full names. No two of them share a name or
the parts of one, from which the name can be told, and a name is refused only while it is borne. -/
theorem names_exact (roomy : host.Roomy) :
    (∀ name h, host.lookup name = some h ↔ ∃ t, host.type? h = some t ∧ t.name = name) ∧
    (∀ h other t u, host.type? h = some t → host.type? other = some u → h ≠ other →
      t.name ≠ u.name) ∧
    (∀ h other info info', host.typeInfo h = some info → host.typeInfo other = some info' →
      h ≠ other → (info.module, info.name) ≠ (info'.module, info'.name)) ∧
    (∀ h t, host.type? h = some t → ∃ info, host.typeInfo h = some info ∧
      (info.module, info.name) = splitName t.name) ∧
    (∀ name module type, splitName name = (some module, type) ↔
      name = module ++ "." ++ type ∧ '.' ∉ module.toList) ∧
    (∀ name type, splitName name = (none, type) ↔ name = type ∧ '.' ∉ name.toList) ∧
    (∀ builtin name, (host.registerBuiltin builtin).1 = .error (.duplicateTypeName name) →
      builtin.name = name ∧ ∃ h t, host.type? h = some t ∧ t.name = name) ∧
    (∀ spec params name, (host.typeFromSpec spec params).1 = .error (.duplicateTypeName name) →
      spec.name = name ∧ ∃ h t, host.type? h = some t ∧ t.name = name) := by
  have named := roomy.named
  refine ⟨named, fun h other t u => named.name_ne, ?_, ?_, fun _ _ _ => splitName_eq_some,
    fun _ _ => splitName_eq_none, ?_, ?_⟩
  · intro h other info info' found found' ne same
    obtain ⟨t, here, rfl⟩ := Option.map_eq_some_iff.1 found
    obtain ⟨u, there, rfl⟩ := Option.map_eq_some_iff.1 found'
    exact named.name_ne here there ne (splitName_injective same)
  · intro h t found
    refine ⟨t.info, ?_, rfl⟩
    rw [typeInfo, found, Option.map_some]
  · intro builtin name refused
    obtain ⟨asked, taken⟩ := taken_of_registerBuiltin refused
    exact ⟨asked, named.live_of_taken taken⟩
  · intro spec params name refused
    obtain ⟨asked, taken⟩ := taken_of_typeFromSpec refused
    exact ⟨asked, named.live_of_taken taken⟩

/-- A type that was released is listed as long as an instance needs it. -/
theorem names_exact_outlived :
    let spec : TypeSpec := { name := "shapes.Point", basicsize := 16 }
    let point : Handle := .pack 3 0
    let both := (core .refCounting).run
      [.call (.typeFromSpec spec []), .call (.newInstance point 0)]
    let kept := both.run [.call (.release point)]
    let gone := kept.run [.call (.release (.pack 4 0))]
    kept.Roomy ∧ kept.lookup "shapes.Point" = some point ∧ kept.refCount? point = some 1 ∧
      gone.Roomy ∧ gone.lookup "shapes.Point" = none := by
  intro spec point both kept gone
  have kept_eq : kept = (turns 1 both [point]).1 := step_release 1 (by decide) (by decide)
  have gone_eq : gone = (turns 3 kept [.pack 4 0]).1 :=
    step_release 3 (by rw [kept_eq]; decide) (by rw [kept_eq]; decide)
  rw [kept_eq] at gone_eq
  have small : kept.heap.slotCount < 0xFFFFFFFF := by
    rw [kept_eq]
    decide
  have small' : gone.heap.slotCount < 0xFFFFFFFF := by
    rw [gone_eq]
    decide
  have roomy : both.Roomy := (lasting_of_short (by decide) (by decide)).roomy
  have roomy := roomy.run _ small
  refine ⟨roomy, ?_, by rw [kept_eq]; decide, roomy.run _ small', ?_⟩
  · have borne : (kept.type? point).map (·.name) = some "shapes.Point" := by
      rw [kept_eq]
      decide
    exact ((names_exact roomy).1 _ point).2 (Option.map_eq_some_iff.1 borne)
  · have unborne : ∀ h ∈ gone.heap.handles, (gone.type? h).map (·.name) ≠ some "shapes.Point" := by
      rw [gone_eq]
      decide
    rw [Option.eq_none_iff_forall_ne_some]
    intro h listed
    obtain ⟨t, found, name⟩ := ((names_exact (roomy.run _ small')).1 _ h).1 listed
    exact unborne h (mem_handles_of_type? found) (by rw [found, ← name]; rfl)

end Host
end TypeHost
