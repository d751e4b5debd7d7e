import TypeHost.Proofs.Host.Lasting
import TypeHost.Proofs.Host.WellFormed
import TypeHost.Proofs.Overriding

/-! Registration and overridden records. The check of collected types reads the list as written, the
record of the new type is filled from the survivors; the two agree on every slot, and a registration
never depends on a record that another one overrides. -/
namespace TypeHost

namespace TypeSpec

variable {spec : TypeSpec} {slot : SlotId}

theorem hasSlot_iff_survives :
    spec.hasSlot slot = true ↔ ∃ func, .slot slot func ∈ spec.effectiveDefines := by
  rw [hasSlot_iff, List.mem_filterMap]
  constructor
  · rintro ⟨d, mem, filled⟩
    cases d with
    | slot s func =>
        cases filled
        exact ⟨func, mem⟩
    | method | member | getSet => cases filled
  · rintro ⟨func, mem⟩
    exact ⟨_, mem, rfl⟩

end TypeSpec

namespace Host

variable {host : Host} {spec : TypeSpec} {params : List SpecParam} {t : RegisteredType}

theorem recordFor_pruned (spec : TypeSpec) (bases : List Handle) (types : List RegisteredType)
    (legacy : Bool) : recordFor spec.pruned bases types legacy = recordFor spec bases types legacy := by
  rw [recordFor, recordFor, spec.effectiveDefines_pruned]
  rfl

theorem plan_pruned (host : Host) (spec : TypeSpec) (params : List SpecParam) :
    host.plan spec.pruned params = host.plan spec params := by
  rw [plan, plan]
  simp only [spec.resolveLayoutOver_pruned, spec.checkCollectable_pruned, recordFor_pruned]
  rfl

theorem typeFromSpec_pruned (host : Host) (spec : TypeSpec) (params : List SpecParam) :
    host.typeFromSpec spec.pruned params = host.typeFromSpec spec params := by
  rw [typeFromSpec_eq, typeFromSpec_eq, plan_pruned]

theorem typeFromSpec_eq_ok {h : Handle} {after : Host}
    (made : host.typeFromSpec spec params = (.ok h, after)) :
    ∃ t, host.plan spec params = .ok t ∧ (h, after) = host.store (.type t) := by
  rw [typeFromSpec_eq] at made
  cases planned : host.plan spec params with
  | error e =>
      rw [planned] at made
      cases made
  | ok t =>
      rw [planned] at made
      cases made
      exact ⟨t, rfl, rfl⟩

structure Recorded (spec : TypeSpec) (t : RegisteredType) : Prop where
  slots : t.slots = spec.effectiveDefines.filterMap (·.slot?)
  attrs : t.attrs = spec.effectiveDefines.filterMap (·.name?)
  filled : ∀ slot, slot ∈ t.slots ↔ spec.hasSlot slot = true
  defaultNew : t.defaultNew = true ↔ 0 < spec.basicsize ∧ spec.hasSlot .tpNew = false
  collectable : spec.checkCollectable = .ok () ↔
    (spec.flags.contains .garbageCollected = true → .tpTraverse ∈ t.slots)

theorem recorded_of_plan (planned : host.plan spec params = .ok t) : Recorded spec t := by
  obtain ⟨bases, types, legacy, -, rfl⟩ := plan_eq_ok planned
  constructor
  case slots => rfl
  case attrs => rfl
  case filled => exact fun slot => TypeSpec.hasSlot_iff.symm
  case defaultNew =>
    rw [recordFor, Bool.and_eq_true, decide_eq_true_eq, decide_eq_true_eq,
      ← TypeSpec.hasSlot_iff, Bool.not_eq_true]
  case collectable =>
    rw [TypeSpec.checkCollectable_eq_ok, TypeSpec.hasSlot_iff]
    rfl

/-- Overriding keeps each key once, at its first place and with its last record, and neither a second
time nor before a registration does it make a difference. -/
theorem overrides_resolved (spec : TypeSpec) :
    Survivors Definition.key spec.defines spec.effectiveDefines ∧
    (∀ a b : Definition, a.key = b.key ↔ a.slot? = b.slot? ∧ a.name? = b.name?) ∧
    (spec.defines.foldl (KeyedEntries.put Definition.key) {}).entries = spec.effectiveDefines ∧
    spec.pruned.effectiveDefines = spec.effectiveDefines ∧
    (∀ slot, spec.hasSlot slot = true ↔ ∃ func, .slot slot func ∈ spec.effectiveDefines) ∧
    ∀ (host : Host) (params : List SpecParam),
      host.typeFromSpec spec.pruned params = host.typeFromSpec spec params ∧
      ∀ h after, host.typeFromSpec spec params = (.ok h, after) →
        ∃ t, (h, after) = (host.retainAll t.bases).insertType t ∧ Recorded spec t ∧
          (host.Roomy → after.type? h = some t) := by
  refine ⟨survivors_effective Definition.key spec.defines, fun a b => Definition.key_eq_iff,
    entries_foldl_put_empty Definition.key spec.defines, spec.effectiveDefines_pruned,
    fun slot => TypeSpec.hasSlot_iff_survives, ?_⟩
  intro host params
  refine ⟨host.typeFromSpec_pruned spec params, ?_⟩
  intro h after made
  obtain ⟨t, planned, stored⟩ := typeFromSpec_eq_ok made
  refine ⟨t, stored, recorded_of_plan planned, ?_⟩
  intro roomy
  obtain ⟨rfl, rfl⟩ := Prod.mk.inj stored
  exact type?_eq_some.2 (gains_store roomy.reachable.sound roomy.room (.type t)).get?_self

/-- A name that changes its kind, and a slot that is filled twice. -/
theorem overrides_resolved_across_kinds :
    let area : Definition := .member "area" .int 8 true none
    let spec : TypeSpec :=
      { name := "shapes.Point", basicsize := 16
        flags := TypeFlags.default.union .garbageCollected
        defines := [.slot .tpNew ⟨1⟩, .method "area" ⟨2⟩ .noArgs none, .slot .tpTraverse ⟨3⟩, area,
          .slot .tpNew ⟨4⟩] }
    let host := core .refCounting
    spec.effectiveDefines = [.slot .tpNew ⟨4⟩, area, .slot .tpTraverse ⟨3⟩] ∧
    ∃ h after, host.typeFromSpec spec [] = (.ok h, after) ∧
      host.typeFromSpec spec.pruned [] = (.ok h, after) ∧
      ∃ t, after.type? h = some t ∧ t.slots = [.tpNew, .tpTraverse] ∧ t.attrs = ["area"] ∧
        t.defaultNew = false := by
  intro area spec host
  have kept : spec.effectiveDefines = [.slot .tpNew ⟨4⟩, area, .slot .tpTraverse ⟨3⟩] := by decide
  have roomy : host.Roomy := ⟨.refCounting, [], host, [], rfl, rfl, by decide⟩
  obtain ⟨-, -, -, -, -, registered⟩ := overrides_resolved spec
  have passed : cause? (host.typeFromSpec spec []).1 = none := by decide
  obtain ⟨h, succeeds⟩ := cause?_eq_none.1 passed
  have made : host.typeFromSpec spec [] = (.ok h, (host.typeFromSpec spec []).2) :=
    Prod.ext succeeds rfl
  obtain ⟨same, recorded⟩ := registered host []
  obtain ⟨t, -, record, found⟩ := recorded h _ made
  refine ⟨kept, h, _, made, same.trans made, t, found roomy, ?_, ?_, ?_⟩
  · rw [record.slots, kept]
    rfl
  · rw [record.attrs, kept]
    rfl
  · rw [Bool.eq_false_iff, ne_eq, record.defaultNew]
    decide

end Host
end TypeHost
