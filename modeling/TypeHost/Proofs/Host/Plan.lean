import TypeHost.Proofs.Checks
import TypeHost.Proofs.Host.Store

/-! A registration that passes its checks. The record of the new type comes with the checks that led
to it; among them every base was found to be a live type. -/
namespace TypeHost

theorem liftSpec_eq_ok {α : Type} {x : Except SpecError α} {a : α} :
    liftSpec x = .ok a ↔ x = .ok a := by
  cases x <;> simp [liftSpec]

theorem cause?_liftSpec {α : Type} (x : Except SpecError α) :
    cause? (liftSpec x) = (cause? x).map .spec := by
  cases x <;> rfl

namespace Host

variable {host : Host} {spec : TypeSpec} {params : List SpecParam} {t : RegisteredType}

structure Planned (host : Host) (spec : TypeSpec) (params : List SpecParam) (bases : List Handle)
    (types : List RegisteredType) (legacy : Bool) : Prop where
  valid : spec.validate = .ok ()
  wanted : host.context.validateParams params = .ok ()
  unnamed : host.lookup spec.name = none
  inherited : host.basesFor params = .ok bases
  found : bases.mapM host.findBase = .ok types
  layout : spec.resolveLayoutOver
    (((bases.zip types).filter (·.1 ≠ objectType)).map (·.2.info.layout)) = .ok legacy
  collectable : host.gcMode = .refCounting → spec.checkCollectable = .ok ()

theorem plan_eq_ok (planned : host.plan spec params = .ok t) :
    ∃ bases types legacy, host.Planned spec params bases types legacy ∧
      t = recordFor spec bases types legacy := by
  unfold plan at planned
  obtain ⟨⟨⟩, valid, planned⟩ := bind_eq_ok.1 planned
  obtain ⟨⟨⟩, wanted, planned⟩ := bind_eq_ok.1 planned
  dsimp only at planned
  split at planned
  · cases planned
  · rename_i unnamed
    obtain ⟨bases, inherited, planned⟩ := bind_eq_ok.1 planned
    obtain ⟨types, found, planned⟩ := bind_eq_ok.1 planned
    obtain ⟨legacy, layout, planned⟩ := bind_eq_ok.1 planned
    refine ⟨bases, types, legacy, ⟨liftSpec_eq_ok.1 valid, liftSpec_eq_ok.1 wanted,
      by simpa using unnamed, inherited, found, liftSpec_eq_ok.1 layout, ?_⟩, ?_⟩
    · intro counting
      rw [if_pos counting] at planned
      obtain ⟨⟨⟩, collectable, -⟩ := bind_eq_ok.1 planned
      exact liftSpec_eq_ok.1 collectable
    · split at planned
      · obtain ⟨⟨⟩, -, planned⟩ := bind_eq_ok.1 planned
        cases planned
        rfl
      · cases planned
        rfl

theorem findBase_eq_ok {h : Handle} :
    host.findBase h = .ok t ↔ host.type? h = some t ∧ t.flags.contains .baseType = true := by
  unfold findBase
  rw [bind_eq_ok]
  constructor
  · rintro ⟨u, found, checked⟩
    split at checked
    · cases checked
    · rename_i inheritable
      cases checked
      exact ⟨findType_eq_ok.1 found, by simpa using inheritable⟩
  · rintro ⟨found, inheritable⟩
    exact ⟨t, findType_eq_ok.2 found, by rw [inheritable]; rfl⟩

theorem findBase_of_mem {bases : List Handle} {types : List RegisteredType}
    (found : bases.mapM host.findBase = .ok types) {base : Handle} (mem : base ∈ bases) :
    ∃ t, (base, t) ∈ bases.zip types ∧ host.findBase base = .ok t := by
  induction mapM_eq_ok.1 found with
  | nil => cases mem
  | cons first later ih =>
      rename_i b t rest others
      rw [List.zip_cons_cons]
      cases mem with
      | head => exact ⟨t, List.mem_cons_self, first⟩
      | tail _ mem =>
          obtain ⟨u, mem', eq⟩ := ih (mapM_eq_ok.2 later) mem
          exact ⟨u, List.mem_cons_of_mem _ mem', eq⟩

theorem isType_of_plan (planned : host.plan spec params = .ok t) {base : Handle}
    (mem : base ∈ t.bases) : host.isType base = true := by
  obtain ⟨bases, types, legacy, checks, rfl⟩ := plan_eq_ok planned
  obtain ⟨u, -, eq⟩ := findBase_of_mem checks.found mem
  rw [isType, (findBase_eq_ok.1 eq).1]
  rfl

theorem bases_ne_nil_of_plan (planned : host.plan spec params = .ok t) : t.bases ≠ [] := by
  obtain ⟨bases, types, legacy, checks, rfl⟩ := plan_eq_ok planned
  have inherited := checks.inherited
  rw [basesFor, bind_eq_ok] at inherited
  obtain ⟨resolved, -, inherited⟩ := inherited
  split at inherited
  · cases inherited
    exact List.cons_ne_nil _ _
  · rename_i some_base
    cases inherited
    exact some_base

/-- The largest size from a given one on: it is above all that were seen, and one of them. -/
theorem largest_from (size : RegisteredType → Int32) (types : List RegisteredType) (most : Int32) :
    most ≤ types.foldl (fun most t => max most (size t)) most ∧
    (∀ t ∈ types, size t ≤ types.foldl (fun most t => max most (size t)) most) ∧
    (types.foldl (fun most t => max most (size t)) most = most ∨
      ∃ t ∈ types, types.foldl (fun most t => max most (size t)) most = size t) := by
  induction types generalizing most with
  | nil => exact ⟨Int32.le_refl most, nofun, .inl rfl⟩
  | cons t rest ih =>
      obtain ⟨grows, bounds, reached⟩ := ih (max most (size t))
      have more : most ≤ max most (size t) ∧ size t ≤ max most (size t) ∧
          (max most (size t) = most ∨ max most (size t) = size t) := by
        change most ≤ (if most ≤ size t then _ else _) ∧ _ ≤ (if most ≤ size t then _ else _) ∧
          ((if most ≤ size t then _ else _) = _ ∨ (if most ≤ size t then _ else _) = _)
        grind
      rw [List.foldl_cons, List.forall_mem_cons]
      refine ⟨Int32.le_trans more.1 grows, ⟨Int32.le_trans more.2.1 grows, bounds⟩, ?_⟩
      grind

theorem largest_nonneg (size : RegisteredType → Int32) (types : List RegisteredType) :
    0 ≤ largest size types :=
  (largest_from size types 0).1

theorem le_largest (size : RegisteredType → Int32) {types : List RegisteredType} (mem : t ∈ types) :
    size t ≤ largest size types :=
  (largest_from size types 0).2.1 t mem

theorem exists_largest (size : RegisteredType → Int32) {types : List RegisteredType}
    (some_type : types ≠ []) (nonneg : ∀ t ∈ types, 0 ≤ size t) :
    ∃ t ∈ types, largest size types = size t := by
  rcases (largest_from size types 0).2.2 with none_above | reached
  · obtain ⟨t, mem⟩ := List.exists_mem_of_ne_nil types some_type
    refine ⟨t, mem, Int32.le_antisymm ?_ (le_largest size mem)⟩
    exact Int32.le_trans (Int32.le_of_eq none_above) (nonneg t mem)
  · exact reached

end Host
end TypeHost
