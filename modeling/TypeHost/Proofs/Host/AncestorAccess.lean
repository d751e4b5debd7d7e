import TypeHost.Proofs.Host.Ancestry
import TypeHost.Proofs.Host.CheckedAccess
import TypeHost.Proofs.Host.Layering

/-! Access to an instance in the name of an ancestor of its type. The guards look at the record of
the instance's own type; of the ancestor they only know that it is one. -/
namespace TypeHost

namespace Host

variable {host : Host} {h ty other actual : Handle} {a : Accessor} {location : Location}

/-- It does not matter in the name of which ancestor an object is asked for. -/
theorem checkedFromHandle_ancestor (typed : host.typeOf h = some actual)
    (first : host.isSubtype actual ty = true) (second : host.isSubtype actual other = true) :
    a.checkedFromHandle host.context h ty = a.checkedFromHandle host.context h other := by
  have typeOf : host.context.typeOf h = some actual := typed
  have subtype : host.context.isSubtype = host.isSubtype := rfl
  simp only [Accessor.checkedFromHandle, typeOf, subtype, bind, first, second]

/-- Access in the name of any type is access in the name of the instance's own type. Hence it is
known of that type that it has the mode of the accessor and room for its struct, and of the type
that was named only that it lives and is an ancestor; for a legacy accessor, it is legacy or a
type of the host. -/
theorem access_judged_by_own_type (a : Accessor) (h ty : Handle) (location : Location)
    (granted : a.checkedFromHandle host.context h ty = Except.ok location) :
    ∃ i t u, host.instance? h = some i ∧ host.type? i.type = some t ∧ a.Admits t.info ∧
      host.isSubtype i.type ty = true ∧ host.type? ty = some u ∧ (ty = i.type → a.Admits u.info) ∧
      (∀ other, host.isSubtype i.type other = true →
        a.checkedFromHandle host.context h other = Except.ok location) ∧
      (host.Lasting → a.mode = .legacy → u.legacy = true ∨ u.builtin = true) := by
  obtain ⟨actual, t, typed, inherits, found, mode, room, cast⟩ := checkedFromHandle_eq_ok.1 granted
  obtain ⟨i, here, rfl⟩ := fromHandle_eq_some.1 cast
  obtain rfl : i.type = actual := Option.some.inj ((typeOf_instance here).symm.trans typed)
  obtain ⟨u, found'⟩ := Option.isSome_iff_exists.1 (isType_of_isSubtype inherits).2
  have admits : a.Admits t.info :=
    { mode := mode, room := room, nonneg := Int.le_trans (Int.natCast_nonneg _) room }
  refine ⟨i, t, u, here, found, admits, inherits, found', ?_, ?_, ?_⟩
  · rintro rfl
    cases found.symm.trans found'
    exact admits
  · intro other above
    rw [checkedFromHandle_ancestor typed above inherits]
    exact granted
  · intro lasting legacy
    rw [legacy] at mode
    have has_head := lasting.layered.pass_up inherits found (headless_eq_false.2 (.inr mode)) found'
    exact (headless_eq_false.1 has_head).symm

section Derived

def point : StructType := ⟨"Point", 16, false⟩

/-- A legacy type of 24 bytes, a pure one of 16 bytes over it, and an instance of the latter. -/
def derivedHost : Host :=
  let base : TypeSpec := { name := "m.Base", basicsize := 24, legacy := true, flags := .baseType }
  (core .refCounting).run
    [.call (.typeFromSpec base []),
      .call (.typeFromSpec (point.spec "m.Sub") [⟨.base, .pack 3 0⟩]),
      .call (.newInstance (.pack 4 0) 0)]

theorem derivedHost_sub : ∃ t, derivedHost.type? (.pack 4 0) = some t ∧ t.bases = [.pack 3 0] ∧
    t.legacy = false ∧ t.basicsize = 16 := by
  have recorded : (derivedHost.type? (.pack 4 0)).map (fun t => (t.bases, t.legacy, t.basicsize))
      = some ([.pack 3 0], false, 16) := by decide
  obtain ⟨t, found, same⟩ := Option.map_eq_some_iff.1 recorded
  rw [Prod.mk.injEq, Prod.mk.injEq] at same
  exact ⟨t, found, same⟩

theorem derivedHost_base : ∃ u, derivedHost.type? (.pack 3 0) = some u ∧ u.bases = [objectType] ∧
    u.legacy = true := by
  have recorded : (derivedHost.type? (.pack 3 0)).map (fun u => (u.bases, u.legacy))
      = some ([objectType], true) := by decide
  obtain ⟨u, found, same⟩ := Option.map_eq_some_iff.1 recorded
  rw [Prod.mk.injEq] at same
  exact ⟨u, found, same⟩

theorem derivedHost_climbs : derivedHost.isSubtype (.pack 4 0) (.pack 3 0) = true ∧
    derivedHost.isSubtype (.pack 4 0) objectType = true := by
  obtain ⟨t, found, bases, -⟩ := derivedHost_sub
  obtain ⟨u, found', bases', -⟩ := derivedHost_base
  have up := isSubtype_of_mem_bases found (bases ▸ List.mem_cons_self) (by decide)
  have root := isSubtype_of_mem_bases found' (bases' ▸ List.mem_cons_self) (by decide)
  exact ⟨up, isSubtype_iff.2 ((isSubtype_iff.1 up).trans (isSubtype_iff.1 root))⟩

theorem derivedHost_granted (above : derivedHost.isSubtype (.pack 4 0) ty = true) :
    point.accessor.checkedFromHandle derivedHost.context (.pack 5 0) ty
      = Except.ok ⟨.pack 5 0, 16⟩ := by
  obtain ⟨t, found, -, pure, size⟩ := derivedHost_sub
  have made : (derivedHost.instance? (.pack 5 0)).map (·.structOffset) = some 16 := by decide
  obtain ⟨i, here, offset⟩ := Option.map_eq_some_iff.1 made
  have cast : point.accessor.fromHandle derivedHost.context (.pack 5 0)
      = some ⟨.pack 5 0, 16⟩ := fromHandle_eq_some.2 ⟨i, here, by rw [offset]; rfl⟩
  exact checkedFromHandle_eq_ok.2
    ⟨.pack 4 0, t, by decide, above, found, pure, by rw [size]; decide, cast⟩

/-- In the name of its base, which is legacy, the instance is reached as the pure one that it is. -/
theorem access_judged_by_own_type_derived : ∃ i t, derivedHost.instance? (.pack 5 0) = some i ∧
    derivedHost.type? i.type = some t ∧ point.accessor.Admits t.info ∧
    point.accessor.checkedFromHandle derivedHost.context (.pack 5 0) i.type
      = Except.ok ⟨.pack 5 0, 16⟩ := by
  obtain ⟨i, t, u, here, found, admits, -, -, -, all, -⟩ :=
    access_judged_by_own_type _ _ _ _ (derivedHost_granted derivedHost_climbs.1)
  exact ⟨i, t, here, found, admits, all i.type (isSubtype_self found)⟩

/-- Access is granted in the name of a type of the other mode, and of one without room for the
struct. -/
theorem access_over_unfit_ancestors :
    derivedHost.Reachable ∧
    (∃ u location, derivedHost.type? (.pack 3 0) = some u ∧
      u.legacy ≠ point.accessor.mode.isLegacy ∧
      point.accessor.checkedFromHandle derivedHost.context (.pack 5 0) (.pack 3 0)
        = Except.ok location) ∧
    ∃ u location, derivedHost.type? objectType = some u ∧ u.basicsize.toInt < point.size ∧
      point.accessor.checkedFromHandle derivedHost.context (.pack 5 0) objectType
        = Except.ok location := by
  refine ⟨⟨.refCounting, [], _, _, rfl, rfl⟩, ?_, ?_⟩
  · obtain ⟨u, found, -, legacy⟩ := derivedHost_base
    refine ⟨u, _, found, ?_, derivedHost_granted derivedHost_climbs.1⟩
    rw [legacy]
    decide
  · have recorded : (derivedHost.type? objectType).map (·.basicsize) = some 0 := by decide
    obtain ⟨u, found, size⟩ := Option.map_eq_some_iff.1 recorded
    refine ⟨u, _, found, ?_, derivedHost_granted derivedHost_climbs.2⟩
    rw [size]
    decide

end Derived

end Host
end TypeHost
