import TypeHost.Spec.Basic

/-!
Legacy and pure layout. The struct of a legacy instance begins with the header of the host, that of
a pure one holds no byte of the host. What a type becomes depends on what its spec asks for, on
whether it declares a struct of its own, and on its bases; this is the only place of that rule.
-/
namespace TypeHost

structure BaseLayout where
  legacy : Bool
  /-- Provided by the host rather than built from a spec. -/
  builtin : Bool
deriving DecidableEq

namespace BaseLayout

/-- All layouts of a base, in the order in which several bases are judged. -/
def all : List BaseLayout :=
  [⟨true, true⟩, ⟨false, true⟩, ⟨true, false⟩, ⟨false, false⟩]

theorem mem_all (base : BaseLayout) : base ∈ all := by
  rcases base with ⟨_ | _, _ | _⟩ <;> decide

end BaseLayout

namespace TypeSpec

/-- The mode over one base, before the slot table is looked at. A type without a struct of its own
reuses the memory of the base, hence also its reading of the header. -/
def modeOver (spec : TypeSpec) (base : BaseLayout) : Except SpecError Bool :=
  if !spec.declaresStruct then .ok base.legacy
  else if !spec.legacy && base.legacy && base.builtin then .error .pureOverLegacyBuiltin
  else if spec.legacy && !base.legacy && !base.builtin then .error .legacyOverPureBase
  else .ok spec.legacy

/-- The mode over at most one base; the universal base counts as none. A slot table is refused
whenever the result is pure. -/
def resolveLayout (spec : TypeSpec) (base : Option BaseLayout) : Except SpecError Bool := do
  if spec.legacySlots.isSome && !spec.legacy then throw .legacySlotsWithoutLegacyFlag
  match base with
  | none => return spec.legacy
  | some base =>
    let legacy ← spec.modeOver base
    if spec.legacySlots.isSome && !legacy then throw .legacySlotsWithoutLegacyFlag
    return legacy

def resolveLegacy (spec : TypeSpec) (baseLegacy : Option Bool) : Except SpecError Bool :=
  spec.resolveLayout (baseLegacy.map fun legacy => ⟨legacy, false⟩)

/-- Judges the given layouts one after the other and keeps the mode on which all so far agree. -/
def agreeOver (spec : TypeSpec) :
    Option Bool → List BaseLayout → Except SpecError (Option Bool)
  | agreed, [] => .ok agreed
  | agreed, base :: rest => do
    let legacy ← spec.resolveLayout (some base)
    if agreed.any (· != legacy) then throw .incompatibleBaseLayouts
    spec.agreeOver (some legacy) rest

/-- The mode over any number of bases: none may reject, and all must agree. Bases are judged in a
fixed order, so the order of the list has no effect. -/
def resolveLayoutOver (spec : TypeSpec) (bases : List BaseLayout) : Except SpecError Bool := do
  match ← spec.agreeOver none (BaseLayout.all.filter (bases.contains ·)) with
  | some legacy => return legacy
  | none => spec.resolveLayout none

end TypeSpec
end TypeHost
