import TypeHost.Spec.Basic

/-! Building a spec step by step. Nothing is checked before the end. -/
namespace TypeHost

inductive SpecStep where
  | basicsize (size : Int32)
  | itemsize (size : Int32)
  /-- Adds flags to those already set. -/
  | flags (flags : TypeFlags)
  /-- Replaces all flags, the initial ones included. -/
  | exactFlags (flags : TypeFlags)
  | legacy (legacy : Bool)
  /-- A null table leaves the spec as it is. -/
  | legacySlots (table : Option SlotTable)
  | define (definition : Definition)
  | defines (definitions : List Definition)
  | doc (text : String)
deriving DecidableEq

namespace TypeSpec

def apply (spec : TypeSpec) : SpecStep → TypeSpec
  | .basicsize size => { spec with basicsize := size }
  | .itemsize size => { spec with itemsize := size }
  | .flags flags => { spec with flags := spec.flags.union flags }
  | .exactFlags flags => { spec with flags }
  | .legacy legacy => { spec with legacy }
  | .legacySlots none => spec
  | .legacySlots (some table) => { spec with legacySlots := some table }
  | .define d => { spec with defines := spec.defines ++ [d] }
  | .defines ds => { spec with defines := spec.defines ++ ds }
  | .doc text => { spec with doc := some text }

def applyAll (spec : TypeSpec) (steps : List SpecStep) : TypeSpec := steps.foldl apply spec

def build (spec : TypeSpec) : Except SpecError TypeSpec := do
  spec.validate
  return spec

end TypeSpec
end TypeHost
