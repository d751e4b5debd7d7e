import TypeHost.Spec.Basic
import TypeHost.Wire.Definition

/-! Type specs on the wire, read with the checks that a spec itself would have to pass. -/
namespace TypeHost

structure RawSpec where
  name : Option CString
  basicsize : Int32
  itemsize : Int32
  flags : TypeFlags
  /-- Any nonzero value asks for a legacy type. -/
  legacy : Int32
  /-- The address of a slot table, or null. -/
  legacySlots : UInt64
  /-- The records in front of the terminator; the null array has none. -/
  defines : Option (List RawDefinition)
  doc : Option CString
deriving DecidableEq

namespace RawSpec

def isLegacy (raw : RawSpec) : Bool := raw.legacy ≠ 0

def definesLength (raw : RawSpec) : Nat := (raw.defines.getD []).length

def validate (raw : RawSpec) : Except SpecError Unit := do
  if raw.name.all (·.isEmpty) then throw .emptyName
  checkSizes raw.basicsize raw.itemsize
  if raw.legacySlots ≠ 0 && !raw.isLegacy then throw .legacySlotsWithoutLegacyFlag

def decodeDefines (raw : RawSpec) : Except SpecError (List Definition) :=
  (List.finRange raw.definesLength).mapM fun i => ((raw.defines.getD []).get i).decode i

/-- Checks first, then the name, the records in order, and the doc. -/
def decode (raw : RawSpec) : Except SpecError TypeSpec := do
  raw.validate
  match ← readText .name raw.name with
  | none => throw .emptyName
  | some name =>
    let defines ← raw.decodeDefines
    let doc ← readText .doc raw.doc
    return {
      name, defines, doc
      basicsize := raw.basicsize
      itemsize := raw.itemsize
      flags := raw.flags
      legacy := raw.isLegacy
      legacySlots := SlotTable.ofAddress? raw.legacySlots }

end RawSpec

/-- Fails only on a text with a NUL inside: name, doc, then record by record. -/
def TypeSpec.encode (spec : TypeSpec) : Except SpecError RawSpec := do
  let name ← writeText .name spec.name
  let doc ← writeText? .doc spec.doc
  let defines ← spec.defines.mapM Definition.encode
  return {
    name := some name
    basicsize := spec.basicsize
    itemsize := spec.itemsize
    flags := spec.flags
    legacy := flagCode spec.legacy
    legacySlots := spec.legacySlots.elim 0 (·.address)
    defines := some defines
    doc }

end TypeHost
