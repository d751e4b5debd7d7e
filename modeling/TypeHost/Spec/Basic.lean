import TypeHost.Definition
import TypeHost.Error
import TypeHost.Flags

/-!
Type specs: what an extension asks for when it registers a type, and the checks that need nothing
but the spec itself.
-/
namespace TypeHost

/-- The address of a host slot table. It is never dereferenced, and it is never null. -/
structure SlotTable where
  address : UInt64
  address_ne_zero : address ≠ 0
deriving DecidableEq

def SlotTable.ofAddress? (address : UInt64) : Option SlotTable :=
  if h : address ≠ 0 then some ⟨address, h⟩ else none

structure TypeSpec where
  name : String
  /-- Bytes of the struct that the type declares; zero if it declares none. -/
  basicsize : Int32 := 0
  /-- Bytes of one trailing item. -/
  itemsize : Int32 := 0
  flags : TypeFlags := TypeFlags.default
  /-- The struct is asked to start with the host header. -/
  legacy : Bool := false
  legacySlots : Option SlotTable := none
  defines : List Definition := []
  doc : Option String := none
deriving DecidableEq

/-- A dotted name falls apart at its first dot into module and type. -/
def splitName (name : String) : Option String × String :=
  match name.toList.span (· ≠ '.') with
  | (_, []) => (none, name)
  | (module, _ :: type) => (some (String.ofList module), String.ofList type)

def checkSizes (basicsize itemsize : Int32) : Except SpecError Unit :=
  if basicsize < 0 then .error (.negativeSize .basicsize basicsize)
  else if itemsize < 0 then .error (.negativeSize .itemsize itemsize)
  else .ok ()

namespace TypeSpec

/-- A spec of size zero reuses the struct of its base. -/
def declaresStruct (spec : TypeSpec) : Bool := spec.basicsize ≠ 0

def hasSlot (spec : TypeSpec) (slot : SlotId) : Bool :=
  spec.defines.any fun d => d.slot? == some slot

def effectiveDefines (spec : TypeSpec) : List Definition :=
  effective Definition.key spec.defines

/-- The surviving records, each with its place in the list as written. -/
def effectiveEntries (spec : TypeSpec) : List (Definition × Nat) :=
  effective (fun entry => entry.1.key) spec.defines.zipIdx

def validate (spec : TypeSpec) : Except SpecError Unit := do
  if spec.name = "" then throw .emptyName
  checkSizes spec.basicsize spec.itemsize
  if spec.legacySlots.isSome && !spec.legacy then throw .legacySlotsWithoutLegacyFlag

def checkCollectable (spec : TypeSpec) : Except SpecError Unit :=
  if spec.flags.contains .garbageCollected && !spec.hasSlot .tpTraverse then
    .error .missingTraverse
  else .ok ()

end TypeSpec
end TypeHost
