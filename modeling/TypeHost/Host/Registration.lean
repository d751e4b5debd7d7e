import TypeHost.Host.Subtype

/-!
Registering types: those the host provides and those an extension describes by a spec. All checks
come before the first change to the host.
-/
namespace TypeHost

def liftSpec {α : Type} : Except SpecError α → Except HostError α
  | .ok a => .ok a
  | .error e => .error (.spec e)

namespace Host

def registerBuiltin (host : Host) (builtin : BuiltinType) : Except HostError Handle × Host :=
  HostM.on host do
    liftSpec (checkSizes builtin.basicsize builtin.itemsize)
    if ((← get).lookup builtin.name).isSome then throw (.duplicateTypeName builtin.name)
    modify (·.retainAll [objectType])
    modifyGet (·.insertType (builtin.register [objectType]))

/-- The host that a call leaves, which is given up if the call fails. -/
def proceed : Except HostError Handle × Host → Except HostError Host
  | (.ok _, next) => .ok next
  | (.error cause, _) => .error cause

/-- A core host with further types of its own, in order; the first failure ends it. -/
def create (gcMode : GcMode) (builtins : List BuiltinType) : Except HostError Host :=
  builtins.foldlM (fun host builtin => proceed (host.registerBuiltin builtin)) (core gcMode)

/-- The handles that a new type inherits from; without any it inherits from the universal base. -/
def basesFor (host : Host) (params : List SpecParam) : Except HostError (List Handle) := do
  match ← liftSpec (host.context.resolveBases params) with
  | [] => return [objectType]
  | bases => return bases

def findBase (host : Host) (h : Handle) : Except HostError RegisteredType := do
  let t ← host.findType h
  if !t.flags.contains .baseType then throw (.baseNotSubclassable t.name)
  return t

/-- What a new type takes from its bases: an inherited struct is the largest one among them. -/
def largest (size : RegisteredType → Int32) (types : List RegisteredType) : Int32 :=
  types.foldl (fun most t => max most (size t)) 0

def recordFor (spec : TypeSpec) (bases : List Handle) (types : List RegisteredType)
    (legacy : Bool) : RegisteredType where
  name := spec.name
  basicsize := if spec.basicsize = 0 then largest (·.basicsize) types else spec.basicsize
  itemsize := if spec.itemsize = 0 then largest (·.itemsize) types else spec.itemsize
  flags := spec.flags.union .heapAllocated
  legacy := legacy
  builtin := false
  bases := bases
  doc := spec.doc
  slots := spec.effectiveDefines.filterMap (·.slot?)
  attrs := spec.effectiveDefines.filterMap (·.name?)
  defaultNew := 0 < spec.basicsize && .tpNew ∉ spec.effectiveDefines.filterMap (·.slot?)

/-- All checks of a registration in their order, ending in the record of the new type. The universal
base has no say in the layout. -/
def plan (host : Host) (spec : TypeSpec) (params : List SpecParam) :
    Except HostError RegisteredType := do
  liftSpec spec.validate
  liftSpec (host.context.validateParams params)
  if (host.lookup spec.name).isSome then throw (.duplicateTypeName spec.name)
  let bases ← host.basesFor params
  let types ← bases.mapM host.findBase
  let layouts := ((bases.zip types).filter (·.1 ≠ objectType)).map (·.2.info.layout)
  let legacy ← liftSpec (spec.resolveLayoutOver layouts)
  if host.gcMode = .refCounting then liftSpec spec.checkCollectable
  return recordFor spec bases types legacy

/-- Creates a type and takes a reference to each of its bases. -/
def typeFromSpec (host : Host) (spec : TypeSpec) (params : List SpecParam) :
    Except HostError Handle × Host :=
  HostM.on host do
    let t ← (← get).plan spec params
    modify (·.retainAll t.bases)
    modifyGet (·.insertType t)

end Host
end TypeHost
