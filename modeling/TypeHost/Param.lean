import TypeHost.Context

/-!
Parameters that accompany a spec and name its bases. Validation goes through the list from the
front and reports the first offence; resolution then cannot fail on a list that passed.
-/
namespace TypeHost

structure SpecParam where
  kind : ParamKind
  target : Handle
deriving DecidableEq

/-- A parameter on the wire: its kind is any number. -/
structure RawParam where
  kind : Int32
  target : Handle
deriving DecidableEq

namespace RawParam

def decode (raw : RawParam) : Except SpecError SpecParam :=
  match ofCode? raw.kind with
  | some kind => .ok ⟨kind, raw.target⟩
  | none => .error (.unknownParamKind raw.kind)

/-- The null list is empty; the first unknown kind is reported. -/
def decodeAll (raw : Option (List RawParam)) : Except SpecError (List SpecParam) :=
  (raw.getD []).mapM decode

end RawParam

def SpecParam.encode (param : SpecParam) : RawParam := ⟨Numbered.code param.kind, param.target⟩

namespace Context

variable {m : Type → Type} {π : Type} [Monad m]

/-- Asks about one item after the other and stops at the first that is no type. -/
def allTypes (ctx : Context m π) : List Handle → m Bool
  | [] => return true
  | h :: rest => do
    if ← ctx.isType h then ctx.allTypes rest else return false

def acceptsTarget (ctx : Context m π) (param : SpecParam) : m Bool := do
  match param.kind with
  | .base => ctx.isType param.target
  | .basesTuple =>
    match ← ctx.tupleItems param.target with
    | none => return false
    | some items => ctx.allTypes items

/-- Judges the list with the kinds that stood before it. A repeated kind is reported before its
target is looked at. -/
def validateAfter (ctx : Context m π) :
    List ParamKind → List SpecParam → m (Except SpecError Unit)
  | _, [] => return .ok ()
  | seen, param :: rest => do
    if param.kind ∈ seen then return .error (.duplicateParamKind param.kind)
    else if ← ctx.acceptsTarget param then ctx.validateAfter (param.kind :: seen) rest
    else return .error (.invalidParamTarget param.kind)

def validateParams (ctx : Context m π) (params : List SpecParam) : m (Except SpecError Unit) :=
  ctx.validateAfter [] params

/-- The items of the first tuple of bases; without one, the single bases in order. -/
def resolveBases (ctx : Context m π) (params : List SpecParam) :
    m (Except SpecError (List Handle)) := do
  match params.find? (·.kind = .basesTuple) with
  | some param =>
    match ← ctx.tupleItems param.target with
    | some items => return .ok items
    | none => return .error (.invalidParamTarget .basesTuple)
  | none => return .ok ((params.filter (·.kind = .base)).map (·.target))

end Context
end TypeHost
