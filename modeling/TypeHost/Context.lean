import TypeHost.Flags
import TypeHost.Handle
import TypeHost.Layout

/-!
The host as an extension sees it: a record of queries and of the two casts. The monad is left open.
A host that only reads answers purely; one that records its calls, or answers differently each
time, keeps a state.
-/
namespace TypeHost

structure TypeInfo where
  /-- Type part of the name. -/
  name : String
  /-- Module part of the name, if it is dotted. -/
  module : Option String
  basicsize : Int32
  itemsize : Int32
  flags : TypeFlags
  legacy : Bool
  builtin : Bool
deriving DecidableEq

def TypeInfo.layout (info : TypeInfo) : BaseLayout := ⟨info.legacy, info.builtin⟩

/-- Queries and casts; `π` are the pointers of the host, with `none` for the null pointer. -/
structure Context (m : Type → Type) (π : Type) where
  isType : Handle → m Bool
  /-- `none` if the handle names no tuple. -/
  tupleItems : Handle → m (Option (List Handle))
  typeOf : Handle → m (Option Handle)
  typeInfo : Handle → m (Option TypeInfo)
  isSubtype : Handle → Handle → m Bool
  /-- The struct of a pure instance. -/
  asStruct : Handle → m (Option π)
  /-- The struct of a legacy instance, header included. -/
  asStructLegacy : Handle → m (Option π)

/-- An object belongs to a type if its own type is that type or inherits from it. -/
def Context.isInstanceOf {m : Type → Type} {π : Type} [Monad m] (ctx : Context m π)
    (h ty : Handle) : m Bool := do
  match ← ctx.typeOf h with
  | none => return false
  | some actual => ctx.isSubtype actual ty

end TypeHost
