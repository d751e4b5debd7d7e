import TypeHost.Definition.Kind
import TypeHost.Definition.Slot

/-!
Definition records: what an extension puts on a type. Later records override earlier ones of the
same key; the survivor keeps the place of the first.
-/
namespace TypeHost

/-- A native function, known only by its identity. -/
structure EntryPoint where
  id : UInt64
deriving DecidableEq

inductive Definition where
  | slot (slot : SlotId) (func : EntryPoint)
  | method (name : String) (func : EntryPoint) (signature : Signature) (doc : Option String)
  | member (name : String) (kind : MemberKind) (offset : Int64) (readonly : Bool)
      (doc : Option String)
  | getSet (name : String) (getter setter : Option EntryPoint) (doc : Option String)
deriving DecidableEq

/-- What a record competes for: a slot, or a name in the one namespace of attributes. -/
inductive DefinitionKey where
  | slot (slot : SlotId)
  | attribute (name : String)
deriving DecidableEq

namespace Definition

def kind : Definition → DefKind
  | .slot .. => .slot
  | .method .. => .method
  | .member .. => .member
  | .getSet .. => .getSet

def key : Definition → DefinitionKey
  | .slot s _ => .slot s
  | .method name .. | .member name .. | .getSet name .. => .attribute name

def name? : Definition → Option String
  | .slot .. => none
  | .method name .. | .member name .. | .getSet name .. => some name

def slot? : Definition → Option SlotId
  | .slot s _ => some s
  | _ => none

end Definition

/-- Puts `a` in the place of the entry with its key, or at the end if there is none. -/
def overrideWith {α κ : Type} [DecidableEq κ] (key : α → κ) (a : α) : List α → List α
  | [] => [a]
  | b :: rest => if key b = key a then a :: rest else b :: overrideWith key a rest

/-- Each key once, at the place of its first entry and with its last entry. -/
def effective {α κ : Type} [DecidableEq κ] (key : α → κ) (entries : List α) : List α :=
  entries.foldl (fun kept a => overrideWith key a kept) []

end TypeHost
