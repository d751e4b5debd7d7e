import TypeHost.Definition
import TypeHost.Error
import TypeHost.Wire.CString

/-!
Definition records on the wire. Every field is a plain number, a function pointer or a string
pointer, any of which may be null or unlisted; decoding reports the first fault of a record.
-/
namespace TypeHost

/-- A record by its kind. A record whose kind is not listed has the payload of a slot, and nothing
looks at it. -/
inductive RawDefinition where
  | slot (slot : Int32) (func : Option EntryPoint)
  | method (name : Option CString) (func : Option EntryPoint) (signature : Int32)
      (doc : Option CString)
  | member (name : Option CString) (kind : Int32) (offset : Int64) (readonly : Int32)
      (doc : Option CString)
  | getSet (name : Option CString) (getter setter : Option EntryPoint) (doc : Option CString)
  | unlisted (kind : Int32) (kind_unlisted : ofCode? (α := DefKind) kind = none)
      (slot : Int32) (func : Option EntryPoint)
deriving DecidableEq

def readText (field : TextField) : Option CString → Except SpecError (Option String)
  | none => .ok none
  | some s =>
    match s.text? with
    | some text => .ok (some text)
    | none => .error (.invalidUtf8 field)

def writeText (field : TextField) (text : String) : Except SpecError CString :=
  match CString.ofText? text with
  | some s => .ok s
  | none => .error (.nulInText field)

def writeText? (field : TextField) : Option String → Except SpecError (Option CString)
  | none => .ok none
  | some text => (writeText field text).map some

/-- An integer that stands for a truth value when written; any nonzero one is read as true. -/
def flagCode (b : Bool) : Int32 := if b then 1 else 0

namespace RawDefinition

def kind : RawDefinition → Int32
  | .slot .. => Numbered.code DefKind.slot
  | .method .. => Numbered.code DefKind.method
  | .member .. => Numbered.code DefKind.member
  | .getSet .. => Numbered.code DefKind.getSet
  | .unlisted kind .. => kind

def describe (raw : RawDefinition) : String :=
  "RawDef \x7b kind: " ++ toString raw.kind.toInt ++ ", .. \x7d"

def require {α : Type} (index : Nat) (fault : DefinitionFault) : Option α → Except SpecError α
  | some a => .ok a
  | none => .error (.invalidDefinition index fault)

/-- Reads the record at place `index`. A slot is judged by its number, then its function; the
others by name, then function and signature, or member kind, and by their doc last. -/
def decode (raw : RawDefinition) (index : Nat) : Except SpecError Definition :=
  match raw with
  | .slot code func => do
    let id ← require index .unknownSlot (ofCode? code)
    let func ← require index .slotWithoutFunction func
    return .slot id func
  | .method name func signature doc => do
    let name ← require index .missingName (← readText .definitionName name)
    let func ← require index .methodWithoutFunction func
    let signature ← require index .unknownSignature (ofCode? signature)
    return .method name func signature (← readText .definitionDoc doc)
  | .member name kind offset readonly doc => do
    let name ← require index .missingName (← readText .definitionName name)
    let kind ← require index .unknownMemberKind (ofCode? kind)
    return .member name kind offset (readonly ≠ 0) (← readText .definitionDoc doc)
  | .getSet name getter setter doc => do
    let name ← require index .missingName (← readText .definitionName name)
    return .getSet name getter setter (← readText .definitionDoc doc)
  | .unlisted .. => .error (.invalidDefinition index .unknownKind)

end RawDefinition

def Definition.encode : Definition → Except SpecError RawDefinition
  | .slot id func => .ok (.slot (Numbered.code id) (some func))
  | .method name func signature doc => do
    let name ← writeText .definitionName name
    return .method (some name) (some func) (Numbered.code signature)
      (← writeText? .definitionDoc doc)
  | .member name kind offset readonly doc => do
    let name ← writeText .definitionName name
    return .member (some name) (Numbered.code kind) offset (flagCode readonly)
      (← writeText? .definitionDoc doc)
  | .getSet name getter setter doc => do
    let name ← writeText .definitionName name
    return .getSet (some name) getter setter (← writeText? .definitionDoc doc)

end TypeHost
