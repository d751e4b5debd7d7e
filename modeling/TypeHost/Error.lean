import TypeHost.Handle
import TypeHost.Numbered

/-!
Causes of failure, each with the one text that describes it. Errors in what an extension hands
over are `SpecError`s; a host adds causes of its own, and so does checked access to an instance.
-/
namespace TypeHost

inductive ParamKind where
  | base | basesTuple
deriving DecidableEq

namespace ParamKind

def name : ParamKind → String
  | .base => "Base"
  | .basesTuple => "BasesTuple"

instance : Numbered ParamKind where
  values := [.base, .basesTuple]
  code
    | .base => 1
    | .basesTuple => 2
  name := name
  find_code v := by cases v <;> rfl

def expected : ParamKind → String
  | .base => "a type"
  | .basesTuple => "a tuple of types"

end ParamKind

inductive SizeField where
  | basicsize | itemsize
deriving DecidableEq

def SizeField.text : SizeField → String
  | .basicsize => "basicsize"
  | .itemsize => "itemsize"

inductive TextField where
  | name | doc | definitionName | definitionDoc
deriving DecidableEq

def TextField.text : TextField → String
  | .name => "name"
  | .doc => "doc"
  | .definitionName => "defines.name"
  | .definitionDoc => "defines.doc"

inductive DefinitionFault where
  | unknownKind | unknownSlot | slotWithoutFunction | missingName | methodWithoutFunction
  | unknownSignature | unknownMemberKind
deriving DecidableEq

def DefinitionFault.text : DefinitionFault → String
  | .unknownKind => "unknown definition kind"
  | .unknownSlot => "unknown slot"
  | .slotWithoutFunction => "slot without a function"
  | .missingName => "missing name"
  | .methodWithoutFunction => "method without a function"
  | .unknownSignature => "unknown method signature"
  | .unknownMemberKind => "unknown member kind"

inductive SpecError where
  | emptyName
  | negativeSize (field : SizeField) (value : Int32)
  | legacySlotsWithoutLegacyFlag
  | duplicateParamKind (kind : ParamKind)
  | invalidParamTarget (kind : ParamKind)
  | pureOverLegacyBuiltin
  | legacyOverPureBase
  | missingTraverse
  | unknownParamKind (code : Int32)
  | nulInText (field : TextField)
  | invalidUtf8 (field : TextField)
  | invalidDefinition (index : Nat) (fault : DefinitionFault)
  | incompatibleBaseLayouts
  | structTooLarge (size : Nat)
deriving DecidableEq

def SpecError.message : SpecError → String
  | .emptyName => "type spec name must not be empty"
  | .negativeSize field value =>
    "type spec field '" ++ field.text ++ "' must not be negative (got " ++ toString value.toInt ++ ")"
  | .legacySlotsWithoutLegacyFlag => "cannot specify .legacy_slots without setting .legacy=true"
  | .duplicateParamKind kind => "duplicate spec parameter of kind " ++ kind.name
  | .invalidParamTarget kind =>
    "spec parameter of kind " ++ kind.name ++ " does not refer to " ++ kind.expected
  | .pureOverLegacyBuiltin =>
    "a pure type cannot declare its own struct over a legacy builtin base"
  | .legacyOverPureBase => "a legacy type should not inherit its memory layout from a pure type"
  | .missingTraverse => "traverse function needed for type with GarbageCollected flag"
  | .unknownParamKind code => "unknown spec parameter kind " ++ toString code.toInt
  | .nulInText field => "type spec field '" ++ field.text ++ "' contains an interior NUL byte"
  | .invalidUtf8 field => "type spec field '" ++ field.text ++ "' is not valid UTF-8"
  | .invalidDefinition index fault =>
    "definition " ++ toString index ++ " is invalid: " ++ fault.text
  | .incompatibleBaseLayouts => "bases disagree on whether instances carry the host header"
  | .structTooLarge size =>
    "instance struct of " ++ toString size ++ " bytes exceeds the largest basicsize"

inductive HostError where
  | spec (cause : SpecError)
  | unknownHandle (handle : Handle)
  | notAType (handle : Handle)
  | baseNotSubclassable (base : String)
  | duplicateTypeName (name : String)
  | instanceTooLarge (name : String) (nitems : UInt64)
deriving DecidableEq

def HostError.message : HostError → String
  | .spec cause => cause.message
  | .unknownHandle handle => "unknown or stale handle " ++ handle.text
  | .notAType handle => "handle " ++ handle.text ++ " does not refer to a type"
  | .baseNotSubclassable base => "type '" ++ base ++ "' is not an acceptable base type"
  | .duplicateTypeName name => "type '" ++ name ++ "' is already defined"
  | .instanceTooLarge name nitems =>
    "instance of '" ++ name ++ "' with " ++ toString nitems.toNat ++ " items is too large"

/-- How the struct of an instance is reached: behind the host header, or with it. -/
inductive LayoutMode where
  | pure | legacy
deriving DecidableEq

def LayoutMode.isLegacy : LayoutMode → Bool
  | .pure => false
  | .legacy => true

def LayoutMode.ofLegacy (legacy : Bool) : LayoutMode := if legacy then .legacy else .pure

def LayoutMode.text : LayoutMode → String
  | .pure => "pure"
  | .legacy => "legacy"

inductive AccessError where
  | unknownHandle (handle : Handle)
  | typeMismatch (handle : Handle) (expected : String)
  | layoutMismatch (expected : String) (accessor actual : LayoutMode)
deriving DecidableEq

def AccessError.message : AccessError → String
  | .unknownHandle handle => "unknown or stale handle " ++ handle.text
  | .typeMismatch handle expected =>
    "handle " ++ handle.text ++ " is not an instance of a type whose struct is " ++ expected
  | .layoutMismatch expected accessor actual =>
    "accessor for " ++ expected ++ " is " ++ accessor.text ++ " but the type is " ++ actual.text

end TypeHost
