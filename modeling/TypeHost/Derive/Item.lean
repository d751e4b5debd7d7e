import TypeHost.Derive.Grammar.Nesting
import TypeHost.Derive.Token.Scan

/-!
Items: data types with their attributes, parameters and fields, and how they are read. Nothing is
judged here but the form.
-/
namespace TypeHost.Derive

/-- A data type as the derivation sees it. -/
structure Item where
  shape : ItemShape
  name : String
  attributes : List Attribute
  fieldTypes : List TypeShape
  generics : Generics

namespace Grammar
open Reader Token

def item (g : Grammar) : Reader Item := do
  let attributes ← g.outerAttributes
  discard visibility
  let tokens ← rest
  if !startsAnyWord ["struct", "enum", "union"] tokens then
    fail (.choice ["`struct`", "`enum`", "`union`"])
  take
  let name ← ident
  let params ← g.genericParams
  let body ← g.dataBody tokens
  return {
    shape := body.shape
    name
    attributes
    fieldTypes := body.fieldTypes
    generics := { params, predicates := body.predicates } }

def hints (tokens : List Token) : Except DeriveError (List Attribute) :=
  (terminated (sufficient tokens).attributeContent).run tokens

end Grammar

structure ItemText where
  shape : ItemShape
  name : String
  attributes : List String
  fieldTypes : List String
  generics : List String
  whereClause : Option String
deriving DecidableEq

namespace ItemText

def listed (texts : List String) : String := ", ".intercalate texts

def braced (text : String) : String := " \x7b " ++ text ++ " \x7d"

def namedFields (text : ItemText) : String :=
  braced (listed (text.fieldTypes.mapIdx fun i type => "f" ++ toString i ++ ": " ++ type))

def variants (text : ItemText) : String :=
  braced (listed (text.fieldTypes.mapIdx fun i type => "V" ++ toString i ++ "(" ++ type ++ ")"))

def source (text : ItemText) : String :=
  let attributes := String.join (text.attributes.map fun attr => "#[" ++ attr ++ "]\n")
  let head := text.name ++ if text.generics.isEmpty then "" else "<" ++ listed text.generics ++ ">"
  let clause := (text.whereClause.map (" where " ++ ·)).getD ""
  attributes ++
    match text.shape with
    | .named => "struct " ++ head ++ clause ++ text.namedFields
    | .tuple => "struct " ++ head ++ "(" ++ listed text.fieldTypes ++ ")" ++ clause ++ ";"
    | .unit => "struct " ++ head ++ clause ++ ";"
    | .union => "union " ++ head ++ clause ++ text.namedFields
    | .enumeration => "enum " ++ head ++ clause ++ text.variants

/-- Reads the whole item; nothing may be left over. -/
def read (text : ItemText) : Except DeriveError Item :=
  match Token.scan? text.source with
  | some tokens => (Grammar.sufficient tokens).item.run tokens
  | none => .error .unreadable

end ItemText
end TypeHost.Derive
