import TypeHost.Derive.Generics

/-! Data types behind their names: fields, variants and where clauses. -/
namespace TypeHost.Derive

inductive ItemShape where
  /-- A struct with named fields. -/
  | named
  /-- A struct with numbered fields. -/
  | tuple
  /-- A struct without fields. -/
  | unit
  | union
  | enumeration
deriving DecidableEq

def ItemShape.isStruct : ItemShape → Bool
  | .named | .tuple | .unit => true
  | .union | .enumeration => false

/-- What stands behind the name and the parameters of a data type. -/
structure DataBody where
  shape : ItemShape
  fieldTypes : List TypeShape
  predicates : List Token

namespace Grammar
open Reader Token

/-- How far an item or a field can be seen; whether anything is said of it. -/
def visibility : Reader Bool := do
  if !(← word? "pub") then return false
  match ← rest with
  | .group .paren inner :: _ =>
    if startsWord "in" inner then
      inside .paren do
        word "in"
        discard plainPath
    else if startsAnyWord ["crate", "self", "super"] inner && (inner.drop 1).isEmpty then take
  | _ => pure ()
  return true

def startsAnonymous (tokens : List Token) : Bool :=
  startsWord "struct" tokens || (startsWord "union" tokens && startsGroup .brace (tokens.drop 1))

/-- The type of a field with a name. In place of a type, a field called by an underscore may have
fields, which are written as they stood. -/
def namedField (g : Grammar) : Reader TypeShape := do
  discard g.outerAttributes
  discard visibility
  let unnamed ← word? "_"
  if !unnamed then discard ident
  mark ":"
  if unnamed && startsAnonymous (← rest) then
    verbatim do
      take
      discard g.fields
    return .other
  g.type true

def numberedField (g : Grammar) : Reader TypeShape := do
  discard g.outerAttributes
  discard visibility
  g.type true

def namedFields (g : Grammar) : Reader (List TypeShape) :=
  inside .brace (terminated g.namedField)

def numberedFields (g : Grammar) : Reader (List TypeShape) :=
  inside .paren (terminated g.numberedField)

/-- A variant of an enumeration, with its fields and its number. How far it can be seen is not
written again. -/
def variant (g : Grammar) : Reader Unit := do
  discard g.outerAttributes
  discard (captured visibility)
  discard ident
  let tokens ← rest
  if startsGroup .brace tokens then discard g.namedFields
  else if startsGroup .paren tokens then discard g.numberedFields
  if ← mark? "=" then discard (g.expression true)

def tupleEnd (clause : Option (List Token)) : Reader Unit := do
  if !(← sees (startsMark ";")) then
    fail (if clause.isSome then .sign ";" else .choice ["`where`", "`;`"])
  mark ";"

/-- The fields of a struct and its where clause, which stands behind numbered fields and in front of
named ones. -/
def structBody (g : Grammar) : Reader DataBody := do
  let clause ← g.whereClause?
  let tokens ← rest
  if clause.isNone && startsGroup .paren tokens then
    let fields ← g.numberedFields
    let clause ← g.whereClause?
    tupleEnd clause
    return ⟨.tuple, fields, clause.getD []⟩
  if startsGroup .brace tokens then return ⟨.named, ← g.namedFields, clause.getD []⟩
  if !startsMark ";" tokens then
    fail (if clause.isSome then .choice ["curly braces", "`;`"]
      else .choice ["`where`", "parentheses", "curly braces", "`;`"])
  mark ";"
  return ⟨.unit, [], clause.getD []⟩

def unionBody (g : Grammar) : Reader DataBody := do
  let clause ← g.whereClause?
  return ⟨.union, ← g.namedFields, clause.getD []⟩

def enumerationBody (g : Grammar) : Reader DataBody := do
  let clause ← g.whereClause?
  discard (inside .brace (terminated g.variant))
  return ⟨.enumeration, [], clause.getD []⟩

def dataBody (g : Grammar) (tokens : List Token) : Reader DataBody :=
  if startsWord "struct" tokens then g.structBody
  else if startsWord "union" tokens then g.unionBody
  else g.enumerationBody

end Grammar
end TypeHost.Derive
