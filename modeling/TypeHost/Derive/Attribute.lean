import TypeHost.Derive.Grammar

/-!
Attributes of an item: a path, and behind it nothing, a value, or a delimited list of tokens.
-/
namespace TypeHost.Derive

structure AttributePath where
  /-- The path begins with a separator. -/
  rooted : Bool
  segments : List String
deriving DecidableEq

def AttributePath.word? : AttributePath → Option String
  | ⟨false, [word]⟩ => some word
  | _ => none

inductive AttributeArgs where
  | none
  | value
  | list (tokens : List Token)

structure Attribute where
  path : AttributePath
  args : AttributeArgs

namespace Attribute

def listArgs (attr : Attribute) (name : String) : Except DeriveError (List Token) :=
  match attr.args with
  | .none => .error (.missingArguments name)
  | .value => .error (.valueForArguments name)
  | .list tokens => .ok tokens

def isNamed (attr : Attribute) (name : String) : Bool := attr.path.word? = some name

end Attribute

namespace Grammar
open Reader Token

/-- A path without arguments. What stands behind a separator has to be a word of a path. -/
def plainPath : Reader AttributePath := do
  let rooted ← mark? "::"
  if !(← sees startsPathWord) then
    discard ident
  let first ← anyWord
  let others ← collected do
    if !(← mark? "::") then return none
    if !(← sees startsPathWord) then fail .pathSegment
    some <$> anyWord
  return { rooted, segments := first :: others }

def attributeValue (g : Grammar) : Reader Unit := do
  let tokens ← rest
  if startsLiteral tokens && (tokens.drop (literalLength tokens)).isEmpty then literal
  else if startsMark "#" tokens && startsGroup .bracket (tokens.drop 1) then
    throw (.misplaced .attributeInAttribute)
  else discard (g.expression true)

/-- An attribute without its sign and brackets; `unsafe` alone counts as a path. -/
def attributeContent (g : Grammar) : Reader Attribute := do
  let path ← if ← word? "unsafe" then pure ⟨false, ["unsafe"]⟩ else plainPath
  match ← rest with
  | .group .. :: _ => return { path, args := .list (← group).2 }
  | tokens =>
    if !startsMark "=" tokens || startsAnyMark ["==", "=>"] tokens then
      return { path, args := .none }
    mark "="
    g.attributeValue
    return { path, args := .value }

def outerAttributes (g : Grammar) : Reader (List Attribute) :=
  collected do
    if !(← mark? "#") then return none
    some <$> inside .bracket g.attributeContent

def attributedDeclaration (g : Grammar) : Reader Unit :=
  verbatimIf do
    discard g.outerAttributes
    g.declaration

def innerAttributes (g : Grammar) : Reader Unit :=
  repeated do
    let tokens ← rest
    if !startsMark "#" tokens || !startsMark "!" (tokens.drop 1) then return false
    mark "#"
    mark "!"
    discard (inside .bracket g.attributeContent)
    return true

end Grammar
end TypeHost.Derive
