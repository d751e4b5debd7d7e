import TypeHost.Derive.Attribute
import TypeHost.Derive.Grammar.Path

/-! Generic parameters, binders of lifetimes, and the bounds of types. -/
namespace TypeHost.Derive

/-- A parameter as it is declared, with and without its default, and as the type takes it. -/
structure GenericParam where
  isLifetime : Bool
  declaration : List Token
  default : List Token
  argument : List Token

def GenericParam.whole (param : GenericParam) : List Token := param.declaration ++ param.default

namespace Grammar
open Reader Token

/-- What stands behind a colon, and whether there is one; without anything behind it, it is not
written again. -/
def bounded (bounds : Reader Unit) : Reader Bool := do
  let (colon, _) ← captured (mark? ":")
  if !colon then return false
  let ((), tokens) ← captured bounds
  if !tokens.isEmpty then spell (spellMark [':'] ++ tokens)
  return true

def lifetimeParam : Reader Unit := do
  lifetime
  discard <| bounded (boundsUntil (fun tokens => tokens.isEmpty || startsAnyMark [",", ">"] tokens) lifetime)

def typeParam (g : Grammar) : Reader Unit := do
  discard ident
  discard <| bounded (boundsUntil (fun tokens => tokens.isEmpty || startsAnyMark [",", ">", "="] tokens)
    (g.bound false true))

def typeDefault (g : Grammar) : Reader Unit := do
  if ← mark? "=" then discard (g.type true)

def constParam (g : Grammar) : Reader Unit := do
  word "const"
  discard ident
  mark ":"
  discard (g.type true)

/-- The default of a constant parameter is a constant or a name. -/
def constDefault (g : Grammar) : Reader Unit := do
  if ← mark? "=" then
    let tokens ← rest
    if startsConstant tokens then g.constantArgument
    else if startsIdent tokens then discard ident
    else failUnnamed

/-- A lifetime, a type or a constant by its first token; `unnamed` allows an underscore as well. -/
def genericParam (g : Grammar) (unnamed : Bool) : Reader GenericParam := do
  let (_, attributes) ← captured g.outerAttributes
  let tokens ← rest
  let isLifetime := startsLifetime tokens
  let isConstant := startsWord "const" tokens
  let isType := startsIdent tokens
  let ((), declaration) ← captured <|
    if isLifetime then lifetimeParam
    else if isType then g.typeParam
    else if isConstant then g.constParam
    else if unnamed && startsWord "_" tokens then take
    else if unnamed then fail (.choice ["lifetime", "identifier", "`const`"])
    else fail (.choice ["identifier", "lifetime", "`const`"])
  let ((), default) ← captured <|
    if isType then g.typeDefault
    else if isConstant then g.constDefault
    else return
  return {
    isLifetime
    declaration := attributes ++ declaration
    default
    argument := (if isConstant then tokens.drop 1 else tokens).take 1 }

def binder? (g : Grammar) : Reader Bool := do
  if !(← word? "for") then return false
  mark "<"
  repeated do
    if ← sees (startsMark ">") then return false
    spell (← g.genericParam false).whole
    if ← sees (startsMark ">") then return false
    mark ","
    return true
  mark ">"
  return true

def captures : Reader Unit := do
  word "use"
  mark "<"
  repeated do
    let tokens ← rest
    if startsLifetime tokens || startsIdent tokens || startsWord "Self" tokens then take
    else if startsMark ">" tokens then return false
    else fail (.choice ["lifetime", "identifier", "`>`"])
    if ← sees (startsMark ">") then return false
    if !(← mark? ",") then fail (.choice ["`,`", "`>`"])
    return true
  mark ">"

def traitBound (g : Grammar) (constants : Bool) : Reader BoundKind := do
  let boundBefore ← g.binder?
  let conditional ← sees (startsGroup .bracket)
  if conditional then
    inside .bracket (word "const")
    if !constants then throw (.misplaced .conditionalConstBound)
  let constant ← if conditional then pure false else word? "const"
  if constant && !constants then throw (.misplaced .constBound)
  let relaxed ← mark? "?"
  let boundBehind ← if relaxed && !boundBefore then g.binder? else pure false
  let path ← g.path false
  if path.lastArgs.isEmpty && (← sees startsParenArguments) then
    discard (g.parenArguments path.lastArgs)
  if relaxed && (boundBefore || boundBehind) then throw (.misplaced .boundRelaxed)
  return if conditional || constant then .conditional else .trait

/-- One bound; a trait may stand in parentheses. A conditional bound is written as it stood. -/
def singleBound (g : Grammar) (capturing constants : Bool) : Reader BoundKind := do
  let tokens ← rest
  if startsLifetime tokens then
    lifetime
    return .lifetime
  if startsWord "use" tokens then
    captures
    if !capturing then throw (.misplaced .capture)
    return .capture
  let (kind, spelled) ← captured <|
    if startsGroup .paren tokens then inside .paren (g.traitBound constants)
    else g.traitBound constants
  let taken := tokens.take (tokens.length - (← rest).length)
  spell (if kind = .conditional then taken else spelled)
  return kind

def startsBound (constants : Bool) (tokens : List Token) : Bool :=
  startsAnyIdent tokens || startsAnyMark ["::", "?"] tokens || startsLifetime tokens
    || startsGroup .paren tokens || (constants && startsGroup .bracket tokens)

/-- One or more bounds joined by plus signs, of which the last may stand alone. -/
def bounds (g : Grammar) (plus capturing constants : Bool) : Reader (List BoundKind) := do
  let first ← g.singleBound capturing constants
  let others ← collected do
    if !plus || !(← sees (startsMark "+")) then return none
    mark "+"
    if !(← sees (startsBound constants)) then return none
    some <$> g.singleBound capturing constants
  return first :: others

end Grammar
end TypeHost.Derive
