import TypeHost.Derive.Grammar.Bound

/-! Types: paths, functions, references, objects, tuples and what else may name a type. -/
namespace TypeHost.Derive

inductive ParenContent where
  /-- A type that ends with them. -/
  | complete (shape : TypeShape)
  | bound
  | type (shape : TypeShape)

/-- The type may be the first of several bounds if parentheses are put around it. -/
def TypeShape.isBound : TypeShape → Bool
  | .path shape => !shape.qualified
  | .object alone => alone
  | _ => false

namespace Grammar
open Reader Token

def startsTypePath (tokens : List Token) : Bool :=
  startsIdent tokens || startsAnyWord pathKeywords tokens || startsAnyMark ["::", "<"] tokens

def furtherBounds (g : Grammar) : Reader Bool := do
  let others ← collected do
    if !(← mark? "+") then return none
    some <$> g.singleBound true true
  return !others.isEmpty

def objectBounds (g : Grammar) (plus : Bool) : Reader Unit := do
  let kinds ← g.bounds plus false false
  if kinds.all (· = .lifetime) then throw (.misplaced .objectWithoutTrait)

def parenContent (g : Grammar) : Reader ParenContent := do
  let tokens ← rest
  if tokens.isEmpty then return .complete .other
  if startsLifetime tokens then
    g.objectBounds true
    return .complete .paren
  if startsMark "?" tokens then
    discard (g.traitBound true)
    return .bound
  let first ← g.type true
  if !(← mark? ",") then return .type first
  discard (terminated (g.type true))
  return .complete .other

/-- A bound takes one pair of parentheses at most; of two around it one is written again. -/
def joinParens : Reader Unit :=
  modify fun p =>
    { p with spelled :=
        match p.spelled with
        | .group .paren [.group .paren inner] :: spelled => .group .paren inner :: spelled
        | spelled => spelled }

def parenType (g : Grammar) (plus : Bool) : Reader TypeShape := do
  match ← inside .paren g.parenContent with
  | .complete shape => return shape
  | .bound => return .object !(← g.furtherBounds)
  | .type first =>
    if !plus || !first.isBound || !(← sees (startsMark "+")) then return .paren
    joinParens
    discard g.furtherBounds
    return .object false

/-- A parameter of a function type may have a name. The first one may be a receiver that changes,
which is written as it stood. -/
def functionTypeParam (g : Grammar) (first : Bool) : Reader Unit :=
  verbatimIf do
    let tokens ← rest
    let behind := tokens.drop 1
    let mutable := first && startsWord "mut" tokens && startsWord "self" behind
    if mutable then word "mut"
    let tokens := if mutable then behind else tokens
    let named :=
      (startsIdent tokens || startsWord "_" tokens || (first && startsWord "self" tokens))
        && startsMark ":" (tokens.drop 1) && !startsMark "::" (tokens.drop 1)
    if named then
      discard anyWord
      mark ":"
    if mutable && !named then word "self" else discard (g.type true)
    return mutable

/-- A function type stands for a C function if dots end its parameters. -/
def variadic (tokens : List Token) : Bool :=
  startsMark "..." tokens
    || ((startsIdent tokens || startsWord "_" tokens) && startsMark ":" (tokens.drop 1)
      && startsMark "..." (tokens.drop 2))

def linkage : Reader Unit := do
  if ← word? "extern" then
    if ← sees startsText then take

def functionType (g : Grammar) : Reader Unit := do
  discard (word? "unsafe")
  linkage
  word "fn"
  inside .paren do
    discard <| iterate (fun first => do
      if ← atEnd then return none
      discard g.outerAttributes
      if ← sees variadic then
        if !(← sees (startsMark "...")) then
          discard anyWord
          mark ":"
        mark "..."
        discard (mark? ",")
        return none
      g.functionTypeParam first
      if ← atEnd then return none
      mark ","
      return some false) true
  discard g.result?

def pathType (g : Grammar) (plus bound : Bool) : Reader TypeShape := do
  let path ← g.typePath
  if path.qualified then return .path path
  let tokens ← rest
  if startsMark "!" tokens && !startsMark "!=" tokens && path.isPlain then
    mark "!"
    discard group
    return .other
  if !bound && !(plus && startsMark "+" tokens) then return .path path
  repeated do
    if !plus || !(← sees (startsMark "+")) then return false
    mark "+"
    if !(← sees (startsBound false)) then return false
    discard (g.singleBound true true)
    return true
  return .object !(plus && startsMark "+" tokens)

def afterBinder (tokens : List Token) : Bool :=
  (startsIdent tokens || startsAnyWord ("fn" :: "unsafe" :: "extern" :: pathKeywords) tokens)

def pointerType (g : Grammar) : Reader Unit := do
  mark "*"
  if !(← sees (startsAnyWord ["const", "mut"])) then fail (.choice ["`const`", "`mut`"])
  take
  discard (g.type false)

def referenceType (g : Grammar) : Reader Unit := do
  mark "&"
  if ← sees startsLifetime then lifetime
  discard (word? "mut")
  discard (g.type false)

def bracketType (g : Grammar) : Reader Unit :=
  inside .bracket do
    discard (g.type true)
    if ← mark? ";" then discard (g.expression true)

def opaqueType (g : Grammar) (plus : Bool) : Reader Unit := do
  word "impl"
  let kinds ← g.bounds plus true true
  if kinds.all fun kind => kind = .lifetime || kind = .capture then
    throw (.misplaced .opaqueWithoutTrait)

/-- An object by its bounds. With a star it is written as it stood. -/
def dynamicType (g : Grammar) (plus : Bool) : Reader Unit :=
  verbatimIf do
    word "dyn"
    let starred ← mark? "*"
    g.objectBounds plus
    return starred

def wholeType (g : Grammar) (plus : Bool) : Reader TypeShape := do
  let bound ← g.binder?
  let tokens ← rest
  if bound && !afterBinder tokens then
    fail (.choice ["identifier", "`fn`", "`unsafe`", "`extern`", "`super`", "`self`", "`Self`",
      "`crate`"])
  if startsGroup .paren tokens then g.parenType plus
  else if startsAnyWord ["fn", "unsafe", "extern"] tokens then
    g.functionType
    return .other
  else if startsTypePath tokens then g.pathType plus bound
  else if startsWord "dyn" tokens then
    g.dynamicType plus
    return .other
  else if startsGroup .bracket tokens then
    g.bracketType
    return .other
  else if startsMark "*" tokens then
    g.pointerType
    return .other
  else if startsMark "&" tokens then
    g.referenceType
    return .other
  else if startsMark "!" tokens then
    mark "!"
    return .other
  else if startsWord "impl" tokens then
    g.opaqueType plus
    return .other
  else if startsWord "_" tokens then
    word "_"
    return .other
  else if startsLifetime tokens then
    g.objectBounds true
    return .object false
  else
    fail (.choice ["`for`", "parentheses", "`fn`", "`unsafe`", "`extern`", "identifier", "`::`",
      "`<`", "`dyn`", "square brackets", "`*`", "`&`", "`!`", "`impl`", "`_`", "lifetime"])

end Grammar
end TypeHost.Derive
