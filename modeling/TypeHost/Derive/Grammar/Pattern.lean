import TypeHost.Derive.Grammar.Bound
import TypeHost.Derive.Grammar.Member

/-! Patterns of matches, bindings and parameters. -/
namespace TypeHost.Derive.Grammar
open Reader Token

def startsAlternative (tokens : List Token) : Bool :=
  startsMark "|" tokens && !startsAnyMark ["||", "|="] tokens

def alternatives (g : Grammar) : Reader PatternShape := do
  let leading ← mark? "|"
  let first ← g.pattern
  let others ← collected do
    if !(← sees startsAlternative) then return none
    mark "|"
    some <$> g.pattern
  return if leading || !others.isEmpty then .other else first

/-- Two or three dots between the ends of a range; whether the upper end belongs to it. -/
def patternDots (obsolete : Bool) : Reader Bool := do
  let tokens ← rest
  if startsMark "..=" tokens then
    mark "..="
    return true
  else if startsMark "..." tokens && obsolete then
    discard (captured (mark "..."))
    spell (spellMark "..=".toList)
    return true
  else if startsMark ".." tokens && !startsMark "..." tokens then
    mark ".."
    return false
  else fail (.sign "..=")

def endsPattern (tokens : List Token) : Bool :=
  tokens.isEmpty || startsAnyMark ["|", "=", ",", ";"] tokens
    || (startsMark ":" tokens && !startsMark "::" tokens) || startsWord "if" tokens

def rangeEnd? (g : Grammar) : Reader Bool := do
  let tokens ← rest
  if endsPattern tokens then return false
  if startsLiteral tokens then literal
  else if startsIdent tokens || startsAnyMark ["::", "<"] tokens
      || startsAnyWord pathKeywords tokens then
    discard (g.qualifiedPath true)
  else if startsWord "const" tokens then
    word "const"
    g.block true
  else
    fail (.choice ["literal", "identifier", "`::`", "`<`", "`self`", "`Self`", "`super`", "`crate`",
      "`const`"])
  return true

/-- The rest of a range; its shape tells whether it is open above. -/
def rangeBehind (g : Grammar) (obsolete : Bool) : Reader PatternShape := do
  let closed ← patternDots obsolete
  let bounded ← g.rangeEnd?
  if closed && !bounded then fail .rangeEnd
  return if bounded then .other else .openRange

def elements (g : Grammar) : Reader Unit := discard (terminated g.alternatives)

def sliceElements (g : Grammar) : Reader Unit :=
  discard <| terminated do
    if (← g.alternatives) = .openRange then throw (.misplaced .openRangeInSlice)

def fieldPattern (g : Grammar) : Reader Unit := do
  let boxed ← word? "box"
  let byRef ← word? "ref"
  let mutable ← word? "mut"
  if boxed || byRef || mutable then discard ident
  else
    let named ← fieldName
    if !named || (← sees (startsMark ":")) then
      mark ":"
      discard g.alternatives

def structPattern (g : Grammar) : Reader Unit :=
  inside .brace <| repeated do
    if ← atEnd then return false
    discard g.outerAttributes
    if ← mark? ".." then return false
    g.fieldPattern
    if ← atEnd then return false
    mark ","
    return true

def pathPattern (g : Grammar) : Reader PatternShape := do
  let path ← g.qualifiedPath true
  let tokens ← rest
  if !path.qualified && path.isPlain && startsMark "!" tokens && !startsMark "!=" tokens then
    mark "!"
    discard group
    return .other
  if startsGroup .brace tokens then
    g.structPattern
    return .other
  if startsGroup .paren tokens then
    inside .paren g.elements
    return .other
  if startsMark ".." tokens then return ← g.rangeBehind true
  return .other

def startsPathPattern (tokens : List Token) : Bool :=
  let behind := tokens.drop 1
  (startsIdent tokens
      && (startsAnyMark ["::", "!", ".."] behind || startsGroup .brace behind
        || startsGroup .paren behind))
    || (startsWord "self" tokens && startsMark "::" behind)
    || startsAnyMark ["::", "<"] tokens || startsAnyWord ["Self", "super", "crate"] tokens

def namePattern (g : Grammar) : Reader Unit := do
  discard (word? "ref")
  discard (word? "mut")
  if !(← word? "self") then discard ident
  if ← mark? "@" then discard g.pattern

def singlePattern (g : Grammar) : Reader PatternShape := do
  let tokens ← rest
  if startsPathPattern tokens then g.pathPattern
  else if startsWord "_" tokens then
    word "_"
    return .other
  else if startsWord "box" tokens then
    verbatim do
      word "box"
      discard g.pattern
    return .other
  else if startsMark "-" tokens || startsLiteral tokens || startsWord "const" tokens then
    discard g.rangeEnd?
    if ← sees (startsMark "..") then g.rangeBehind true else return .other
  else if startsIdent tokens || startsAnyWord ["ref", "mut", "self"] tokens then
    g.namePattern
    return .other
  else if startsMark "&" tokens then
    mark "&"
    discard (word? "mut")
    discard g.pattern
    return .other
  else if startsGroup .paren tokens then
    inside .paren g.elements
    return .other
  else if startsGroup .bracket tokens then
    inside .bracket g.sliceElements
    return .other
  else if startsMark ".." tokens && !startsMark "..." tokens then
    match ← g.rangeBehind false with
    | .openRange => return .rest
    | _ => return .openRange
  else
    fail (.choice (["identifier", "`::`", "`<`", "`_`", "literal", "`const`", "`ref`", "`mut`", "`&`",
      "parentheses", "square brackets"] ++ if startsMark "..." tokens then [] else ["`..`"]))

end TypeHost.Derive.Grammar
