import TypeHost.Derive.Grammar.Operator
import TypeHost.Derive.Grammar.Pattern

/-!
Expressions. Operands are atoms with signs in front and calls, fields and indices behind; operators
join them by how tightly they bind.
-/
namespace TypeHost.Derive.Grammar
open Reader Token

def arguments (g : Grammar) : Reader Unit := discard (terminated (g.expression true))

/-- The marks of a range; whether its upper end belongs to it. -/
def rangeDots : Reader Bool := patternDots false

/-- What stands behind an operator: an operand, and all that binds it more tightly. Assignments
group to the right. -/
def rightSide (g : Grammar) (braces : Bool) (operator : Precedence) : Reader Unit := do
  let operand ← g.operand braces
  discard <| iterate (fun left => do
    let tokens ← rest
    let next := precedence tokens
    if next.level < operator.level || (next = operator && operator ≠ .assignment) then return none
    let left ← g.continued braces next left
    return if (← rest).length = tokens.length then none else some left) operand

/-- The upper end of a range; it is left out only in a range that does not contain it. -/
def upperEnd (g : Grammar) (braces closed : Bool) : Reader Unit := do
  if closed || !(← sees (endsRange braces)) then g.rightSide braces .range

/-- A cast is not continued as if it were an operand. -/
def checkCast : Reader Unit := do
  let tokens ← rest
  let behind := tokens.drop 1
  if startsPoint tokens then
    throw <| .misplaced <| .castFollowed <|
      if startsWord "await" behind then "`.await`"
      else if startsIdent behind
          && (startsGroup .paren (tokens.drop 2) || startsMark "::" (tokens.drop 2)) then
        "a method call"
      else "a field access"
  if startsMark "?" tokens then throw (.misplaced (.castFollowed "`?`"))
  if startsGroup .bracket tokens then throw (.misplaced (.castFollowed "indexing"))
  if startsGroup .paren tokens then throw (.misplaced (.castFollowed "a function call"))

/-- One operator and its right side, if it binds at least that tightly. A range is not continued. -/
def continueOnce (g : Grammar) (braces : Bool) (base : Precedence) (left : ExpressionShape) :
    Reader (Option ExpressionShape) := do
  let tokens ← rest
  if left = .range then return none
  match operator? tokens with
  | some (text, operator) =>
    if operator.level < base.level then return none
    if operator = .comparison && left = .comparison then throw (.misplaced .chainedComparison)
    mark text
    g.rightSide braces operator
    return some (if operator = .comparison then .comparison else .other)
  | none =>
    if base.level ≤ Precedence.assignment.level && startsAssignment tokens then
      mark "="
      g.rightSide braces .assignment
      return some .other
    if base.level ≤ Precedence.range.level && startsMark ".." tokens then
      g.upperEnd braces (← rangeDots)
      return some .range
    if ← word? "as" then
      discard (g.type false)
      checkCast
      return some .other
    return none

def continueAll (g : Grammar) (braces : Bool) (base : Precedence) :
    ExpressionShape → Reader ExpressionShape :=
  iterate (g.continueOnce braces base)

def member (g : Grammar) : Reader Unit := do
  if ← nestedNumbers then return
  if ← word? "await" then return
  let named ← fieldName
  let turbofish ← pure named <&&> sees (startsMark "::")
  if turbofish then
    mark "::"
    discard g.angleArguments
  if turbofish || (named && (← sees (startsGroup .paren))) then inside .paren g.arguments

/-- One thing attached to an operand. A range takes neither a point nor a question mark. -/
def attachOnce (g : Grammar) (left : ExpressionShape) : Reader (Option ExpressionShape) := do
  let tokens ← rest
  if startsGroup .paren tokens then
    inside .paren g.arguments
    return some .other
  if left ≠ .range && startsPoint tokens then
    mark "."
    g.member
    return some .other
  if startsGroup .bracket tokens then
    discard (inside .bracket (g.expression true))
    return some .other
  if left ≠ .range && startsMark "?" tokens then
    mark "?"
    return some .other
  return none

def attachAll (g : Grammar) : ExpressionShape → Reader ExpressionShape := iterate g.attachOnce

def structFields (g : Grammar) : Reader Unit :=
  inside .brace <| repeated do
    if ← atEnd then return false
    if ← mark? ".." then
      if !(← atEnd) then discard (g.expression true)
      return false
    discard g.outerAttributes
    let named ← fieldName
    if !named || (← sees (startsMark ":")) then
      mark ":"
      discard (g.expression true)
    if ← atEnd then return false
    mark ","
    return true

def pathExpression (g : Grammar) (braces : Bool) : Reader ExpressionShape := do
  let path ← g.qualifiedPath true
  let tokens ← rest
  if !path.qualified && path.isPlain && startsMark "!" tokens && !startsMark "!=" tokens then
    mark "!"
    return .invocation (← group).1
  if braces && startsGroup .brace tokens then g.structFields
  return .other

def listExpression (g : Grammar) : Reader Unit :=
  inside .bracket do
    if ← atEnd then return
    discard (g.expression true)
    if ← atEnd then return
    if ← mark? "," then g.arguments
    else if ← mark? ";" then discard (g.expression true)
    else fail .commaOrSemicolon

def closureParam (g : Grammar) : Reader Unit := do
  discard g.outerAttributes
  discard g.pattern
  if ← mark? ":" then discard (g.type true)

/-- A closure, from its qualifiers on. With a result type it needs a block. -/
def closure (g : Grammar) (braces : Bool) : Reader Unit := do
  discard g.binder?
  discard (word? "const")
  discard (word? "static")
  discard (word? "async")
  discard (word? "move")
  mark "|"
  repeated do
    if ← sees (startsMark "|") then return false
    g.closureParam
    if ← sees (startsMark "|") then return false
    mark ","
    return true
  mark "|"
  if ← mark? "->" then
    discard (g.type true)
    g.block false
  else discard (g.expression braces)

def startsClosure (tokens : List Token) : Bool :=
  let behind := tokens.drop 1
  startsMark "|" tokens || startsAnyWord ["move", "static"] tokens || startsBinder tokens
    || (startsWord "const" tokens && !startsGroup .brace behind)
    || (startsWord "async" tokens && (startsMark "|" behind || startsWord "move" behind))

def conditional (g : Grammar) : Reader Unit :=
  repeated do
    word "if"
    discard (g.expression false)
    g.block false
    if !(← word? "else") then return false
    let tokens ← rest
    if startsWord "if" tokens then return true
    if !startsGroup .brace tokens then fail (.choice ["`if`", "curly braces"])
    g.block false
    return false

def loop (g : Grammar) : Reader Unit := do
  if ← word? "while" then discard (g.expression false)
  else if ← word? "for" then
    discard g.alternatives
    word "in"
    discard (g.expression false)
  else word "loop"
  g.block true

def labelled (g : Grammar) : Reader Unit := do
  lifetime
  mark ":"
  let tokens ← rest
  if startsAnyWord ["while", "for", "loop"] tokens then g.loop
  else if startsGroup .brace tokens then g.block true
  else fail .loopOrBlock

/-- An arm of a match. A comma may be left out behind a block and behind the last arm. -/
def arm (g : Grammar) : Reader Unit := do
  discard g.outerAttributes
  discard g.alternatives
  if ← word? "if" then discard (g.expression true)
  mark "=>"
  let body ← g.body
  if !(← mark? ",") && body ≠ .block && !(← atEnd) then mark ","

def matching (g : Grammar) : Reader Unit := do
  word "match"
  discard (g.expression false)
  inside .brace do
    g.innerAttributes
    repeated do
      if ← atEnd then return false
      g.arm
      return true

def binding (g : Grammar) (braces : Bool) : Reader Unit := do
  word "let"
  discard g.alternatives
  mark "="
  discard (g.continueAll braces .comparison (← g.operand braces))

/-- A value that is given back, if there is one. Without `braces` a group in them is none. -/
def value? (g : Grammar) (braces : Bool) : Reader Unit := do
  let tokens ← rest
  if startsExpression tokens && (braces || !startsGroup .brace tokens) then
    discard (g.expression true)

/-- Leaves a loop or a block, by its name or not. A labelled loop is no value. -/
def leaving (g : Grammar) (braces : Bool) : Reader Unit := do
  word "break"
  let tokens ← rest
  if startsLifetime tokens then
    if startsMark ":" (tokens.drop 1) then
      discard (g.expression true)
      throw (.misplaced .unparenthesizedLoop)
    lifetime
  g.value? braces

def keywordExpression (g : Grammar) (braces : Bool) : Reader ExpressionShape := do
  match ← rest with
  | .ident "if" :: _ =>
    g.conditional
    return .block
  | .ident "while" :: _ | .ident "for" :: _ | .ident "loop" :: _ =>
    g.loop
    return .block
  | .ident "match" :: _ =>
    g.matching
    return .block
  | .ident "unsafe" :: _ | .ident "const" :: _ =>
    take
    g.block true
    return .block
  | .ident "try" :: .group .brace _ :: _ =>
    take
    g.block false
    return .block
  | .ident "async" :: _ =>
    take
    discard (word? "move")
    g.block false
    return .other
  | .ident "let" :: _ =>
    g.binding braces
    return .other
  | .ident "break" :: _ =>
    g.leaving braces
    return .other
  | .ident "continue" :: _ =>
    take
    if ← sees startsLifetime then lifetime
    return .other
  | .ident "return" :: _ | .ident "yield" :: _ =>
    take
    g.value? true
    return .other
  | .ident "become" :: _ =>
    take
    discard (g.expression true)
    return .other
  | .ident "_" :: _ =>
    take
    return .other
  | _ => fail .expression

def startsAsyncBlock (tokens : List Token) : Bool :=
  startsWord "async" tokens
    && (startsGroup .brace (tokens.drop 1)
      || (startsWord "move" (tokens.drop 1) && startsGroup .brace (tokens.drop 2)))

def startsPathExpression (tokens : List Token) : Bool :=
  startsIdent tokens || startsAnyMark ["::", "<"] tokens || startsAnyWord pathKeywords tokens
    || (startsWord "try" tokens && startsAnyMark ["!", "::"] (tokens.drop 1))

def startsIntrinsic (tokens : List Token) : Bool :=
  startsWord "builtin" tokens && startsMark "#" (tokens.drop 1)

def intrinsic : Reader Unit := do
  word "builtin"
  mark "#"
  discard ident
  if !(← sees (startsGroup .paren)) then fail (.pair .paren)
  discard group

def startsAttachment (tokens : List Token) : Bool :=
  startsGroup .paren tokens || startsGroup .bracket tokens || startsPoint tokens
    || startsMark "?" tokens

/-- An operand without a form of its own, which is written as it stood. -/
def startsFormless (tokens : List Token) : Bool :=
  startsWord "become" tokens || (startsIntrinsic tokens && !startsAttachment (tokens.drop 4))

def behindAttributes : List Token → List Token
  | .punct '#' _ :: .group .bracket _ :: rest => behindAttributes rest
  | tokens => tokens

def atom (g : Grammar) (braces : Bool) : Reader ExpressionShape := do
  let tokens ← rest
  if startsLiteral tokens then
    literal
    return .other
  if startsAsyncBlock tokens then return ← g.keywordExpression braces
  if startsClosure tokens then
    g.closure braces
    return .other
  if startsWord "async" tokens then fail .expression
  if startsIntrinsic tokens then
    verbatim intrinsic
    return .other
  if startsPathExpression tokens then return ← g.pathExpression braces
  match tokens with
  | .group .paren _ :: _ =>
    inside .paren g.arguments
    return .other
  | .group .bracket _ :: _ =>
    g.listExpression
    return .other
  | .group .brace _ :: _ =>
    g.block true
    return .block
  | .lifetime _ :: _ =>
    g.labelled
    return .block
  | _ =>
    if startsMark ".." tokens then
      g.upperEnd braces (← rangeDots)
      return .range
    g.keywordExpression braces

def wholeOperand (g : Grammar) (braces : Bool) : Reader ExpressionShape := do
  if startsFormless (behindAttributes (← rest)) then
    verbatim do
      discard g.outerAttributes
      discard (g.atom braces)
    return .other
  let attributes ← g.outerAttributes
  if ← mark? "&" then
    let tokens ← rest
    if startsWord "raw" tokens && startsAnyWord ["mut", "const"] (tokens.drop 1) then
      take
      take
    else discard (word? "mut")
    discard (g.operand braces)
    return .other
  let tokens ← rest
  match ["*", "!", "-"].find? (startsMark · tokens) with
  | some sign =>
    mark sign
    discard (g.operand braces)
    return .other
  | none =>
    let shape ← g.attachAll (← g.atom braces)
    if shape = .range && !attributes.isEmpty then throw (.misplaced .attributedRange)
    return shape

def wholeExpression (g : Grammar) (braces : Bool) : Reader ExpressionShape := do
  g.continueAll braces .jump (← g.wholeOperand braces)

/-- What begins here ends in a block and may be a whole statement. -/
def startsBody (tokens : List Token) : Bool :=
  startsAnyWord ["if", "while", "loop", "match", "unsafe"] tokens
    || (startsWord "for" tokens && !startsBinder tokens)
    || (startsAnyWord ["try", "const"] tokens && startsGroup .brace (tokens.drop 1))
    || startsGroup .brace tokens || startsLifetime tokens

/-- Attributes of a statement or of the body of an arm. What has no form of its own loses them. -/
def bodyAttributes (g : Grammar) : Reader Unit := do
  let (_, attributes) ← captured g.outerAttributes
  if !startsFormless (← rest) then spell attributes

/-- An expression where a statement may end: what ends in a block goes on only behind a point or a
question mark. -/
def wholeBody (g : Grammar) : Reader ExpressionShape := do
  g.bodyAttributes
  if !(← sees startsBody) then return ← g.wholeExpression true
  let shape ← g.atom true
  let tokens ← rest
  if !startsPoint tokens && !startsMark "?" tokens then return shape
  g.continueAll true .jump (← g.attachAll shape)

end TypeHost.Derive.Grammar
