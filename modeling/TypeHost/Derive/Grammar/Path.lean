import TypeHost.Derive.Grammar
import TypeHost.Derive.Grammar.Angle

/-! Paths with their arguments, in types and in expressions. -/
namespace TypeHost.Derive.Grammar
open Reader Token

def boundsUntil {α : Type} (ends : List Token → Bool) (bound : Reader α) : Reader Unit :=
  repeated do
    if ← sees ends then return false
    discard bound
    mark? "+"

def startsConstant (tokens : List Token) : Bool :=
  startsLiteral tokens || startsGroup .brace tokens

def constantArgument (g : Grammar) : Reader Unit := do
  if ← sees startsLiteral then literal else g.block true

/-- An argument in angle brackets, and whether it is a lifetime. A name may be bound to a type or a
constant, or restricted by bounds. -/
def argument (g : Grammar) : Reader Bool := do
  let tokens ← rest
  if startsLifetime tokens && !startsMark "+" (tokens.drop 1) then
    lifetime
    return true
  if startsConstant tokens then
    g.constantArgument
    return false
  match ← g.type true with
  | .path path =>
    if path.qualified || path.rooted || path.segmentCount ≠ 1 || path.lastArgs = .paren then
      return false
    if ← mark? "=" then
      if ← sees startsConstant then g.constantArgument else discard (g.type true)
    else if ← mark? ":" then
      boundsUntil (startsAnyMark [",", ">"]) (g.bound false true)
    return false
  | _ => return false

/-- Arguments in angle brackets, with a separator in front or not; whether there are none. -/
def angleArguments (g : Grammar) : Reader Bool := do
  discard (mark? "::")
  mark "<"
  let entries ← AngleEntry.readAll g.argument
  spell (AngleEntry.arrange (entries.map fun (isLifetime, tokens, followed) =>
    { isLifetime, tokens, followed }))
  mark ">"
  return entries.isEmpty

/-- A segment of a path. In an expression, arguments need a separator in front. -/
def segment (g : Grammar) (inExpression : Bool) : Reader (String × SegmentArgs) := do
  if ← sees (startsAnyWord ["super", "self", "crate", "try"]) then return (← anyWord, .none)
  let name ← if ← sees (startsWord "Self") then anyWord else ident
  let tokens ← rest
  if (!inExpression && startsMark "<" tokens && !startsMark "<=" tokens)
      || (startsMark "::" tokens && startsMark "<" (tokens.drop 2)) then
    return (name, .angle (← g.angleArguments))
  return (name, .none)

/-- Further segments; a separator in front of parentheses is not theirs. -/
def furtherSegments (g : Grammar) (inExpression : Bool) : PathShape → Reader PathShape :=
  iterate fun path => do
    let tokens ← rest
    if !startsMark "::" tokens || startsGroup .paren (tokens.drop 2) then return none
    mark "::"
    let (name, args) ← g.segment inExpression
    return some (path.push name args)

def path (g : Grammar) (inExpression : Bool) : Reader PathShape := do
  let rooted ← mark? "::"
  let (name, args) ← g.segment inExpression
  g.furtherSegments inExpression (.single false rooted name args)

def qualifiedPath (g : Grammar) (inExpression : Bool) : Reader PathShape := do
  if !(← mark? "<") then return ← g.path inExpression
  discard (g.type true)
  if ← word? "as" then discard (g.path false)
  mark ">"
  mark "::"
  let (name, args) ← g.segment inExpression
  iterate (fun path => do
    if !(← mark? "::") then return none
    let (name, args) ← g.segment inExpression
    return some (path.push name args)) (.single true false name args)

def startsParenArguments (tokens : List Token) : Bool :=
  startsGroup .paren tokens || (startsMark "::" tokens && startsGroup .paren (tokens.drop 2))

def result? (g : Grammar) : Reader (Option TypeShape) := do
  if ← mark? "->" then some <$> g.type false else return none

/-- Takes back the empty angle brackets that were spelled last, with their separator. -/
def unspellAngles : Reader Unit :=
  modify fun p =>
    { p with spelled :=
        match p.spelled.drop 2 with
        | .punct ':' false :: .punct ':' true :: spelled => spelled
        | spelled => spelled }

/-- Arguments in parentheses and a result type, which is given back. They take the place of empty
angle brackets, and a separator in front is not written again. -/
def parenArguments (g : Grammar) (args : SegmentArgs) : Reader (Option TypeShape) := do
  if args = .angle true then unspellAngles
  discard (captured (mark? "::"))
  discard (inside .paren (terminated (g.type true)))
  g.result?

/-- A path as a type: its last segment may take arguments in parentheses, behind which further
segments stand only if the result type does not reach up to them. -/
def typePath (g : Grammar) : Reader PathShape := do
  iterate (fun path => do
    if !path.lastArgs.isEmpty || !(← sees startsParenArguments) then return none
    let result ← g.parenArguments path.lastArgs
    let path := { path with lastArgs := .paren, isPlain := false }
    if result.all (· = .paren) then some <$> g.furtherSegments false path else return some path)
    (← g.qualifiedPath false)

end TypeHost.Derive.Grammar
