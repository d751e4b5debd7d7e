import TypeHost.Derive.Grammar.Expression

/-! Blocks and their statements. -/
namespace TypeHost.Derive.Grammar
open Reader Token

def behindWords? : List Token → Option (List Token)
  | .ident word :: .punct ':' true :: .punct ':' _ :: rest =>
    if isPathWord word then behindWords? rest else none
  | .ident word :: rest => if isPathWord word then some rest else none
  | _ => none

def behindMacroMark? (tokens : List Token) : Option (List Token) := do
  let path := (behindMark? "::".toList tokens).getD tokens
  behindMark? "!".toList (← behindWords? path)

def startsBlockMacro (tokens : List Token) : Bool :=
  (behindMacroMark? tokens).any fun
    | .group .brace _ :: rest =>
      !(startsPoint rest || startsMark "?" rest)
    | _ => false

def startsDefiningMacro (tokens : List Token) : Bool :=
  (behindMacroMark? tokens).any fun rest => startsIdent rest || startsWord "try" rest

def startsItem (tokens : List Token) : Bool :=
  let second := tokens.drop 1
  let third := tokens.drop 2
  startsAnyWord ["pub", "extern", "use", "fn", "mod", "type", "struct", "enum", "trait", "impl",
      "macro"] tokens
    || (startsWord "crate" tokens && !startsMark "::" second)
    || (startsWord "static" tokens && (startsWord "mut" second || startsIdent second))
    || (startsWord "const" tokens
      && !(startsGroup .brace second || startsAnyWord ["static", "move"] second
        || startsMark "|" second
        || (startsWord "async" second && !startsAnyWord ["unsafe", "extern", "fn"] third)))
    || (startsWord "unsafe" tokens && !startsGroup .brace second)
    || (startsWord "async" tokens && startsAnyWord ["unsafe", "extern", "fn"] second)
    || (startsWord "union" tokens && startsIdent second)
    || (startsWord "auto" tokens && startsWord "trait" second)
    || (startsWord "default" tokens && startsAnyWord ["unsafe", "impl"] second)
    || startsDefiningMacro tokens

def localVariable (g : Grammar) : Reader Unit := do
  word "let"
  discard g.pattern
  if ← mark? ":" then discard (g.type true)
  if ← mark? "=" then
    discard (g.expression true)
    let braced := startsGroup .brace (← get).spelled
    if !braced && (← sees (startsWord "else")) then
      word "else"
      g.block false
  mark ";"

def blockMacro : Reader Unit := do
  discard plainPath
  mark "!"
  discard group
  discard (mark? ";")

/-- An expression with its attributes as a statement. What has no form of its own loses them, unless
it is an end of a range. -/
def expressionStatement (g : Grammar) : Reader Bool := do
  let (_, attributes) ← captured g.outerAttributes
  let formless ← sees startsFormless
  let (shape, tokens) ← captured g.body
  spell (if formless && shape ≠ .range then tokens else attributes ++ tokens)
  if ← mark? ";" then return false
  return shape ≠ .block && shape ≠ .invocation .brace

inductive StatementKind where
  | invocation | variable | declaration | expression

def statementKind (tokens : List Token) : StatementKind :=
  if startsBlockMacro tokens then .invocation
  else if startsWord "let" tokens then .variable
  else if startsItem tokens then .declaration
  else .expression

/-- A statement, and whether a semicolon has to follow if it is not the last one. -/
def statement (g : Grammar) : Reader Bool := do
  match statementKind (behindAttributes (← rest)) with
  | .invocation =>
    discard g.outerAttributes
    blockMacro
    return false
  | .variable =>
    discard g.outerAttributes
    g.localVariable
    return false
  | .declaration =>
    g.attributedDeclaration
    return false
  | .expression => g.expressionStatement

def statements (g : Grammar) : Reader Unit :=
  repeated do
    repeated (mark? ";")
    if ← atEnd then return false
    let unended ← g.statement
    if ← atEnd then return false
    if unended then throw (.misplaced .statementNotEnded)
    return true

def wholeBlock (g : Grammar) (inner : Bool) : Reader Unit :=
  inside .brace do
    if inner then g.innerAttributes
    g.statements

end TypeHost.Derive.Grammar
