import TypeHost.Derive.Fields
import TypeHost.Derive.Grammar.Pattern
import TypeHost.Derive.Grammar.Type

/-!
Declarations inside blocks: functions, constants, data types, traits with their implementations,
modules, and imported names. Those that have no form of their own are written as they stood.
-/
namespace TypeHost.Derive.Grammar
open Reader Token

/-- A function begins here, whatever its qualifiers. A foreign one may be called safe. -/
def startsFunction (foreign : Bool) (tokens : List Token) : Bool :=
  let qualified := skipWord "async" (skipWord "const" tokens)
  let behind :=
    if foreign && startsWord "safe" qualified then qualified.drop 1 else skipWord "unsafe" qualified
  let linked := startsWord "extern" behind && startsText (behind.drop 1)
  startsWord "fn" (if linked then behind.drop 2 else skipWord "extern" behind)

def startsReceiver (tokens : List Token) : Bool :=
  let referred :=
    match tokens with
    | .punct '&' _ :: .lifetime _ :: rest => rest
    | .punct '&' _ :: rest => rest
    | rest => rest
  let behind := skipWord "mut" referred
  startsWord "self" behind && !startsMark "::" (behind.drop 1)

def receiver (g : Grammar) : Reader Unit := do
  let referred ← mark? "&"
  if referred && (← sees startsLifetime) then lifetime
  discard (word? "mut")
  word "self"
  if !referred then
    if ← mark? ":" then discard (g.type true)

def functionDots : Reader Unit := do
  mark "..."
  if !(← atEnd) then mark ","

/-- A parameter by its pattern and its type, or by its type alone; whether it was the last. -/
def functionParam (g : Grammar) : Reader Bool := do
  let tokens ← rest
  if startsIdent tokens && startsMark "<" (tokens.drop 1) then
    spell (.ident "_" :: spellMark [':'])
    discard (g.type true)
    return false
  discard g.pattern
  mark ":"
  if ← sees (startsMark "...") then
    functionDots
    return true
  discard (g.type true)
  return false

/-- The parameters of a function. Only the first one may be the object of a method. -/
def functionParams (g : Grammar) : Reader Unit :=
  discard <| iterate (fun (first, received) => do
    if ← atEnd then return none
    discard g.outerAttributes
    if ← sees (startsMark "...") then
      functionDots
      return none
    let receives ← sees startsReceiver
    if receives then
      g.receiver
      if received then throw (.misplaced .secondReceiver)
      if !first then throw (.misplaced .lateReceiver)
    else if ← g.functionParam then return none
    if ← atEnd then return none
    mark ","
    return some (false, received || receives)) (true, false)

/-- A function without its body; whether it is called safe, which only a foreign one can be. -/
def signature (g : Grammar) (foreign : Bool) : Reader Bool := do
  discard (word? "const")
  discard (word? "async")
  let risky ← word? "unsafe"
  let safe ← if foreign && !risky then word? "safe" else pure false
  linkage
  word "fn"
  discard ident
  discard g.genericParams
  inside .paren g.functionParams
  if ← mark? "->" then discard (g.type true)
  discard g.whereClause?
  return safe

/-- A constant; whether it has parameters or a where clause, and whether it has a value. -/
def constant (g : Grammar) : Reader (Bool × Bool) := do
  word "const"
  if !(← sees fun tokens => startsIdent tokens || startsWord "_" tokens) then
    fail (.choice ["identifier", "`_`"])
  discard anyWord
  let bracket ← sees (startsMark "<")
  discard g.genericParams
  mark ":"
  discard (g.type true)
  let valued ← mark? "="
  if valued then discard (g.expression true)
  let clause ← g.whereClause?
  mark ";"
  return (bracket || clause.isSome, valued)

/-- A constant outside of a trait is written as it stood unless it is plain and has a value. -/
def valuedConstant (g : Grammar) : Reader Bool := do
  let (generic, valued) ← g.constant
  return generic || !valued

/-- A variable of the program; without a type or a value it is written as it stood. -/
def globalVariable (g : Grammar) : Reader Bool := do
  word "static"
  discard (word? "mut")
  discard ident
  let untyped ← mark? "="
  if untyped then discard (g.expression true)
  else
    mark ":"
    discard (g.type true)
    if ← mark? ";" then return true
    mark "="
    discard (g.expression true)
  mark ";"
  return untyped

def namedBounds (g : Grammar) (ends : List Token → Bool) : Reader Unit :=
  repeated do
    if ← sees ends then return false
    discard (g.singleBound false true)
    if ← sees ends then return false
    mark "+"
    return true

inductive MemberPlace where
  | inTrait
  | inImplementation
  /-- In a block of another linkage. -/
  | foreign
deriving DecidableEq

/-- A name for a type; whether it is written as it stood. Its where clause stands in front of the type,
behind it for a member, and at either place for a foreign type. -/
def typeName (g : Grammar) (place : Option MemberPlace) : Reader Bool := do
  word "type"
  discard ident
  discard g.genericParams
  let bounded ← bounded <| g.namedBounds fun tokens =>
    startsWord "where" tokens || startsAnyMark ["=", ";"] tokens
  if place.all (· = .foreign) then discard g.whereClause?
  let defined ← mark? "="
  if defined then discard (g.type true)
  if place.isSome then discard g.whereClause?
  mark ";"
  return match place with
    | some .inTrait => false
    | some .foreign => bounded || defined
    | _ => bounded || !defined

def definingMacro : Reader Unit := do
  discard plainPath
  mark "!"
  if ← sees fun tokens => startsIdent tokens || startsWord "try" tokens then discard anyWord
  let (delimiter, _) ← group
  if delimiter ≠ .brace then mark ";"

def startsMacroPath (tokens : List Token) : Bool :=
  startsIdent tokens || startsAnyWord ["self", "super", "crate"] tokens || startsMark "::" tokens

/-- A function with its body or without; whether it is written as it stood, which is so if its place
would have it otherwise. -/
def memberFunction (g : Grammar) (place : MemberPlace) : Reader Bool := do
  let safe ← g.signature (place = .foreign)
  if ← sees (startsGroup .brace) then
    g.block true
    return safe || place = .foreign
  if !(← mark? ";") then
    match place with
    | .inTrait => fail (.choice ["curly braces", "`;`"])
    | .inImplementation => fail (.pair .brace)
    | .foreign => mark ";"
  return safe || place = .inImplementation

def memberConstant (g : Grammar) (place : MemberPlace) : Reader Bool := do
  if place = .inTrait then
    let behind := (← rest).drop 1
    if !startsIdent behind && !startsWord "_" behind then
      word "const"
      fail (.choice ["identifier", "`_`", "`async`", "`unsafe`", "`extern`", "`fn`"])
    return (← g.constant).1
  g.valuedConstant

/-- A variable from outside; with a value or a qualifier it is written as it stood. -/
def foreignVariable (g : Grammar) : Reader Bool := do
  let unqualified ← sees (startsWord "static")
  if !unqualified then take
  word "static"
  discard (word? "mut")
  discard ident
  mark ":"
  discard (g.type true)
  let valued ← mark? "="
  if valued then discard (g.expression true)
  mark ";"
  return valued || !unqualified

def startsForeignVariable (tokens : List Token) : Bool :=
  startsWord "static" tokens
    || (startsAnyWord ["unsafe", "safe"] tokens && startsWord "static" (tokens.drop 1))

def memberMacro : Reader Unit := do
  discard plainPath
  mark "!"
  let (delimiter, _) ← group
  if delimiter ≠ .brace then mark ";"

def memberBeginnings (place : MemberPlace) (visible defaulted : Bool) : Expectation :=
  let macros :=
    if visible || defaulted then [] else ["identifier", "`self`", "`super`", "`crate`", "`::`"]
  match place with
  | .foreign => .choice (["`fn`", "`static`", "`type`"] ++ macros)
  | .inTrait => .choice (["`fn`", "`const`", "`type`"] ++ macros)
  | .inImplementation =>
    if defaulted then .choice ["`fn`", "`const`", "`type`"]
    else .choice (["`default`", "`fn`", "`const`", "`type`"] ++ macros)

/-- The qualifier `default`, which may begin a macro of that name unless in a trait. -/
def memberDefault (place : MemberPlace) : Reader Bool := do
  let tokens ← rest
  if place = .foreign || !startsWord "default" tokens
      || (place = .inImplementation && startsMark "!" (tokens.drop 1)) then
    return false
  take
  return true

/-- A function, a constant, a variable, a type or a macro among others. In a trait it is written as
it stood if it has qualifiers. -/
def placedMember (g : Grammar) (place : MemberPlace) : Reader Unit :=
  verbatimIf do
    discard g.outerAttributes
    let visible ← visibility
    let defaulted ← memberDefault place
    let asItStood := place = .inTrait && (visible || defaulted)
    let tokens ← rest
    if startsFunction (place = .foreign) tokens then return (← g.memberFunction place) || asItStood
    if startsWord "const" tokens && place ≠ .foreign then
      return (← g.memberConstant place) || asItStood
    if startsForeignVariable tokens && place = .foreign then return ← g.foreignVariable
    if startsWord "type" tokens then return (← g.typeName (some place)) || asItStood
    if startsMacroPath tokens && !visible && !defaulted then
      memberMacro
      return false
    fail (memberBeginnings place visible defaulted)

def members (g : Grammar) (place : MemberPlace) : Reader Unit :=
  inside .brace do
    g.innerAttributes
    repeated do
      if ← atEnd then return false
      g.placedMember place
      return true

def foreign (g : Grammar) : Reader Unit := do
  let qualified ← word? "unsafe"
  let tokens ← rest
  linkage
  if !qualified && startsWord "crate" (tokens.drop 1) then
    word "crate"
    if !(← word? "self") then discard ident
    if ← word? "as" then
      if !(← word? "_") then discard ident
    mark ";"
  else
    if !(← sees (startsGroup .brace)) then
      fail (if qualified || startsText (tokens.drop 1) then .pair .brace
        else .choice ["`crate`", "curly braces", "string literal"])
    g.members .foreign

def module (g : Grammar) : Reader Unit := do
  discard (word? "unsafe")
  word "mod"
  if !(← word? "try") then discard ident
  if ← mark? ";" then return
  if !(← sees (startsGroup .brace)) then fail (.choice ["`;`", "curly braces"])
  inside .brace do
    g.innerAttributes
    repeated do
      if ← atEnd then return false
      g.attributedDeclaration
      return true

def traitDeclaration (g : Grammar) : Reader Unit := do
  let qualified ← sees (startsAnyWord ["unsafe", "auto"])
  discard (word? "unsafe")
  discard (word? "auto")
  word "trait"
  discard ident
  discard g.genericParams
  let tokens ← rest
  if !qualified && startsMark "=" tokens then
    mark "="
    g.namedBounds fun tokens => startsWord "where" tokens || startsMark ";" tokens
    discard g.whereClause?
    mark ";"
  else
    if !qualified && !startsGroup .brace tokens && !startsMark ":" tokens
        && !startsWord "where" tokens then
      fail (.choice ["curly braces", "`:`", "`where`", "`=`"])
    discard <| bounded <| g.namedBounds fun tokens =>
      startsWord "where" tokens || startsGroup .brace tokens
    discard g.whereClause?
    g.members .inTrait

/-- The implementation of a type, or of a trait for a type; whether it is written as it stood. -/
def implementationOf (g : Grammar) : Reader Bool := do
  discard (word? "default")
  discard (word? "unsafe")
  word "impl"
  if ← sees startsParams then discard g.genericParams
  let tokens ← rest
  let constant :=
    startsWord "const" tokens || (startsMark "?" tokens && startsWord "const" (tokens.drop 1))
  if constant then
    discard (mark? "?")
    word "const"
  let tokens ← rest
  let negative := startsMark "!" tokens && !startsGroup .brace (tokens.drop 1)
  if negative then mark "!"
  let first ← g.type true
  let ofTrait ← word? "for"
  if ofTrait then discard (g.type true)
  else if negative then throw (.misplaced .negativeInherent)
  discard g.whereClause?
  g.members .inImplementation
  return constant || (ofTrait && !(first matches .path { qualified := false, .. }))

def macroDeclaration : Reader Unit := do
  word "macro"
  discard ident
  let params ← sees (startsGroup .paren)
  if params then take
  if !(← sees (startsGroup .brace)) then
    fail (if params then .pair .brace else .choice ["parentheses", "curly braces"])
  take

/-- Imported names: one, all of them, one under another name, or several in braces, whose paths may
begin at the root if nothing stands in front of them; whether one does. -/
def useNames (g : Grammar) (rooted : Bool) : Reader Bool := do
  let tokens ← rest
  if startsIdent tokens || startsAnyWord ["self", "super", "crate", "try"] tokens then
    take
    if ← mark? "::" then return ← g.useTree false
    if ← word? "as" then
      if !(← sees fun tokens => startsIdent tokens || startsWord "_" tokens) then
        fail .identifierOrUnderscore
      take
    return false
  if startsMark "*" tokens then
    mark "*"
    return false
  if !startsGroup .brace tokens then
    fail (.choice ["identifier", "`self`", "`super`", "`crate`", "`try`", "`*`", "curly braces"])
  let found ← inside .brace <| terminated do
    let rootHere ← if rooted then mark? "::" else pure false
    return (← g.useTree (rooted && !rootHere)) || rootHere
  return found.any id

/-- Names from elsewhere. With several paths from the root the declaration is written as it stood. -/
def imported (g : Grammar) : Reader Bool := do
  word "use"
  let root ← mark? "::"
  let found ← g.useTree !root
  mark ";"
  return found

def dataType (g : Grammar) : Reader Unit := do
  let tokens ← rest
  take
  discard ident
  discard g.genericParams
  discard (g.dataBody tokens)

def failWords {α : Type} (words others : List String) : Reader α := do
  let tokens ← rest
  let missing := words.filter fun text => !startsWord text tokens
  fail (.choice ((missing.map fun text => "`" ++ text ++ "`") ++ others))

def riskyDeclaration (g : Grammar) : Reader Bool := do
  let behind := (← rest).drop 1
  if startsWord "mod" behind then
    g.module
    return false
  if startsWord "extern" behind then
    g.foreign
    return false
  if startsWord "trait" behind || (startsWord "auto" behind && startsWord "trait" (behind.drop 1))
  then
    g.traitDeclaration
    return false
  if startsWord "impl" behind then return ← g.implementationOf
  word "unsafe"
  failWords ["trait", "auto", "impl", "extern", "mod"] []

def namedDeclaration (g : Grammar) (visible : Bool) : Reader Bool := do
  let tokens ← rest
  let second := tokens.drop 1
  let isData :=
    startsAnyWord ["struct", "enum"] tokens || (startsWord "union" tokens && startsIdent second)
  let isTrait :=
    startsWord "trait" tokens || (startsWord "auto" tokens && startsWord "trait" second)
  let isImplementation :=
    startsWord "impl" tokens || (startsWord "default" tokens && !startsMark "!" second)
  if isData then
    g.dataType
    return false
  if isTrait then
    g.traitDeclaration
    return false
  if isImplementation then return (← g.implementationOf) || visible
  if !visible && startsMacroPath tokens then
    definingMacro
    return false
  failWords
    ["fn", "extern", "use", "static", "const", "unsafe", "mod", "type", "struct", "enum", "union",
      "trait", "auto", "impl", "default", "macro"]
    (if visible then [] else ["identifier", "`self`", "`super`", "`crate`", "`::`"])

/-- A declaration behind its attributes; whether all of it is written as it stood. -/
def wholeDeclaration (g : Grammar) : Reader Bool := do
  let visible ← visibility
  let tokens ← rest
  if startsFunction false tokens then
    discard (g.signature false)
    if ← mark? ";" then return true
    g.block true
    return false
  match tokens with
  | .ident "extern" :: _ =>
    g.foreign
    return false
  | .ident "use" :: _ => g.imported
  | .ident "static" :: _ => g.globalVariable
  | .ident "const" :: _ => g.valuedConstant
  | .ident "unsafe" :: second =>
    return (← g.riskyDeclaration) || (visible && startsWord "impl" second)
  | .ident "mod" :: _ =>
    g.module
    return false
  | .ident "type" :: _ => g.typeName none
  | .ident "macro" :: _ =>
    macroDeclaration
    return true
  | _ => g.namedDeclaration visible

end TypeHost.Derive.Grammar
