import TypeHost.Derive.Error

/-!
Readers of tokens. A reader takes tokens from the front and spells what it took in the form in which
it is written again: marks fall apart as they were understood, and groups keep their delimiters.
What is left over in a group is no error until everything is read.
-/
namespace TypeHost.Derive

structure Position where
  rest : List Token
  /-- What was read, last token first. -/
  spelled : List Token
  /-- The first group in which something was left over. -/
  stray : Option Delimiter

abbrev Reader := StateT Position (Except DeriveError)

namespace Reader

def rest : Reader (List Token) := return (← get).rest

def atEnd : Reader Bool := return (← rest).isEmpty

def sees (begins : List Token → Bool) : Reader Bool := return begins (← rest)

def fail {α : Type} (expected : Expectation) : Reader α := do
  throw (.malformed (← atEnd) expected)

def failUnnamed {α : Type} : Reader α := do
  throw (if ← atEnd then .unfinished else .leftover none)

def spell (tokens : List Token) : Reader Unit :=
  modify fun p => { p with spelled := tokens.reverse ++ p.spelled }

/-- Takes all tokens but these and spells others in their place. -/
def replace (left spelled : List Token) : Reader Unit := do
  modify fun p => { p with rest := left }
  spell spelled

def take : Reader Unit := do
  match ← rest with
  | t :: left => replace left [t]
  | [] => return

/-- A reader together with what it spells, which is not written yet. -/
def captured {α : Type} (reader : Reader α) : Reader (α × List Token) := do
  let before := (← get).spelled
  modify fun p => { p with spelled := [] }
  let a ← reader
  let spelled := (← get).spelled.reverse
  modify fun p => { p with spelled := before }
  return (a, spelled)

/-- What a reader takes is written again as it stood there, if the reader says so. -/
def verbatimIf (reader : Reader Bool) : Reader Unit := do
  let before ← rest
  let (asItStood, tokens) ← captured reader
  let left ← rest
  spell (if asItStood then before.take (before.length - left.length) else tokens)

def verbatim (reader : Reader Unit) : Reader Unit :=
  verbatimIf do
    reader
    return true

def mark? (text : String) : Reader Bool := do
  match Token.behindMark? text.toList (← rest) with
  | some left =>
    replace left (Token.spellMark text.toList)
    return true
  | none => return false

/-- A mark that has to be there is asked for in the same words at the end. -/
def mark (text : String) : Reader Unit := do
  if !(← mark? text) then throw (.malformed false (.sign text))

def word? (text : String) : Reader Bool := do
  if ← sees (Token.startsWord text) then
    take
    return true
  return false

def word (text : String) : Reader Unit := do
  if !(← word? text) then fail (.sign text)

def anyWord : Reader String := do
  match ← rest with
  | .ident text :: _ =>
    take
    return text
  | _ => fail .word

def ident : Reader String := do
  match ← rest with
  | .ident text :: _ =>
    if text ∈ Token.keywords then fail (.identifierNotKeyword text)
    take
    return text
  | _ => fail .identifier

def lifetime : Reader Unit := do
  if ← sees Token.startsLifetime then take else fail .lifetime

/-- A literal, if one is there. A sign is written apart from its number. -/
def literal : Reader Unit := do
  let tokens ← rest
  match tokens, Token.literalLength tokens with
  | .punct mark _ :: left, 2 =>
    replace left [.punct mark false]
    take
  | _, 1 => take
  | _, _ => return

def inside {α : Type} (delimiter : Delimiter) (reader : Reader α) : Reader α := do
  match ← get with
  | { rest := .group d inner :: left, spelled, stray } =>
    if d ≠ delimiter then fail (.pair delimiter)
    set { rest := inner, spelled := [], stray : Position }
    let a ← reader
    let p ← get
    set {
      rest := left
      spelled := .group d p.spelled.reverse :: spelled
      stray := p.stray.or (if p.rest.isEmpty then none else some d) : Position }
    return a
  | _ => fail (.pair delimiter)

def group : Reader (Delimiter × List Token) := do
  match ← rest with
  | .group delimiter inner :: _ =>
    take
    return (delimiter, inner)
  | _ => fail .anyDelimiter

/-- Repeats a step for as long as it gives a value. Every step but the last takes a token, so there
are no more of them than tokens. -/
def iterate {α : Type} (step : α → Reader (Option α)) (a : α) : Reader α := do
  go ((← rest).length + 1) a
where
  go : Nat → α → Reader α
    | 0, a => return a
    | n + 1, a => do
      match ← step a with
      | some a => go n a
      | none => return a

/-- Repeats a step until it says that it was the last. -/
def repeated (step : Reader Bool) : Reader Unit :=
  iterate (fun _ => return if ← step then some () else none) ()

def collected {α : Type} (step : Reader (Option α)) : Reader (List α) := do
  let found ← iterate (fun found => return (← step).map (· :: found)) []
  return found.reverse

/-- Things separated by commas up to the end of a group; a comma may stand behind the last. -/
def terminated {α : Type} (item : Reader α) : Reader (List α) :=
  collected do
    if ← atEnd then return none
    let a ← item
    if !(← atEnd) then mark ","
    return some a

/-- A reader that has to take all the tokens. What a group has left is reported before what is left
behind. -/
def run {α : Type} (reader : Reader α) (tokens : List Token) : Except DeriveError α := do
  let (a, p) ← StateT.run reader { rest := tokens, spelled := [], stray := none }
  if p.stray.isSome then throw (.leftover p.stray)
  if !p.rest.isEmpty then throw (.leftover none)
  return a

end Reader
end TypeHost.Derive
