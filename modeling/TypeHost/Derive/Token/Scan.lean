import TypeHost.Derive.Token.Literal
import TypeHost.Text.Quoted

/-!
Item text as tokens: first the lexemes one after another, then the groups that they form. A text has
no reading if some character begins no lexeme or the delimiters do not match. Reading ends because
each step leaves less text.
-/
namespace TypeHost.Derive.Token
open TypeHost.Text

inductive Lexeme where
  | leaf (token : Token)
  | opening (delimiter : Delimiter)
  | closing (delimiter : Delimiter)

def spelling (cs left : List Char) : String := String.ofList (cs.take (cs.length - left.length))

/-- The end of the line; of a carriage return and a line feed, the second stays. -/
def behindLine : List Char → List Char
  | [] => []
  | '\n' :: rest => '\n' :: rest
  | '\r' :: '\n' :: rest => '\n' :: rest
  | _ :: rest => behindLine rest

def behindBlock? (depth : Nat) : List Char → Option (List Char)
  | [] => none
  | '*' :: '/' :: rest => if depth ≤ 1 then some rest else behindBlock? (depth - 1) rest
  | '/' :: '*' :: rest => behindBlock? (depth + 1) rest
  | _ :: rest => behindBlock? depth rest

def returnsPaired : List Char → Bool
  | [] => true
  | '\r' :: '\n' :: rest => returnsPaired rest
  | '\r' :: _ => false
  | _ :: rest => returnsPaired rest

/-- A comment that documents stands for an attribute; the one of an enclosing item has a mark. -/
def documentation (enclosing : Bool) (comment : List Char) : List Lexeme :=
  .leaf (.punct '#' false) :: (if enclosing then [.leaf (.punct '!' false)] else []) ++
    [.opening .bracket, .leaf (.ident "doc"), .leaf (.punct '=' false),
      .leaf (.literal (quoted comment)), .closing .bracket]

def documentingLine (enclosing : Bool) (cs : List Char) : Option (List Lexeme × List Char) :=
  let line := cs.takeWhile (· ≠ '\n')
  let left := behindLine cs
  let comment := if line.length < cs.length && line.getLast? = some '\r' then line.dropLast else line
  if returnsPaired comment then some (documentation enclosing comment, left) else none

def documentingBlock (enclosing : Bool) (cs : List Char) : Option (List Lexeme × List Char) := do
  let left ← behindBlock? 1 cs
  let comment := cs.take (cs.length - left.length - 2)
  if returnsPaired comment then some (documentation enclosing comment, left) else none

def startsComment : List Char → Bool
  | '/' :: '/' :: _ | '/' :: '*' :: _ => true
  | _ => false

/-- A comment at the beginning. A third slash or star, or an exclamation mark, makes it document
something, but a fourth one does not. -/
def comment? : List Char → Option (List Lexeme × List Char)
  | '/' :: '/' :: '!' :: rest => documentingLine true rest
  | '/' :: '/' :: '/' :: '/' :: rest => some ([], behindLine rest)
  | '/' :: '/' :: '/' :: rest => documentingLine false rest
  | '/' :: '/' :: rest => some ([], behindLine rest)
  | '/' :: '*' :: '!' :: rest => documentingBlock true rest
  | '/' :: '*' :: '*' :: '/' :: rest => some ([], rest)
  | '/' :: '*' :: '*' :: '*' :: rest => (behindBlock? 1 ('*' :: '*' :: rest)).map ([], ·)
  | '/' :: '*' :: '*' :: rest => documentingBlock false rest
  | '/' :: '*' :: rest => (behindBlock? 1 rest).map ([], ·)
  | _ => none

def startsPunct (cs : List Char) : Bool :=
  !startsComment cs && cs.head?.any (· ∈ "~!@#$%^&*-=+|;:,<.>/?'".toList)

def reservedBeginnings : List String :=
  ["r\"", "r#\"", "r##", "b\"", "b'", "br\"", "br#", "c\"", "cr\"", "cr#"]

/-- Words that cannot be made identifiers by `r#`. -/
def neverRaw : List String := ["_", "super", "self", "Self", "crate"]

def startsReserved (cs : List Char) : Bool :=
  reservedBeginnings.any fun text => text.toList.isPrefixOf cs

def behindName? : List Char → Option (List Char)
  | 'r' :: '#' :: rest => do
    let left ← behindWord? rest
    if spelling rest left ∈ neverRaw then none else some left
  | cs => behindWord? cs

def behindIdent? (cs : List Char) : Option (List Char) :=
  if startsReserved cs then none else behindName? cs

/-- A lifetime may be raw, but neither a quote nor another number sign stands behind it. The quote
before the beginning of a literal is a token by itself. -/
def lifetime? (cs : List Char) : Option (Token × List Char) := do
  let left ← behindName? cs
  if left.head? = some '\'' || (left.head? = some '#' && !(['r', '#'].isPrefixOf cs)) then none
  else if startsReserved cs then some (.punct '\'' true, cs)
  else some (.lifetime ("'" ++ spelling cs left), left)

def leaf? (cs : List Char) : Option (Token × List Char) :=
  match behindLiteral? cs, cs with
  | some left, cs => some (.literal (spelling cs left), left)
  | none, '\'' :: rest => lifetime? rest
  | none, c :: rest =>
    if startsPunct (c :: rest) then some (.punct c (startsPunct rest), rest)
    else (behindIdent? (c :: rest)).map fun left => (.ident (spelling (c :: rest) left), left)
  | none, [] => none

def delimiter? (cs : List Char) : Option Lexeme :=
  if illegibleLiteral.isPrefixOf cs then none
  else
    match cs.head? with
    | some '(' => some (.opening .paren)
    | some '[' => some (.opening .bracket)
    | some '\x7b' => some (.opening .brace)
    | some ')' => some (.closing .paren)
    | some ']' => some (.closing .bracket)
    | some '\x7d' => some (.closing .brace)
    | _ => none

/-- The lexemes at the beginning, none for a blank, and what stands behind them. -/
def lexeme? : List Char → Option (List Lexeme × List Char)
  | [] => none
  | c :: rest =>
    if isBlank c then some ([], rest)
    else if startsComment (c :: rest) then comment? (c :: rest)
    else
      match delimiter? (c :: rest) with
      | some lexeme => some ([lexeme], rest)
      | none => (leaf? (c :: rest)).map fun (token, left) => ([.leaf token], left)

def lexemes? (cs : List Char) : Option (List Lexeme) :=
  if cs.isEmpty then some []
  else
    match lexeme? cs with
    | some (found, left) =>
      if left.length < cs.length then (lexemes? left).map (found ++ ·) else none
    | none => none
termination_by cs.length

/-- Closes groups as their delimiters come. `outer` holds the open ones, innermost first, each with
the tokens in front of it, and `inner` the tokens of the innermost one, last first. -/
def nest (outer : List (Delimiter × List Token)) (inner : List Token) :
    List Lexeme → Option (List Token)
  | [] => if outer.isEmpty then some inner.reverse else none
  | .leaf token :: rest => nest outer (token :: inner) rest
  | .opening delimiter :: rest => nest ((delimiter, inner) :: outer) [] rest
  | .closing delimiter :: rest =>
    match outer with
    | (opened, before) :: outer =>
      if opened = delimiter then nest outer (.group delimiter inner.reverse :: before) rest
      else none
    | [] => none

def scan? (text : String) : Option (List Token) := do nest [] [] (← lexemes? text.toList)

end TypeHost.Derive.Token
