import TypeHost.Text.Word
import TypeHost.Derive.Token

/-!
Literals as characters: quoted text, raw text, single characters and numbers. Each function gives
what stands behind, or nothing if the characters are no such literal.
-/
namespace TypeHost.Derive.Token
open TypeHost.Text

/-- What may stand between quotes: text, single bytes, or text without the zero character. -/
inductive Quotation where
  | text | bytes | zeroFree
deriving DecidableEq

def Quotation.admits (c : Char) : Quotation → Bool
  | .text => true
  | .bytes => c.toNat < 0x80
  | .zeroFree => c ≠ '\x00'

def hexDigit? (c : Char) : Option Nat :=
  if c.isDigit then some (c.toNat - '0'.toNat)
  else if 'a' ≤ c && c ≤ 'f' then some (c.toNat - 'a'.toNat + 10)
  else if 'A' ≤ c && c ≤ 'F' then some (c.toNat - 'A'.toNat + 10)
  else none

def positional? (base : Nat) (digits : List Char) : Option Nat :=
  digits.foldlM (fun n c => (hexDigit? c).map (base * n + ·)) 0

/-- A byte by two digits: in text it has to be of ASCII, and without zeros it is not zero. -/
def Quotation.admitsCode (code : Nat) : Quotation → Bool
  | .text => code < 0x80
  | .bytes => true
  | .zeroFree => code ≠ 0

/-- A scalar value by up to six digits, up to the closing brace. -/
def scalarLength? (quotation : Quotation) (cs : List Char) : Option Nat :=
  let body := cs.takeWhile (· ≠ '\x7d')
  let digits := body.filter (· ≠ '_')
  match positional? 16 digits with
  | some code =>
    if cs.length = body.length || digits.isEmpty || 6 < digits.length || body.head? = some '_'
        || !decide code.isValidChar || (quotation = .zeroFree && code = 0) then none
    else some (body.length + 1)
  | none => none

def escapeLength? (quotation : Quotation) : List Char → Option Nat
  | 'x' :: a :: b :: _ =>
    if (positional? 16 [a, b]).any (quotation.admitsCode ·) then some 3 else none
  | 'u' :: '\x7b' :: rest =>
    if quotation = .bytes then none else (scalarLength? quotation rest).map (· + 2)
  | '0' :: _ => if quotation = .zeroFree then none else some 1
  | c :: _ => if c ∈ ['n', 'r', 't', '\\', '\'', '"'] then some 1 else none
  | [] => none

/-- Behind the closing quote. A carriage return stands before a line feed only, and a backslash
continues a line. -/
def behindQuote? (quotation : Quotation) : List Char → Option (List Char)
  | [] => none
  | '"' :: rest => some rest
  | '\r' :: '\n' :: rest => behindQuote? quotation rest
  | '\r' :: _ => none
  | '\\' :: rest =>
    if rest.head? = some '\n' || rest.head? = some '\r' then behindQuote? quotation rest
    else
      match escapeLength? quotation rest with
      | some length => behindQuote? quotation (rest.drop length)
      | none => none
  | c :: rest => if quotation.admits c then behindQuote? quotation rest else none
termination_by cs => cs.length
decreasing_by
  all_goals simp only [List.length_drop, List.length_cons]
  all_goals omega

def behindSigns? (quotation : Quotation) (signs : Nat) : List Char → Option (List Char)
  | [] => none
  | '\r' :: '\n' :: rest => behindSigns? quotation signs rest
  | '\r' :: _ => none
  | c :: rest =>
    if c = '"' && (List.replicate signs '#').isPrefixOf rest then some (rest.drop signs)
    else if quotation.admits c then behindSigns? quotation signs rest
    else none

def behindRaw? (quotation : Quotation) (cs : List Char) : Option (List Char) :=
  let signs := (cs.takeWhile (· = '#')).length
  match cs.drop signs with
  | '"' :: rest => if signs ≤ 255 then behindSigns? quotation signs rest else none
  | _ => none

def behindCharacter? (quotation : Quotation) (cs : List Char) : Option (List Char) :=
  let left :=
    match cs with
    | '\\' :: rest => (escapeLength? quotation rest).map rest.drop
    | c :: rest => if quotation.admits c then some rest else none
    | [] => none
  match left with
  | some ('\'' :: rest) => some rest
  | _ => none

def isDigitPart (c : Char) : Bool := c.isDigit || c = '_'

def behindExponent? (cs : List Char) : Option (List Char) :=
  let unsigned :=
    match cs.dropWhile (· = '_') with
    | '+' :: rest | '-' :: rest => rest.dropWhile (· = '_')
    | rest => rest
  match unsigned with
  | c :: rest => if c.isDigit then some (rest.dropWhile isDigitPart) else none
  | [] => none

/-- A number with a point or an exponent. A point before another one or before a word is none. -/
def behindFraction? (cs : List Char) : Option (List Char) :=
  match cs.dropWhile isDigitPart with
  | '.' :: rest =>
    if rest.head?.any fun c => c = '.' || isWordStart c then none
    else
      match rest.dropWhile isDigitPart with
      | 'e' :: more => some ((behindExponent? more).getD ('e' :: more))
      | 'E' :: more => some ((behindExponent? more).getD ('E' :: more))
      | left => some left
  | 'e' :: rest | 'E' :: rest => behindExponent? rest
  | _ => none

def numeral : List Char → Nat × List Char
  | '0' :: 'x' :: rest => (16, rest)
  | '0' :: 'o' :: rest => (8, rest)
  | '0' :: 'b' :: rest => (2, rest)
  | cs => (10, cs)

/-- Every decimal digit belongs to a numeral, and each letter that is a digit of its base. -/
def isNumeralPart (base : Nat) (c : Char) : Bool :=
  c = '_' || (hexDigit? c).any (c.isDigit || · < base)

def numeralDigits (base : Nat) (cs : List Char) : List Char :=
  (cs.takeWhile (isNumeralPart base)).filter (· ≠ '_')

/-- The digits of a whole number, the sign of its base in front. A decimal digit that is too large
spoils it, a letter that is too large ends it. -/
def behindDigits? (cs : List Char) : Option (List Char) :=
  let (base, body) := numeral cs
  let digits := numeralDigits base body
  if cs.head? = some '_' || digits.isEmpty || digits.any fun c => (hexDigit? c).any (base ≤ ·) then
    none
  else some (body.dropWhile (isNumeralPart base))

def behindSuffix (cs : List Char) : List Char := (behindWord? cs).getD cs

def endOfNumber? (cs : List Char) : Option (List Char) :=
  if (behindSuffix cs).head?.any isWordPart then none else some (behindSuffix cs)

def behindNumber? (cs : List Char) : Option (List Char) :=
  ((behindFraction? cs).bind endOfNumber?).or ((behindDigits? cs).bind endOfNumber?)

def isFraction (cs : List Char) : Bool := ((behindFraction? cs).bind endOfNumber?).isSome

def wholeNumber? (cs : List Char) : Option (Nat × Bool) := do
  if isFraction cs then none
  let left ← behindDigits? cs
  let (base, body) := numeral cs
  return (← positional? base (numeralDigits base body), !left.isEmpty)

/-- A literal that has no reading is spelled so, and what is so spelled is a literal. -/
def illegibleLiteral : List Char := "(/*ERROR*/)".toList

def behindLiteral? : List Char → Option (List Char)
  | '"' :: rest => (behindQuote? .text rest).map behindSuffix
  | 'r' :: rest => (behindRaw? .text rest).map behindSuffix
  | 'b' :: '"' :: rest => (behindQuote? .bytes rest).map behindSuffix
  | 'b' :: 'r' :: rest => (behindRaw? .bytes rest).map behindSuffix
  | 'b' :: '\'' :: rest => (behindCharacter? .bytes rest).map behindSuffix
  | 'c' :: '"' :: rest => (behindQuote? .zeroFree rest).map behindSuffix
  | 'c' :: 'r' :: rest => (behindRaw? .zeroFree rest).map behindSuffix
  | '\'' :: rest => (behindCharacter? .text rest).map behindSuffix
  | c :: rest =>
    if illegibleLiteral.isPrefixOf (c :: rest) then some (rest.drop (illegibleLiteral.length - 1))
    else if c.isDigit then behindNumber? (c :: rest)
    else none
  | [] => none

end TypeHost.Derive.Token
