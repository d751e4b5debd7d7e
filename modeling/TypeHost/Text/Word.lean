import TypeHost.Text.Ranges

/-! Blanks, and the characters of which words consist. -/
namespace TypeHost.Text

/-- White space, and the two marks that set the direction of a line. -/
def isBlank (c : Char) : Bool :=
  c = ' ' || ('\t' ≤ c && c ≤ '\r') || c = '\u0085' || c = '\u00a0' || c = '\u1680'
    || ('\u2000' ≤ c && c ≤ '\u200a') || c = '\u200e' || c = '\u200f' || c = '\u2028'
    || c = '\u2029' || c = '\u202f' || c = '\u205f' || c = '\u3000'

def isWordStart (c : Char) : Bool := c.isAlpha || c = '_' || inRanges letterRanges c.toNat

def isWordPart (c : Char) : Bool :=
  isWordStart c || c.isDigit || inRanges joinerRanges c.toNat

def behindWord? : List Char → Option (List Char)
  | c :: rest => if isWordStart c then some (rest.dropWhile isWordPart) else none
  | [] => none

end TypeHost.Text
