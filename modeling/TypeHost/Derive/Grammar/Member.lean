import TypeHost.Derive.Reader
import TypeHost.Derive.Token.Literal

/-!
Fields by their names or their numbers. A number has neither a sign nor a suffix, and it is written
again in decimal digits; a literal with points in it holds the numbers of nested fields.
-/
namespace TypeHost.Derive.Grammar
open Reader Token

/-- The number of a field. It fits into 32 bits. -/
def fieldNumber (negative : Bool) (text : String) : Except DeriveError Token :=
  match wholeNumber? text.toList with
  | some (value, suffixed) =>
    if suffixed then .error (.misplaced .suffixedIndex)
    else if negative then .error (.misplaced .negativeIndex)
    else if UInt32.size ≤ value then .error (.misplaced .largeIndex)
    else .ok (.literal (toString value))
  | none =>
    if behindNumber? text.toList = some [] then .error (.malformed false .integer)
    else .error .unreadable

/-- Takes numbers of nested fields that one literal holds. A point behind the last of them asks for
a member of its own; otherwise the member is complete. -/
def takeNumbers (negative : Bool) (text : String) (left : List Token) : Reader Bool := do
  let numbers ← ((text.splitOn ".").filter (· ≠ "")).mapM fun part => (fieldNumber negative part : Except DeriveError Token)
  let point := spellMark ['.']
  let spelled := ((numbers.map fun number => [number]).intersperse point).flatten
  let complete := !text.endsWith "."
  replace left (if complete then spelled else spelled ++ point)
  return complete

def nestedNumbers : Reader Bool := do
  match ← rest with
  | .literal text :: left =>
    if isFraction text.toList then takeNumbers false text left else return false
  | .punct '-' _ :: .literal text :: left =>
    if isFraction text.toList then takeNumbers true text left else return false
  | _ => return false

def fieldName : Reader Bool := do
  match ← rest with
  | .ident text :: _ =>
    if text ∈ keywords then fail .member
    take
    return true
  | .literal text :: left =>
    if (wholeNumber? text.toList).isNone then fail .member
    replace left [← fieldNumber false text]
    return false
  | .punct '-' _ :: .literal text :: _ =>
    if (wholeNumber? text.toList).isNone then fail .member
    discard (fieldNumber true text)
    return false
  | _ => fail .member

end TypeHost.Derive.Grammar
