import TypeHost.Derive.Item
import TypeHost.Error

/-!
What the attributes of an item say: the layout mode, asked for in lists of modes, and the memory
representation. Modes are judged one by one from left to right; how the hints of a representation
are read is left open.
-/
namespace TypeHost.Derive

/-- A piece of a list, and whether a comma stands behind it. -/
structure ListItem where
  tokens : List Token
  followed : Bool

namespace ListItem

/-- `item` holds the tokens of the current piece, last first. A last piece that is empty is none. -/
def splitFrom (item : List Token) : List Token → List ListItem
  | [] => if item.isEmpty then [] else [⟨item.reverse, false⟩]
  | .punct ',' _ :: rest => ⟨item.reverse, true⟩ :: splitFrom [] rest
  | t :: rest => splitFrom (t :: item) rest

def split (tokens : List Token) : List ListItem := splitFrom [] tokens

/-- Reports what was expected behind the last token of a piece or in front of the next token. -/
def fail {α : Type} (item : ListItem) (left : List Token) (expected : Expectation) :
    Except DeriveError α :=
  .error (.malformed (left.isEmpty && !item.followed) expected)

end ListItem

def modeOfWord? : String → Option LayoutMode
  | "legacy" => some .legacy
  | "pure" => some .pure
  | _ => none

/-- What is wrong with a path of more than one word, given the tokens behind its first one. -/
def longPath (item : ListItem) : List Token → Except DeriveError LayoutMode
  | .punct ':' true :: .punct ':' _ :: .ident _ :: rest => longPath item rest
  | .punct ':' true :: .punct ':' _ :: left => item.fail left .word
  | _ => .error (.unknownMode "")

def noWord (item : ListItem) (tokens : List Token) : Except DeriveError LayoutMode :=
  if tokens.isEmpty && !item.followed then item.fail [] .nestedAttribute
  else if Token.startsLiteral tokens then .error (.malformed false .nestedWordNotLiteral)
  else .error (.malformed false .nestedWordNotToken)

/-- The mode at the beginning of a piece; any word will do for a path, but only two are modes. -/
def readMode (item : ListItem) : Except DeriveError LayoutMode :=
  match item.tokens with
  | .punct ':' true :: .punct ':' _ :: .ident _ :: rest => longPath item rest
  | .punct ':' true :: .punct ':' _ :: rest => noWord item rest
  | .ident word :: rest =>
    if Token.startsMark "::" rest then longPath item rest
    else
      match modeOfWord? word with
      | some mode => .ok mode
      | none => .error (.unknownMode word)
  | tokens => noWord item tokens

/-- Takes one piece of a list into account, given the mode asked for so far. -/
def addMode (asked : Option LayoutMode) (item : ListItem) :
    Except DeriveError (Option LayoutMode) := do
  let mode ← readMode item
  if asked.any (· ≠ mode) then throw .conflictingModes
  if item.tokens.length ≠ 1 then throw (.malformed false (.sign ","))
  return some mode

def addAttribute (asked : Option LayoutMode) (attr : Attribute) :
    Except DeriveError (Option LayoutMode) := do
  if !attr.isNamed "univtype" then return asked
  (ListItem.split (← attr.listArgs "univtype")).foldlM addMode asked

/-- The mode of an item; without a request it is pure. -/
def layoutMode (attributes : List Attribute) : Except DeriveError LayoutMode := do
  return (← attributes.foldlM addAttribute none).getD .pure

/-- How the tokens of a list of hints are read. -/
abbrev HintReader := List Token → Except DeriveError (List Attribute)

section Representation

variable (read : HintReader)

def listsC (tokens : List Token) : Except DeriveError Bool := do
  return (← read tokens).any (·.isNamed "C")

/-- Some `repr` attribute lists `C`; those behind it are not looked at. -/
def hasReprC : List Attribute → Except DeriveError Bool
  | [] => .ok false
  | attr :: rest => do
    if attr.isNamed "repr" then
      if ← listsC read (← attr.listArgs "repr") then return true
    hasReprC rest

end Representation

end TypeHost.Derive
