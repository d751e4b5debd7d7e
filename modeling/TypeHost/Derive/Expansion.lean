import TypeHost.Derive.Mode

/-!
Deriving the binding of a struct to its accessor. An item is accepted if its attributes are well
formed, it is a struct with a fixed representation, and a legacy struct begins with the host header.
-/
namespace TypeHost.Derive

/-- The type names the host header: a path to `ObjectHead` without arguments. -/
def TypeShape.isObjectHead : TypeShape → Bool
  | .path shape => shape.lastName = "ObjectHead" && shape.lastArgs.isEmpty
  | _ => false

namespace Item

/-- A legacy struct begins with the host header. -/
def checkHead (item : Item) : Except DeriveError Unit :=
  match item.fieldTypes with
  | [] => .error .noHead
  | first :: _ => if first.isObjectHead then .ok () else .error .otherHead

/-- The mode of an item that passes all checks; the first that fails is reported. -/
def mode (read : HintReader) (item : Item) : Except DeriveError LayoutMode := do
  let mode ← layoutMode item.attributes
  if !item.shape.isStruct then throw .notAStruct
  if !(← hasReprC read item.attributes) then throw .notReprC
  if mode = .legacy then item.checkHead
  return mode

def word (text : String) : Token := .ident text

def mark (text : String) : List Token := Token.spellMark text.toList

def rootPath (names : List String) : List Token :=
  ("univtype" :: names).flatMap fun name => mark "::" ++ [word name]

def constant (name : String) (type value : List Token) : List Token :=
  [word "const", word name] ++ mark ":" ++ type ++ mark "=" ++ value ++ mark ";"

/-- What the implementation says of the mode: the tag and the accessor agree. -/
def constants (mode : LayoutMode) : List Token :=
  constant "IS_LEGACY" [word "bool"] [word (toString mode.isLegacy)]
    ++ constant "ACCESSOR" (rootPath ["Accessor"] ++ mark "<" ++ [word "Self"] ++ mark ">")
      (rootPath ["Accessor", mode.text] ++ [.group .paren []])

def implementation (item : Item) (mode : LayoutMode) : List Token :=
  word "impl" :: item.generics.declarations
    ++ rootPath ["TypeStruct"]
    ++ word "for" :: word item.name :: item.generics.arguments
    ++ Generics.whereClause item.generics.predicates
    ++ [.group .brace (constants mode)]

def expand (read : HintReader) (item : Item) : Except DeriveError (List Token) := do
  return item.implementation (← item.mode read)

end Item

def expandText (text : ItemText) : Except DeriveError String := do
  return Token.render (← (← text.read).expand Grammar.hints)

end TypeHost.Derive
