/-!
Tokens of item text, nested by their delimiters, and how they are written: with single spaces, none
behind a mark that belongs to the next one, and none inside parentheses and brackets.
-/
namespace TypeHost.Derive

inductive Delimiter where
  | paren | bracket | brace
deriving DecidableEq

namespace Delimiter

def opening : Delimiter → String
  | .paren => "("
  | .bracket => "["
  | .brace => "\x7b"

def closing : Delimiter → String
  | .paren => ")"
  | .bracket => "]"
  | .brace => "\x7d"

def pair : Delimiter → String
  | .paren => "parentheses"
  | .bracket => "square brackets"
  | .brace => "curly braces"

end Delimiter

inductive Token where
  /-- A word, keywords included; a raw identifier keeps its `r#`. -/
  | ident (text : String)
  /-- A lifetime with its quote. -/
  | lifetime (text : String)
  | literal (text : String)
  /-- One character of a mark; `joint` if the next one follows at once. -/
  | punct (mark : Char) (joint : Bool)
  | group (delimiter : Delimiter) (inner : List Token)

namespace Token

mutual

def text : Token → String
  | .ident text | .lifetime text | .literal text => text
  | .punct mark _ => mark.toString
  | .group .brace inner =>
    if inner.isEmpty then "\x7b \x7d" else "\x7b " ++ render inner ++ " \x7d"
  | .group delimiter inner => delimiter.opening ++ render inner ++ delimiter.closing

def render : List Token → String
  | [] => ""
  | .punct mark true :: rest => mark.toString ++ render rest
  | t :: rest => t.text ++ (if rest.isEmpty then "" else " ") ++ render rest

end

mutual

/-- How many tokens there are, those of groups included. -/
def weight : Token → Nat
  | .group _ inner => 1 + weights inner
  | _ => 1

def weights : List Token → Nat
  | [] => 0
  | t :: rest => t.weight + weights rest

end

def spellMark : List Char → List Token
  | [] => []
  | [c] => [.punct c false]
  | c :: rest => .punct c true :: spellMark rest

def behindMark? : List Char → List Token → Option (List Token)
  | [], tokens => some tokens
  | c :: more, .punct mark joint :: rest =>
    if c = mark && (joint || more.isEmpty) then behindMark? more rest else none
  | _, _ => none

def startsMark (text : String) (tokens : List Token) : Bool :=
  (behindMark? text.toList tokens).isSome

def startsAnyMark (texts : List String) (tokens : List Token) : Bool :=
  texts.any fun text => startsMark text tokens

def startsWord (word : String) : List Token → Bool
  | .ident text :: _ => text = word
  | _ => false

def startsAnyWord (words : List String) : List Token → Bool
  | .ident text :: _ => text ∈ words
  | _ => false

def startsGroup (delimiter : Delimiter) : List Token → Bool
  | .group d _ :: _ => d = delimiter
  | _ => false

def startsLifetime : List Token → Bool
  | .lifetime _ :: _ => true
  | _ => false

def skipWord (word : String) (tokens : List Token) : List Token :=
  if startsWord word tokens then tokens.drop 1 else tokens

def isNumber (text : String) : Bool := text.toList.head?.any Char.isDigit

def startsText : List Token → Bool
  | .literal text :: _ => text.toList.head?.any fun c => c = '"' || c = 'r'
  | _ => false

/-- How many tokens a literal at the beginning takes: a truth value is one, and a number may have a
sign. -/
def literalLength : List Token → Nat
  | .literal _ :: _ => 1
  | .ident "true" :: _ | .ident "false" :: _ => 1
  | .punct '-' _ :: .literal text :: _ => if isNumber text then 2 else 0
  | _ => 0

def startsLiteral (tokens : List Token) : Bool := literalLength tokens ≠ 0

def keywords : List String :=
  ["_", "abstract", "as", "async", "await", "become", "box", "break", "const", "continue", "crate",
    "do", "dyn", "else", "enum", "extern", "false", "final", "fn", "for", "if", "impl", "in", "let",
    "loop", "macro", "match", "mod", "move", "mut", "override", "priv", "pub", "ref", "return",
    "Self", "self", "static", "struct", "super", "trait", "true", "try", "type", "typeof", "unsafe",
    "unsized", "use", "virtual", "where", "while", "yield"]

def pathKeywords : List String := ["crate", "self", "Self", "super"]

def isPathWord (word : String) : Bool := word ∉ keywords || word ∈ pathKeywords

def startsIdent : List Token → Bool
  | .ident word :: _ => word ∉ keywords
  | _ => false

def startsPathWord : List Token → Bool
  | .ident word :: _ => isPathWord word
  | _ => false

def startsAnyIdent : List Token → Bool
  | .ident _ :: _ => true
  | _ => false

end Token
end TypeHost.Derive
