import TypeHost.Derive.Grammar

/-! Operators between two operands, and where an expression may begin or a range may end. -/
namespace TypeHost.Derive.Grammar
open Token

/-- The operators, the longer ones before those with which they begin. -/
def operators : List (String × Precedence) :=
  [("+=", .assignment), ("-=", .assignment), ("*=", .assignment), ("/=", .assignment),
    ("%=", .assignment), ("^=", .assignment), ("&=", .assignment), ("|=", .assignment),
    ("<<=", .assignment), (">>=", .assignment), ("&&", .conjunction), ("||", .disjunction),
    ("<<", .shift), (">>", .shift), ("==", .comparison), ("<=", .comparison),
    ("!=", .comparison), (">=", .comparison), ("+", .sum), ("-", .sum), ("*", .product),
    ("/", .product), ("%", .product), ("^", .bitXor), ("&", .bitAnd), ("|", .bitOr),
    ("<", .comparison), (">", .comparison)]

def operator? (tokens : List Token) : Option (String × Precedence) :=
  operators.find? fun operator => startsMark operator.1 tokens

/-- A plain equals sign, or another mark that begins with one, but not the arrow of a match. -/
def startsAssignment (tokens : List Token) : Bool :=
  startsMark "=" tokens && !startsMark "=>" tokens

def precedence (tokens : List Token) : Precedence :=
  match operator? tokens with
  | some (_, precedence) => precedence
  | none =>
    if startsAssignment tokens then .assignment
    else if startsMark ".." tokens then .range
    else if startsWord "as" tokens then .cast
    else .jump

/-- One point, which is not the beginning of a range. -/
def startsPoint (tokens : List Token) : Bool := startsMark "." tokens && !startsMark ".." tokens

def startsBinder (tokens : List Token) : Bool :=
  startsWord "for" tokens && startsMark "<" (tokens.drop 1)
    && (startsLifetime (tokens.drop 2) || startsMark ">" (tokens.drop 2))

def startsExpression (tokens : List Token) : Bool :=
  (startsAnyIdent tokens && !startsWord "as" tokens)
    || startsGroup .paren tokens || startsGroup .bracket tokens || startsGroup .brace tokens
    || startsLiteral tokens || startsLifetime tokens
    || (startsMark "!" tokens && !startsMark "!=" tokens)
    || (startsMark "-" tokens && !startsAnyMark ["-=", "->"] tokens)
    || (startsMark "*" tokens && !startsMark "*=" tokens)
    || (startsMark "|" tokens && !startsMark "|=" tokens)
    || (startsMark "&" tokens && !startsMark "&=" tokens)
    || (startsMark "<" tokens && !startsAnyMark ["<=", "<<="] tokens)
    || startsAnyMark ["..", "::", "#"] tokens

def endsRange (braces : Bool) (tokens : List Token) : Bool :=
  tokens.isEmpty || startsPoint tokens || (!braces && startsGroup .brace tokens)
    || startsAnyMark [",", ";", "?", "=", "+", "/", "%", "^", ">", "<=", "!=", "-=", "*=", "&=",
      "|=", "<<="] tokens
    || startsWord "as" tokens

end TypeHost.Derive.Grammar
