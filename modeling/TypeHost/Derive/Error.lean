import TypeHost.Derive.Token

/-! Why an item is not accepted, with the text of each cause. -/
namespace TypeHost.Derive

inductive Expectation where
  /-- A mark or a keyword. -/
  | sign (text : String)
  | pair (delimiter : Delimiter)
  /-- Any of several things, each as error texts call it. -/
  | choice (texts : List String)
  | identifier
  /-- A keyword stands where an identifier should. -/
  | identifierNotKeyword (keyword : String)
  | word
  | lifetime
  | anyDelimiter
  | nestedAttribute
  | nestedWordNotLiteral
  | nestedWordNotToken
  | pathSegment
  | expression
  | member
  | integer
  | loopOrBlock
  | commaOrSemicolon
  | rangeEnd
  | identifierOrUnderscore
deriving DecidableEq

def Expectation.text : Expectation → String
  | .sign text => "expected `" ++ text ++ "`"
  | .pair delimiter => "expected " ++ delimiter.pair
  | .choice [text] => "expected " ++ text
  | .choice [first, second] => "expected " ++ first ++ " or " ++ second
  | .choice texts => "expected one of: " ++ ", ".intercalate texts
  | .identifier => "expected identifier"
  | .identifierNotKeyword keyword => "expected identifier, found keyword `" ++ keyword ++ "`"
  | .word => "expected ident"
  | .lifetime => "expected lifetime"
  | .anyDelimiter => "expected delimiter"
  | .nestedAttribute => "expected nested attribute"
  | .nestedWordNotLiteral => "unexpected literal in nested attribute, expected ident"
  | .nestedWordNotToken => "unexpected token in nested attribute, expected ident"
  | .pathSegment => "expected path segment after `::`"
  | .expression => "expected an expression"
  | .member => "expected identifier or integer"
  | .integer => "expected integer literal"
  | .loopOrBlock => "expected loop or block expression"
  | .commaOrSemicolon => "expected `,` or `;`"
  | .rangeEnd => "expected range upper bound"
  | .identifierOrUnderscore => "expected identifier or underscore"

/-- What is well formed by itself but not allowed where it stands. -/
inductive Misplacement where
  | chainedComparison
  /-- A cast has to stand in parentheses before some continuations. -/
  | castFollowed (continuation : String)
  | attributedRange
  | unparenthesizedLoop
  | statementNotEnded
  | openRangeInSlice
  | objectWithoutTrait
  | opaqueWithoutTrait
  | boundRelaxed
  | capture
  | constBound
  | conditionalConstBound
  | whereGenerics
  | attributeInAttribute
  | suffixedIndex
  | negativeIndex
  | largeIndex
  | lateReceiver
  | secondReceiver
  | negativeInherent
deriving DecidableEq

def Misplacement.text : Misplacement → String
  | .chainedComparison => "comparison operators cannot be chained"
  | .castFollowed continuation => "casts cannot be followed by " ++ continuation
  | .attributedRange =>
    "attributes are not allowed on range expressions starting with `..`"
  | .unparenthesizedLoop => "parentheses required"
  | .statementNotEnded => "unexpected token, expected `;`"
  | .openRangeInSlice =>
    "range pattern is not allowed unparenthesized inside slice pattern"
  | .objectWithoutTrait => "at least one trait is required for an object type"
  | .opaqueWithoutTrait => "at least one trait must be specified"
  | .boundRelaxed => "`for<...>` binder not allowed with `?` trait polarity modifier"
  | .capture => "`use<...>` precise capturing syntax is not allowed here"
  | .constBound => "`const` is not allowed here"
  | .conditionalConstBound => "`[const]` is not allowed here"
  | .whereGenerics =>
    "generic parameters on `where` clauses are reserved for future use"
  | .attributeInAttribute => "unexpected attribute inside of attribute"
  | .suffixedIndex => "expected unsuffixed integer"
  | .negativeIndex => "invalid digit found in string"
  | .largeIndex => "number too large to fit in target type"
  | .lateReceiver => "unexpected method receiver"
  | .secondReceiver => "unexpected second method receiver"
  | .negativeInherent => "inherent impls cannot be negative"

inductive DeriveError where
  /-- The text does not consist of tokens. -/
  | unreadable
  /-- Something else was expected; `atEnd` if nothing is left where it was. -/
  | malformed (atEnd : Bool) (expected : Expectation)
  | misplaced (what : Misplacement)
  /-- Nothing is left where something had to come. -/
  | unfinished
  /-- Something is left behind a complete reading, inside a group unless none is given. -/
  | leftover (inside : Option Delimiter)
  | missingArguments (name : String)
  | valueForArguments (name : String)
  | unknownMode (name : String)
  | conflictingModes
  | notAStruct
  | notReprC
  | noHead
  | otherHead
deriving DecidableEq

def DeriveError.message : DeriveError → String
  | .unreadable => "cannot parse string into token stream"
  | .malformed atEnd expected =>
    (if atEnd then "unexpected end of input, " else "") ++ expected.text
  | .misplaced what => what.text
  | .unfinished => "unexpected end of input"
  | .leftover none => "unexpected token"
  | .leftover (some delimiter) => "unexpected token, expected `" ++ delimiter.closing ++ "`"
  | .missingArguments name =>
    "expected attribute arguments in parentheses: #[" ++ name ++ "(...)]"
  | .valueForArguments name => "expected parentheses: #[" ++ name ++ "(...)]"
  | .unknownMode name => "unknown univtype attribute: " ++ name
  | .conflictingModes => "`legacy` and `pure` are mutually exclusive"
  | .notAStruct => "TypeStruct can only be derived for structs"
  | .notReprC => "TypeStruct requires #[repr(C)]"
  | .noHead => "a legacy TypeStruct must start with an ObjectHead field"
  | .otherHead => "the first field of a legacy TypeStruct must be ObjectHead"

end TypeHost.Derive
