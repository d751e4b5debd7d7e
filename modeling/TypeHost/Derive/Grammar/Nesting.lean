import TypeHost.Derive.Grammar.Declaration
import TypeHost.Derive.Grammar.Statement

/-!
The grammar to a given depth. Every part takes a token before it uses the others, with at most one
step more for a block, so that twice as many steps as there are tokens are enough.
-/
namespace TypeHost.Derive.Grammar

def extend (g : Grammar) : Grammar where
  type := g.wholeType
  bound := g.singleBound
  expression := g.wholeExpression
  operand := g.wholeOperand
  continued := g.continueAll
  body := g.wholeBody
  pattern := g.singlePattern
  block := g.wholeBlock
  fields := g.namedFields
  declaration := g.wholeDeclaration
  useTree := g.useNames

def ofDepth : Nat → Grammar
  | 0 => exhausted
  | n + 1 => extend (ofDepth n)

def sufficient (tokens : List Token) : Grammar := ofDepth (2 * Token.weights tokens + 8)

end TypeHost.Derive.Grammar
