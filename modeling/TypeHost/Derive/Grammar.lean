import TypeHost.Derive.Reader

/-!
The grammar of types and expressions: what a reader tells about what it read, and the record of
readers through which the parts of the grammar use each other. A part is written against the record
of the next smaller depth, so that nesting is bounded from the outside.
-/
namespace TypeHost.Derive

inductive SegmentArgs where
  | none
  | angle (isEmpty : Bool)
  | paren
deriving DecidableEq

/-- Empty angle brackets are no arguments. -/
def SegmentArgs.isEmpty : SegmentArgs → Bool
  | .none | .angle true => true
  | .angle false | .paren => false

structure PathShape where
  /-- It begins with a type in angle brackets. -/
  qualified : Bool
  /-- It begins with a separator. -/
  rooted : Bool
  segmentCount : Nat
  lastName : String
  lastArgs : SegmentArgs
  /-- No segment is followed by brackets. -/
  isPlain : Bool
deriving DecidableEq

namespace PathShape

def push (path : PathShape) (name : String) (args : SegmentArgs) : PathShape :=
  { path with
    segmentCount := path.segmentCount + 1
    lastName := name
    lastArgs := args
    isPlain := path.isPlain && args = .none }

def single (qualified rooted : Bool) (name : String) (args : SegmentArgs) : PathShape :=
  { qualified, rooted, segmentCount := 1, lastName := name, lastArgs := args
    isPlain := args = .none }

end PathShape

inductive TypeShape where
  | path (path : PathShape)
  /-- Bounds without `dyn`; `single` if it is one bound without a sign behind it. -/
  | object (single : Bool)
  | paren
  | other
deriving DecidableEq

inductive BoundKind where
  | lifetime
  | trait
  | conditional
  | capture
deriving DecidableEq

inductive ExpressionShape where
  | range
  | comparison
  /-- It ends in a block and may stand as a statement without a semicolon. -/
  | block
  /-- A macro with its arguments. -/
  | invocation (delimiter : Delimiter)
  | other
deriving DecidableEq

inductive PatternShape where
  | rest
  /-- A range without one of its ends. -/
  | openRange
  | other
deriving DecidableEq

/-- How tightly an operator binds, loosest first. -/
inductive Precedence where
  | jump | assignment | range | disjunction | conjunction | binding | comparison
  | bitOr | bitXor | bitAnd | shift | sum | product | cast
deriving DecidableEq

def Precedence.level : Precedence → Nat
  | .jump => 0
  | .assignment => 1
  | .range => 2
  | .disjunction => 3
  | .conjunction => 4
  | .binding => 5
  | .comparison => 6
  | .bitOr => 7
  | .bitXor => 8
  | .bitAnd => 9
  | .shift => 10
  | .sum => 11
  | .product => 12
  | .cast => 13

structure Grammar where
  /-- A type, bounds joined by plus signs included if `plus`. -/
  type (plus : Bool) : Reader TypeShape
  /-- A bound of a type, where captures and constant bounds are allowed or not. -/
  bound (captures constants : Bool) : Reader BoundKind
  /-- An expression; without `braces` a path does not begin the literal of a struct. -/
  expression (braces : Bool) : Reader ExpressionShape
  /-- An operand with its signs and what is attached to it. -/
  operand (braces : Bool) : Reader ExpressionShape
  /-- Continues an expression by operators that bind at least that tightly. -/
  continued (braces : Bool) (base : Precedence) (left : ExpressionShape) : Reader ExpressionShape
  /-- An expression where a statement or an arm of a match may end. -/
  body : Reader ExpressionShape
  /-- One pattern without alternatives. -/
  pattern : Reader PatternShape
  /-- A block in braces, which may begin with attributes of its own if `inner`. -/
  block (inner : Bool) : Reader Unit
  /-- Fields with names, in braces. -/
  fields : Reader (List TypeShape)
  /-- A declaration behind its attributes; whether all of it is written as it stood. -/
  declaration : Reader Bool
  /-- A tree of imported names, and whether some path in it begins at the root where only a tree may
  begin there. -/
  useTree (rooted : Bool) : Reader Bool

def Grammar.exhausted : Grammar where
  type _ := Reader.failUnnamed
  bound _ _ := Reader.failUnnamed
  expression _ := Reader.failUnnamed
  operand _ := Reader.failUnnamed
  continued _ _ _ := Reader.failUnnamed
  body := Reader.failUnnamed
  pattern := Reader.failUnnamed
  block _ := Reader.failUnnamed
  fields := Reader.failUnnamed
  declaration := Reader.failUnnamed
  useTree _ := Reader.failUnnamed

end TypeHost.Derive
