import TypeHost.Derive.Grammar.Bound

/-!
Generic parameters of an item and what its where clause asks of them. The implementation repeats the
parameters with their bounds and without defaults, and the type takes their bare names; lifetimes
come first in both.
-/
namespace TypeHost.Derive

def GenericParam.list (spelled : GenericParam → List Token)
    (params : List (GenericParam × Bool)) : List Token :=
  if params.isEmpty then []
  else
    .punct '<' false :: AngleEntry.arrange (params.map fun (param, followed) =>
        { isLifetime := param.isLifetime, tokens := spelled param, followed })
      ++ [.punct '>' false]

structure Generics where
  /-- Parameters, each with whether a comma stands behind it. -/
  params : List (GenericParam × Bool)
  /-- Predicates of the where clause. -/
  predicates : List Token

namespace Generics

def declarations (generics : Generics) : List Token :=
  GenericParam.list GenericParam.declaration generics.params

def arguments (generics : Generics) : List Token :=
  GenericParam.list GenericParam.argument generics.params

/-- A where clause without predicates is not written. -/
def whereClause (predicates : List Token) : List Token :=
  if predicates.isEmpty then [] else .ident "where" :: predicates

end Generics

namespace Grammar
open Reader Token

/-- The parameters of a declaration, each with whether a comma stands behind it. -/
def genericParams (g : Grammar) : Reader (List (GenericParam × Bool)) := do
  let (bracket, _) ← captured (mark? "<")
  if !bracket then return []
  let entries ← AngleEntry.readAll (g.genericParam true)
  discard (captured (mark ">"))
  let params := entries.map fun (param, _, followed) => (param, followed)
  spell (GenericParam.list GenericParam.whole params)
  return params

def startsParams (tokens : List Token) : Bool :=
  let second := tokens.drop 1
  let third := tokens.drop 2
  startsMark "<" tokens
    && (startsAnyMark [">", "#"] second || startsWord "const" second
      || ((startsLifetime second || startsIdent second)
        && (startsAnyMark [">", ",", "="] third
          || (startsMark ":" third && !startsMark "::" third))))

def endsPredicate (tokens : List Token) : Bool :=
  tokens.isEmpty || startsGroup .brace tokens || startsAnyMark [",", ";", "="] tokens
    || (startsMark ":" tokens && !startsMark "::" tokens)

def predicate (g : Grammar) : Reader Unit := do
  let tokens ← rest
  if startsLifetime tokens && startsMark ":" (tokens.drop 1) then
    lifetime
    mark ":"
    boundsUntil (fun tokens => endsPredicate tokens || startsMark ":" tokens) lifetime
  else
    discard g.binder?
    discard (g.type true)
    mark ":"
    boundsUntil endsPredicate (g.bound false true)

def whereClause? (g : Grammar) : Reader (Option (List Token)) := do
  let (clause, _) ← captured (word? "where")
  if !clause then return none
  if ← sees startsParams then throw (.misplaced .whereGenerics)
  let ((), predicates) ← captured <| repeated do
    if ← sees endsPredicate then return false
    g.predicate
    mark? ","
  spell (Generics.whereClause predicates)
  return some predicates

end Grammar
end TypeHost.Derive
