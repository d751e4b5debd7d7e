import TypeHost.Derive.Reader

/-!
Lists in angle brackets. They are written with lifetimes first, each entry with the comma that stood
behind it; a comma is put in where a lifetime without one comes before another entry.
-/
namespace TypeHost.Derive

structure AngleEntry where
  isLifetime : Bool
  tokens : List Token
  /-- A comma stands behind it. -/
  followed : Bool

namespace AngleEntry

def spelled (entry : AngleEntry) : List Token :=
  entry.tokens ++ if entry.followed then Token.spellMark [','] else []

def arrange (entries : List AngleEntry) : List Token :=
  let lifetimes := entries.filter (·.isLifetime)
  let others := entries.filter (!·.isLifetime)
  let joint :=
    if !others.isEmpty && lifetimes.getLast?.any (!·.followed) then Token.spellMark [','] else []
  lifetimes.flatMap spelled ++ joint ++ others.flatMap spelled

/-- Entries up to the closing bracket, with what they spell and whether a comma follows. -/
def readAll {α : Type} (entry : Reader α) : Reader (List (α × List Token × Bool)) := do
  let (entries, _) ← Reader.captured <| Reader.collected do
    if ← Reader.sees (Token.startsMark ">") then return none
    let (a, tokens) ← Reader.captured entry
    let last ← Reader.sees (Token.startsMark ">")
    if !last then Reader.mark ","
    return some (a, tokens, !last)
  return entries

end AngleEntry
end TypeHost.Derive
