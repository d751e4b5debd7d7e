import TypeHost.Text.Hex

/-!
Type flags, a word of 64 bits of which four have names. Unnamed bits are carried through untouched
and shown as one hexadecimal rest.
-/
namespace TypeHost

structure TypeFlags where
  bits : UInt64
deriving DecidableEq

namespace TypeFlags

def none : TypeFlags := ⟨0⟩

/-- Set by the host on every type built from a spec. -/
def heapAllocated : TypeFlags := ⟨0x200⟩
def baseType : TypeFlags := ⟨0x400⟩
def garbageCollected : TypeFlags := ⟨0x4000⟩
def versionTagTracking : TypeFlags := ⟨0x40000⟩

def named : List (String × TypeFlags) :=
  [("HEAP_ALLOCATED", heapAllocated), ("BASE_TYPE", baseType),
   ("GARBAGE_COLLECTED", garbageCollected), ("VERSION_TAG_TRACKING", versionTagTracking)]

def union (a b : TypeFlags) : TypeFlags := ⟨a.bits ||| b.bits⟩

def contains (a b : TypeFlags) : Bool := a.bits &&& b.bits == b.bits

def default : TypeFlags := heapAllocated.union versionTagTracking

def rest (a : TypeFlags) : UInt64 :=
  named.foldl (fun bits flag => bits &&& ~~~flag.2.bits) a.bits

/-- The parts of the shown text: names in bit order, then the rest, or the one part `0x0`. -/
def parts (a : TypeFlags) : List String :=
  let names := (named.filter fun flag => a.contains flag.2).map Prod.fst
  if a.bits = 0 then [Text.hex 0]
  else if a.rest = 0 then names else names ++ [Text.hex a.rest.toNat]

def describe (a : TypeFlags) : String :=
  "TypeFlags(" ++ " | ".intercalate a.parts ++ ")"

end TypeFlags
end TypeHost
