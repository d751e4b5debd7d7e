/-!
Text on the wire: bytes up to a terminating NUL, in UTF-8 if the sender keeps to its contract.
Main statement: text without a NUL is read back from its wire form.
-/
namespace TypeHost

/-- The bytes in front of the terminator. -/
structure CString where
  bytes : List UInt8
  zero_notMem : 0 ∉ bytes
deriving DecidableEq

namespace CString

/-- What a reader sees of these bytes: all up to the first NUL. -/
def ofBytes (bytes : List UInt8) : CString where
  bytes := bytes.takeWhile (· ≠ 0)
  zero_notMem h := by
    have hall := List.all_takeWhile (p := (· ≠ (0 : UInt8))) (l := bytes)
    rw [List.all_eq_true] at hall
    simpa using hall 0 h

def isEmpty (s : CString) : Bool := s.bytes.isEmpty

/-- `none` if the text has a NUL inside, which the wire would take for its end. -/
def ofText? (text : String) : Option CString :=
  if h : 0 ∉ text.toUTF8.data.toList then some ⟨text.toUTF8.data.toList, h⟩ else none

def text? (s : CString) : Option String := String.fromUTF8? ⟨s.bytes.toArray⟩

theorem text?_of_ofText? {text : String} {s : CString} (h : ofText? text = some s) :
    s.text? = some text := by
  unfold ofText? at h
  split at h
  · cases h
    simp [text?, String.fromUTF8?, String.fromUTF8, text.isValidUTF8]
  · cases h

end CString
end TypeHost
