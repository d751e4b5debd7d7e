import TypeHost.Numbered

/-! The numbered kinds inside definition records. -/
namespace TypeHost

inductive DefKind where
  | slot | method | member | getSet
deriving DecidableEq

namespace DefKind

def values : List DefKind :=
  [.slot, .method, .member, .getSet]

def code : DefKind → Int32
  | .slot => 1
  | .method => 2
  | .member => 3
  | .getSet => 4

def name : DefKind → String
  | .slot => "Slot"
  | .method => "Method"
  | .member => "Member"
  | .getSet => "GetSet"

instance : Numbered DefKind where
  values := values
  code := code
  name := name
  find_code v := by cases v <;> rfl

end DefKind

inductive Signature where
  | varArgs | keywords | noArgs | o
deriving DecidableEq

namespace Signature

def values : List Signature :=
  [.varArgs, .keywords, .noArgs, .o]

def code : Signature → Int32
  | .varArgs => 1
  | .keywords => 2
  | .noArgs => 3
  | .o => 4

def name : Signature → String
  | .varArgs => "VarArgs"
  | .keywords => "Keywords"
  | .noArgs => "NoArgs"
  | .o => "O"

instance : Numbered Signature where
  values := values
  code := code
  name := name
  find_code v := by cases v <;> rfl

end Signature

inductive MemberKind where
  | short | int | long | float | double | string | object | char | byte | uByte | uShort | uInt
  | uLong | stringInPlace | bool | objectEx | longLong | uLongLong | sSizeT | none
deriving DecidableEq

namespace MemberKind

def values : List MemberKind :=
  [.short, .int, .long, .float, .double, .string, .object, .char, .byte, .uByte, .uShort,
    .uInt, .uLong, .stringInPlace, .bool, .objectEx, .longLong, .uLongLong, .sSizeT, .none]

def code : MemberKind → Int32
  | .short => 0
  | .int => 1
  | .long => 2
  | .float => 3
  | .double => 4
  | .string => 5
  | .object => 6
  | .char => 7
  | .byte => 8
  | .uByte => 9
  | .uShort => 10
  | .uInt => 11
  | .uLong => 12
  | .stringInPlace => 13
  | .bool => 14
  | .objectEx => 16
  | .longLong => 17
  | .uLongLong => 18
  | .sSizeT => 19
  | .none => 20

def name : MemberKind → String
  | .short => "Short"
  | .int => "Int"
  | .long => "Long"
  | .float => "Float"
  | .double => "Double"
  | .string => "String"
  | .object => "Object"
  | .char => "Char"
  | .byte => "Byte"
  | .uByte => "UByte"
  | .uShort => "UShort"
  | .uInt => "UInt"
  | .uLong => "ULong"
  | .stringInPlace => "StringInPlace"
  | .bool => "Bool"
  | .objectEx => "ObjectEx"
  | .longLong => "LongLong"
  | .uLongLong => "ULongLong"
  | .sSizeT => "SSizeT"
  | .none => "None"

instance : Numbered MemberKind where
  values := values
  code := code
  name := name
  find_code v := by cases v <;> rfl

end MemberKind

end TypeHost
