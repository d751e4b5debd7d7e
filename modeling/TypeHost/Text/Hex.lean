/-! Hexadecimal text. Handles, leftover flag bits and raw memory are shown in lowercase. -/
namespace TypeHost.Text

/-- A number with the sign of the base in front and no padding: `0x1f`. -/
def hex (n : Nat) : String := "0x" ++ String.ofList (Nat.toDigits 16 n)

def hexByte (b : UInt8) : String :=
  String.ofList [Nat.digitChar (b.toNat / 16), Nat.digitChar (b.toNat % 16)]

def hexBytes (bs : List UInt8) : String := String.join (bs.map hexByte)

end TypeHost.Text
