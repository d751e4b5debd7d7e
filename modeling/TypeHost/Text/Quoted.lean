import TypeHost.Text.Word

/-! Text in double quotes, with what is not shown written as escapes. -/
namespace TypeHost.Text

def isHidden (c : Char) : Bool :=
  c < ' ' || c = '\x7f' || inRanges hiddenRanges c.toNat

/-- A zero character before an octal digit is written in full, so that the two stay apart. -/
def escape (c : Char) (next : Option Char) : String :=
  match c with
  | '\x00' => if next.any fun d => '0' ≤ d && d ≤ '7' then "\\x00" else "\\0"
  | '\t' => "\\t"
  | '\n' => "\\n"
  | '\r' => "\\r"
  | '"' => "\\\""
  | '\\' => "\\\\"
  | c =>
    if isHidden c then "\\u\x7b" ++ String.ofList (Nat.toDigits 16 c.toNat) ++ "\x7d"
    else c.toString

def escapes : List Char → String
  | [] => ""
  | c :: rest => escape c rest.head? ++ escapes rest

def quoted (cs : List Char) : String := "\"" ++ escapes cs ++ "\""

end TypeHost.Text
