import TypeHost.Numbered

/-!
The slots that a type may fill. The numbers are fixed by the binary interface and leave gaps.
-/
namespace TypeHost

inductive SlotId where
  | bfGetbuffer | bfReleasebuffer | mpAssSubscript | mpLength | mpSubscript | nbAbsolute
  | nbAdd | nbAnd | nbBool | nbDivmod | nbFloat | nbFloorDivide | nbIndex | nbInplaceAdd
  | nbInplaceAnd | nbInplaceFloorDivide | nbInplaceLshift | nbInplaceMultiply | nbInplaceOr
  | nbInplacePower | nbInplaceRemainder | nbInplaceRshift | nbInplaceSubtract
  | nbInplaceTrueDivide | nbInplaceXor | nbInt | nbInvert | nbLshift | nbMultiply | nbNegative
  | nbOr | nbPositive | nbPower | nbRemainder | nbRshift | nbSubtract | nbTrueDivide | nbXor
  | sqAssItem | sqConcat | sqContains | sqInplaceConcat | sqInplaceRepeat | sqItem | sqLength
  | sqRepeat | tpInit | tpNew | tpRepr | tpRichcompare | tpTraverse | nbMatrixMultiply
  | nbInplaceMatrixMultiply | tpFinalize | tpDestroy
deriving DecidableEq

namespace SlotId

def values : List SlotId :=
  [.bfGetbuffer, .bfReleasebuffer, .mpAssSubscript, .mpLength, .mpSubscript, .nbAbsolute,
    .nbAdd, .nbAnd, .nbBool, .nbDivmod, .nbFloat, .nbFloorDivide, .nbIndex, .nbInplaceAdd,
    .nbInplaceAnd, .nbInplaceFloorDivide, .nbInplaceLshift, .nbInplaceMultiply, .nbInplaceOr,
    .nbInplacePower, .nbInplaceRemainder, .nbInplaceRshift, .nbInplaceSubtract,
    .nbInplaceTrueDivide, .nbInplaceXor, .nbInt, .nbInvert, .nbLshift, .nbMultiply, .nbNegative,
    .nbOr, .nbPositive, .nbPower, .nbRemainder, .nbRshift, .nbSubtract, .nbTrueDivide, .nbXor,
    .sqAssItem, .sqConcat, .sqContains, .sqInplaceConcat, .sqInplaceRepeat, .sqItem, .sqLength,
    .sqRepeat, .tpInit, .tpNew, .tpRepr, .tpRichcompare, .tpTraverse, .nbMatrixMultiply,
    .nbInplaceMatrixMultiply, .tpFinalize, .tpDestroy]

def code : SlotId → Int32
  | .bfGetbuffer => 1
  | .bfReleasebuffer => 2
  | .mpAssSubscript => 3
  | .mpLength => 4
  | .mpSubscript => 5
  | .nbAbsolute => 6
  | .nbAdd => 7
  | .nbAnd => 8
  | .nbBool => 9
  | .nbDivmod => 10
  | .nbFloat => 11
  | .nbFloorDivide => 12
  | .nbIndex => 13
  | .nbInplaceAdd => 14
  | .nbInplaceAnd => 15
  | .nbInplaceFloorDivide => 16
  | .nbInplaceLshift => 17
  | .nbInplaceMultiply => 18
  | .nbInplaceOr => 19
  | .nbInplacePower => 20
  | .nbInplaceRemainder => 21
  | .nbInplaceRshift => 22
  | .nbInplaceSubtract => 23
  | .nbInplaceTrueDivide => 24
  | .nbInplaceXor => 25
  | .nbInt => 26
  | .nbInvert => 27
  | .nbLshift => 28
  | .nbMultiply => 29
  | .nbNegative => 30
  | .nbOr => 31
  | .nbPositive => 32
  | .nbPower => 33
  | .nbRemainder => 34
  | .nbRshift => 35
  | .nbSubtract => 36
  | .nbTrueDivide => 37
  | .nbXor => 38
  | .sqAssItem => 39
  | .sqConcat => 40
  | .sqContains => 41
  | .sqInplaceConcat => 42
  | .sqInplaceRepeat => 43
  | .sqItem => 44
  | .sqLength => 45
  | .sqRepeat => 46
  | .tpInit => 60
  | .tpNew => 65
  | .tpRepr => 66
  | .tpRichcompare => 67
  | .tpTraverse => 71
  | .nbMatrixMultiply => 75
  | .nbInplaceMatrixMultiply => 76
  | .tpFinalize => 80
  | .tpDestroy => 1000

def name : SlotId → String
  | .bfGetbuffer => "BfGetbuffer"
  | .bfReleasebuffer => "BfReleasebuffer"
  | .mpAssSubscript => "MpAssSubscript"
  | .mpLength => "MpLength"
  | .mpSubscript => "MpSubscript"
  | .nbAbsolute => "NbAbsolute"
  | .nbAdd => "NbAdd"
  | .nbAnd => "NbAnd"
  | .nbBool => "NbBool"
  | .nbDivmod => "NbDivmod"
  | .nbFloat => "NbFloat"
  | .nbFloorDivide => "NbFloorDivide"
  | .nbIndex => "NbIndex"
  | .nbInplaceAdd => "NbInplaceAdd"
  | .nbInplaceAnd => "NbInplaceAnd"
  | .nbInplaceFloorDivide => "NbInplaceFloorDivide"
  | .nbInplaceLshift => "NbInplaceLshift"
  | .nbInplaceMultiply => "NbInplaceMultiply"
  | .nbInplaceOr => "NbInplaceOr"
  | .nbInplacePower => "NbInplacePower"
  | .nbInplaceRemainder => "NbInplaceRemainder"
  | .nbInplaceRshift => "NbInplaceRshift"
  | .nbInplaceSubtract => "NbInplaceSubtract"
  | .nbInplaceTrueDivide => "NbInplaceTrueDivide"
  | .nbInplaceXor => "NbInplaceXor"
  | .nbInt => "NbInt"
  | .nbInvert => "NbInvert"
  | .nbLshift => "NbLshift"
  | .nbMultiply => "NbMultiply"
  | .nbNegative => "NbNegative"
  | .nbOr => "NbOr"
  | .nbPositive => "NbPositive"
  | .nbPower => "NbPower"
  | .nbRemainder => "NbRemainder"
  | .nbRshift => "NbRshift"
  | .nbSubtract => "NbSubtract"
  | .nbTrueDivide => "NbTrueDivide"
  | .nbXor => "NbXor"
  | .sqAssItem => "SqAssItem"
  | .sqConcat => "SqConcat"
  | .sqContains => "SqContains"
  | .sqInplaceConcat => "SqInplaceConcat"
  | .sqInplaceRepeat => "SqInplaceRepeat"
  | .sqItem => "SqItem"
  | .sqLength => "SqLength"
  | .sqRepeat => "SqRepeat"
  | .tpInit => "TpInit"
  | .tpNew => "TpNew"
  | .tpRepr => "TpRepr"
  | .tpRichcompare => "TpRichcompare"
  | .tpTraverse => "TpTraverse"
  | .nbMatrixMultiply => "NbMatrixMultiply"
  | .nbInplaceMatrixMultiply => "NbInplaceMatrixMultiply"
  | .tpFinalize => "TpFinalize"
  | .tpDestroy => "TpDestroy"

instance : Numbered SlotId where
  values := values
  code := code
  name := name
  find_code v := by cases v <;> rfl

end SlotId

end TypeHost
