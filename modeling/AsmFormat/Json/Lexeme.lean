import AsmFormat.Json.Fault

/-!
# Bytes, blanks and literals of a JSON text

JSON is read as bytes, because the places of its faults count bytes. The bytes that have a meaning
of their own are named here.
-/

set_option autoImplicit false

namespace AsmFormat.Json

/-! ## Bytes with a meaning -/

namespace Byte

def quote : UInt8 := 0x22
def plus : UInt8 := 0x2B
def comma : UInt8 := 0x2C
def minus : UInt8 := 0x2D
def point : UInt8 := 0x2E
def slash : UInt8 := 0x2F
def zero : UInt8 := 0x30
def colon : UInt8 := 0x3A
def openList : UInt8 := 0x5B
def backslash : UInt8 := 0x5C
def closeList : UInt8 := 0x5D
def letterB : UInt8 := 0x62
def letterF : UInt8 := 0x66
def letterN : UInt8 := 0x6E
def letterR : UInt8 := 0x72
def letterT : UInt8 := 0x74
def letterU : UInt8 := 0x75
def openObject : UInt8 := 0x7B
def closeObject : UInt8 := 0x7D

/-! ## Classes of bytes -/

/-- The blanks of JSON are fewer than those of text. -/
def isBlank (b : UInt8) : Bool :=
  b == 0x20 || b == 0x0A || b == 0x09 || b == 0x0D

/-- The ten digits. -/
def isDigit (b : UInt8) : Bool :=
  0x30 ≤ b && b ≤ 0x39

/-- The value of a digit. -/
def digit (b : UInt8) : Nat :=
  b.toNat - 0x30

/-- Bytes that a string holds only as an escape. -/
def isControl (b : UInt8) : Bool :=
  b < 0x20

/-- The letters that open an exponent. -/
def opensExponent (b : UInt8) : Bool :=
  b == 0x65 || b == 0x45

/-- The value of a hexadecimal digit. -/
def hexDigit? (b : UInt8) : Option Nat :=
  if isDigit b then some (digit b)
  else if 0x41 ≤ b && b ≤ 0x46 then some (b.toNat - 0x41 + 10)
  else if 0x61 ≤ b && b ≤ 0x66 then some (b.toNat - 0x61 + 10)
  else none

end Byte

/-! ## Blanks and literals -/

/-- The text from its first byte that is not blank. -/
def skipBlanks (bs : Bytes) : Bytes :=
  bs.dropWhile Byte.isBlank

/-- The rest of the text behind the remaining letters of a literal. -/
def readLetters : Bytes → Bytes → Except Fault Bytes
  | [], bs => .ok bs
  | _ :: _, [] => faultBefore .endInValue []
  | letter :: letters, b :: rest =>
    if b = letter then readLetters letters rest else faultBefore .expectedLiteral rest

/-- The rest of the text behind the literal that opens with the given letter, which has been
read. -/
def readLiteral (first : UInt8) (bs : Bytes) : Except Fault Bytes :=
  if first = Byte.letterN then readLetters (Text.utf8 "ull".toList) bs
  else if first = Byte.letterT then readLetters (Text.utf8 "rue".toList) bs
  else readLetters (Text.utf8 "alse".toList) bs

/-- Whether the byte opens a literal. -/
def opensLiteral (b : UInt8) : Bool :=
  b == Byte.letterN || b == Byte.letterT || b == Byte.letterF

end AsmFormat.Json
