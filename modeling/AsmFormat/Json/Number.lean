import AsmFormat.Json.Lexeme

/-!
# Numbers of a JSON text

A number without fraction and exponent is an integer if it fits 64 bits. Any other number is a
real, which is worked out from the digits that fit 64 bits and one power of ten.

`readNumber` reads a number behind its sign; `skipNumber` reads past one of any size.
-/

set_option autoImplicit false

namespace AsmFormat.Json

/-- A number as it was read. -/
inductive Number where
  | natural (n : UInt64)
  /-- The negative of a number from 1 to 2 to the power 63. -/
  | negative (n : Nat)
  | real (x : Float)

/-- The digits at the start of the text, as long as their value fits 64 bits, behind digits of the
given value. -/
def readDigits (value : UInt64) : Bytes → UInt64 × Bytes
  | [] => (value, [])
  | b :: rest =>
    if Byte.isDigit b && value.toNat * 10 + Byte.digit b < UInt64.size then
      readDigits (value * 10 + UInt64.ofNat (Byte.digit b)) rest
    else
      (value, b :: rest)

/-- The text from its first byte that is not a digit. -/
def skipDigits (bs : Bytes) : Bytes :=
  bs.dropWhile Byte.isDigit

/-- Whether a digit comes next. -/
def digitNext (bs : Bytes) : Bool :=
  match bs with
  | [] => false
  | b :: _ => Byte.isDigit b

/-- The digits of an exponent behind digits of the given value. There is no value when they exceed
31 bits; the text then goes on behind the digit that did. -/
def readExponentDigits (value : Nat) : Bytes → Option Nat × Bytes
  | [] => (some value, [])
  | b :: rest =>
    if Byte.isDigit b then
      let value := value * 10 + Byte.digit b
      if value < 0x80000000 then readExponentDigits value rest else (none, rest)
    else
      (some value, b :: rest)

/-- A number times a power of ten. Powers below the least are reached in several steps, until the
number is zero. -/
def scaled? (x : Float) (power : Int) : Nat → Option Float
  | 0 => some x
  | steps + 1 =>
    if power.natAbs ≤ 308 then
      if 0 ≤ power then
        let y := x * Float.ofScientific 1 false power.natAbs
        if y.isInf then none else some y
      else
        some (x / Float.ofScientific 1 false power.natAbs)
    else if x == 0 then some x
    else if 0 ≤ power then none
    else scaled? (x / Float.ofScientific 1 false 308) (power + 308) steps

/-- The real with the given digits and power of ten. Three steps bring every number of 64 bits down
to zero. -/
def finishReal (isNegative : Bool) (digits : UInt64) (power : Int) (rest : Bytes) :
    Except Fault (Number × Bytes) :=
  match scaled? digits.toFloat power 4 with
  | none => faultBefore .outOfRange rest
  | some x => .ok (.real (if isNegative then -x else x), rest)

/-- The exponent of a real behind its letter. -/
def readExponent (isNegative : Bool) (digits : UInt64) (power : Int) (bs : Bytes) :
    Except Fault (Number × Bytes) :=
  let (down, bs) := match bs with
    | b :: rest =>
      if b = Byte.plus then (false, rest) else if b = Byte.minus then (true, rest) else (false, bs)
    | [] => (false, [])
  match bs with
  | [] => faultBefore .endInValue []
  | b :: rest =>
    if Byte.isDigit b then
      match readExponentDigits (Byte.digit b) rest with
      | (some exponent, rest) =>
        finishReal isNegative digits (if down then power - exponent else power + exponent) rest
      | (none, rest) =>
        if digits ≠ 0 ∧ !down then faultBefore .outOfRange rest
        else .ok (.real (if isNegative then -0.0 else 0.0), skipDigits rest)
    else
      faultBefore .invalidNumber rest

/-- The end of a real behind its integer part and fraction: an exponent, or nothing. -/
def readRealEnd (isNegative : Bool) (digits : UInt64) (power : Int) (bs : Bytes) :
    Except Fault (Number × Bytes) :=
  match bs with
  | [] => finishReal isNegative digits power []
  | b :: rest =>
    if Byte.opensExponent b then readExponent isNegative digits power rest
    else finishReal isNegative digits power bs

/-- The fraction of a real behind the point. Digits that do not fit are passed over. -/
def readFraction (isNegative : Bool) (digits : UInt64) (power : Int) (bs : Bytes) :
    Except Fault (Number × Bytes) :=
  let (digits, rest) := readDigits digits bs
  let power := power - (bs.length - rest.length : Nat)
  if digitNext rest then readRealEnd isNegative digits power (skipDigits rest)
  else if rest.length = bs.length then
    match rest with
    | [] => faultBehindNext .endInValue []
    | _ :: _ => faultBehindNext .invalidNumber rest
  else
    readRealEnd isNegative digits power rest

/-- The number whose integer part has been read and fits 64 bits. -/
def readNumberEnd (isNegative : Bool) (digits : UInt64) (bs : Bytes) :
    Except Fault (Number × Bytes) :=
  let integer : Number :=
    if !isNegative then .natural digits
    else if digits = 0 ∨ 0x8000000000000000 < digits.toNat then .real (-digits.toFloat)
    else .negative digits.toNat
  match bs with
  | [] => .ok (integer, [])
  | b :: rest =>
    if b = Byte.point then readFraction isNegative digits 0 rest
    else if Byte.opensExponent b then readExponent isNegative digits 0 rest
    else .ok (integer, bs)

/-- A number behind its sign. -/
def readNumber (isNegative : Bool) (bs : Bytes) : Except Fault (Number × Bytes) :=
  match bs with
  | [] => faultBefore .endInValue []
  | b :: rest =>
    if b = Byte.zero then
      if digitNext rest then faultBehindNext .invalidNumber rest
      else readNumberEnd isNegative 0 rest
    else if Byte.isDigit b then
      let (digits, rest) := readDigits (UInt64.ofNat (Byte.digit b)) rest
      if digitNext rest then
        let power : Int := (rest.takeWhile Byte.isDigit).length
        match skipDigits rest with
        | [] => finishReal isNegative digits power []
        | b :: rest =>
          if b = Byte.point then readFraction isNegative digits power rest
          else readRealEnd isNegative digits power (b :: rest)
      else
        readNumberEnd isNegative digits rest
    else
      faultBefore .invalidNumber rest

/-- The rest of the text behind an exponent of any size. -/
def skipExponent (bs : Bytes) : Except Fault Bytes :=
  let bs := match bs with
    | b :: rest => if b = Byte.plus ∨ b = Byte.minus then rest else bs
    | [] => []
  match bs with
  | [] => faultBefore .invalidNumber []
  | b :: rest => if Byte.isDigit b then .ok (skipDigits rest) else faultBefore .invalidNumber rest

/-- The rest of the text behind the end of a number: an exponent, or nothing. -/
def skipRealEnd (bs : Bytes) : Except Fault Bytes :=
  match bs with
  | [] => .ok []
  | b :: rest => if Byte.opensExponent b then skipExponent rest else .ok bs

/-- The rest of the text behind what follows the integer part of a number. -/
def skipNumberEnd (bs : Bytes) : Except Fault Bytes :=
  match bs with
  | [] => .ok []
  | b :: rest =>
    if b = Byte.point then
      if digitNext rest then skipRealEnd (skipDigits rest) else faultBehindNext .invalidNumber rest
    else
      skipRealEnd bs

/-- The rest of the text behind a number of any size, whose sign has been read. -/
def skipNumber (bs : Bytes) : Except Fault Bytes :=
  match bs with
  | [] => faultBefore .invalidNumber []
  | b :: rest =>
    if b = Byte.zero then
      if digitNext rest then faultBehindNext .invalidNumber rest else skipNumberEnd rest
    else if Byte.isDigit b then skipNumberEnd (skipDigits rest)
    else faultBefore .invalidNumber rest

end AsmFormat.Json
