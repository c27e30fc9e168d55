import AsmFormat.Decimal.Shortest
import AsmFormat.Text.Blank

/-!
# The text of a number with a fraction

A number is written by its shortest digits. Its size decides between the positional form, which
always has a digit after the point, and the form with an exponent, which shows the sign of the
exponent and no leading zeros.
-/

set_option autoImplicit false

namespace AsmFormat

/-- Which powers of ten the first digit may have in the positional form. -/
structure RealFormat where
  /-- The least power written positionally. -/
  least : Int
  /-- The greatest power written positionally. -/
  greatest : Int

/-- Messages write numbers from 0.00001 up to sixteen digits before the point positionally. -/
def messageReal : RealFormat := ⟨-5, 15⟩

namespace RealFormat

/-- The positional form of a magnitude. -/
def positional (digits : Text) (exponent : Int) : Text :=
  let point := Int.ofNat digits.length + exponent
  if 0 ≤ exponent then digits ++ List.replicate exponent.toNat '0' ++ ['.', '0']
  else if 0 < point then digits.take point.toNat ++ '.' :: digits.drop point.toNat
  else ['0', '.'] ++ List.replicate (-point).toNat '0' ++ digits

/-- The form of a magnitude with an exponent, where `power` is the power of the first digit. -/
def scientific (digits : Text) (power : Int) : Text :=
  let rest := digits.drop 1
  let mark := if power < 0 then ['e', '-'] else ['e', '+']
  digits.take 1 ++ (if rest.isEmpty then [] else '.' :: rest) ++ mark ++
    Nat.toDigits 10 power.natAbs

/-- The text of a finite number. -/
def write (f : RealFormat) (x : Float) : Text :=
  let sign := if x.toBits >>> 63 == 1 then ['-'] else []
  if x == 0 then sign ++ ['0', '.', '0']
  else
    let shortest := Shortest.ofFloat x
    let digits := Nat.toDigits 10 shortest.digits
    let power := Int.ofNat digits.length - 1 + shortest.exponent
    if f.least ≤ power && power ≤ f.greatest then sign ++ positional digits shortest.exponent
    else sign ++ scientific digits power

end RealFormat

end AsmFormat
