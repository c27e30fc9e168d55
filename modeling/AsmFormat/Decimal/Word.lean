import AsmFormat.Text.Blank

/-!
# Decimal numbers of 64 bits

`readWord?` reads a number as users write it: decimal digits, with a plus sign in front if they
like.
-/

set_option autoImplicit false

namespace AsmFormat

/-- The number that a text states, unless it has no digits, anything but digits behind the sign, or
more than 64 bits. -/
def readWord? (t : Text) : Option UInt64 :=
  let digits := match t with
    | '+' :: rest => rest
    | _ => t
  if digits.isEmpty || digits.any (fun c => !c.isDigit) then none
  else
    let n := Nat.ofDigitChars 10 digits 0
    if n < UInt64.size then some (UInt64.ofNat n) else none

end AsmFormat
