/-!
# The fewest digits that read back

A finite 64-bit number is a significand times a power of two, and every real number in an interval
around it is read as that number. `Shortest.ofFloat` looks for a decimal number in the interval. It
tries one digit, two digits, and so on, and for each count only the two neighbours of the number on
that decimal grid: if any point of the grid lies in the interval, so does one of them. All of it is
arithmetic on natural numbers.
-/

set_option autoImplicit false

namespace AsmFormat

/-- A decimal number: `digits` times ten to the power `exponent`. -/
structure Shortest where
  digits : Nat
  exponent : Int
deriving DecidableEq

namespace Shortest

/-- The multiple of `step` next to `value` that lies between `low` and `high`, as a factor. Of two
such multiples it is the nearer one, and of two equally near ones the even one. The ends belong to
the interval if it is closed. -/
def neighbour? (closed : Bool) (low value high step : Nat) : Option Nat :=
  let below := value / step
  let above := below + 1
  let inside (n : Nat) : Bool :=
    if closed then low ≤ n * step && n * step ≤ high else low < n * step && n * step < high
  match inside below, inside above with
  | true, true =>
    let down := value - below * step
    let up := above * step - value
    some (if down < up then below else if up < down then above else below + below % 2)
  | true, false => some below
  | false, true => some above
  | false, false => none

/-- The same number without a zero at the end of its digits. Only the number ten needs it: every
other point of a grid that ends in zero lies on the coarser grid, which was tried before. -/
def dropZero (s : Shortest) : Shortest :=
  if s.digits % 10 = 0 then ⟨s.digits / 10, s.exponent + 1⟩ else s

/-- The shortest decimal number that reads back as `significand` times two to the power
`exponent`. Below a power of two the next number is only half as far away, which `narrow` tells. -/
def ofBinary (significand : Nat) (exponent : Int) (narrow : Bool) : Shortest :=
  -- All quantities are counted in quarters of the last place, times ten to the power 400.
  let scale := Nat.pow 2 (exponent + 1078).toNat * Nat.pow 10 400
  let unit := Nat.pow 2 1080
  let value := 4 * significand * scale
  let low := (4 * significand - (if narrow then 1 else 2)) * scale
  let high := (4 * significand + 2) * scale
  let places := (Nat.toDigits 10 (value / unit)).length
  let onGrid (i : Nat) : Option Shortest :=
    (neighbour? (significand % 2 == 0) low value high (unit * Nat.pow 10 (places - 1 - i))).map
      fun digits => dropZero ⟨digits, Int.ofNat (places - 1 - i) - 400⟩
  ((List.range 17).findSome? onGrid).getD ⟨0, 0⟩

/-- The shortest decimal number that reads back as the magnitude of a finite number. -/
def ofFloat (x : Float) : Shortest :=
  let fraction := (x.toBits &&& 0x000FFFFFFFFFFFFF).toNat
  let power := (x.toBits >>> 52 &&& 0x7FF).toNat
  if power = 0 then ofBinary fraction (-1074) false
  else ofBinary (0x10000000000000 + fraction) (Int.ofNat power - 1075) (fraction == 0 && power != 1)

end Shortest

end AsmFormat
