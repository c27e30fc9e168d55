import AsmFormat.Failure

/-!
# Ranges of lines

The user counts lines from one and may leave either end of a range open. `LineRange` counts from
zero and holds both ends. `LineRange.ofNumbers` converts one into the other and refuses a range
that names line zero or ends before it starts.
-/

set_option autoImplicit false

namespace AsmFormat

/-- The lines with indexes from `first` to `last`, both included. -/
structure LineRange where
  first : UInt64 := 0
  last : UInt64 := 0xFFFFFFFFFFFFFFFF
deriving DecidableEq

namespace LineRange

/-- The range of a whole document. -/
def whole : LineRange := {}

/-- The lines of the range, at the end of which the document may cut it short. -/
def window {α : Type} (r : LineRange) (lines : List α) : List α :=
  (lines.take (r.last.toNat + 1)).drop r.first.toNat

/-- The range from one line number to another. -/
def ofNumbers (first? last? : Option UInt64) : Except Failure LineRange :=
  let first := first?.getD 1
  let last := last?.getD whole.last
  if first = 0 ∨ last = 0 ∨ last < first then
    .error (.badLineRange first last)
  else
    .ok { first := first - 1, last := (last?.map (· - 1)).getD whole.last }

end LineRange

end AsmFormat
