import AsmFormat.Text.Alphanumeric.Table

/-!
# Letters and numbers

`isAlphanumeric` holds of the letters and numbers of every script, not of the Latin ones alone.
-/

set_option autoImplicit false

namespace AsmFormat

/-- Whether a character is a letter or a number. -/
def isAlphanumeric (c : Char) : Bool :=
  CodeRange.within alphanumeric c.toNat

/-- A character is a letter or a number exactly when the table holds it. -/
theorem isAlphanumeric_iff (c : Char) :
    isAlphanumeric c = true ↔ ∃ r ∈ alphanumeric, r.first ≤ c.toNat ∧ c.toNat ≤ r.last :=
  CodeRange.within_iff ascending_alphanumeric

end AsmFormat
