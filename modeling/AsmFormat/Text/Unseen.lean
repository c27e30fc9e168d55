import AsmFormat.Text.Blank
import AsmFormat.Text.Unseen.Table

/-!
# Unseen characters

A character is unseen if it leaves no mark of its own on paper: it has no shape, or it attaches to
the character before it. Where a text is quoted, such characters would be lost to the reader.
-/

set_option autoImplicit false

namespace AsmFormat

/-- Whether a character leaves no mark of its own. The space is not among these characters. -/
def isUnseen (c : Char) : Bool :=
  CodeRange.within formless c.toNat || CodeRange.within attaching c.toNat

/-- A character is unseen exactly when one of the two tables holds it. -/
theorem isUnseen_iff (c : Char) :
    isUnseen c = true ↔ ∃ r ∈ formless ++ attaching, r.first ≤ c.toNat ∧ c.toNat ≤ r.last := by
  simp only [isUnseen, Bool.or_eq_true, CodeRange.within_iff ascending_formless,
    CodeRange.within_iff ascending_attaching, List.mem_append, or_and_right, exists_or]

end AsmFormat
