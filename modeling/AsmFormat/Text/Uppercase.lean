import AsmFormat.Text.Blank
import AsmFormat.Text.Uppercase.Table

/-!
# Upper case of a text

`upperChar` is the full upper case mapping of one character, which may be up to three characters
long; `Text.upper` maps a text character by character. The mapping has no context.
-/

set_option autoImplicit false

namespace AsmFormat

/-- The upper case of one character. -/
def upperChar (c : Char) : Text :=
  match caseRanges.find? (·.covers c.toNat) with
  | some r => [Char.ofNat (r.image c.toNat)]
  | none =>
    match caseExpansions.find? (·.1 == c.toNat) with
    | some e => e.2.map Char.ofNat
    | none => [c]

/-- The upper case of a text. -/
def Text.upper (t : Text) : Text :=
  t.flatMap upperChar

@[simp] theorem Text.upper_nil : Text.upper [] = [] := rfl

@[simp] theorem Text.upper_cons (c : Char) (t : Text) :
    Text.upper (c :: t) = upperChar c ++ Text.upper t := by
  simp [Text.upper]

end AsmFormat
