/-!
# Texts and their blanks

A text is a list of Unicode characters, so a length or a column counts characters.

## What this module delivers

- `isBlank`: the characters with the Unicode property `White_Space`. The escape
  controls U+001C to U+001F and the zero-width characters are not among them.
- `Text.trimStart`, `Text.trimEnd`, `Text.trim`: a text without its outer blanks.
- `Text.startsBlank`: whether a text opens with a blank.
-/

set_option autoImplicit false

namespace AsmFormat

/-- Text as a list of Unicode characters. -/
abbrev Text := List Char

/-- The Unicode property `White_Space`: twenty-five characters. -/
def isBlank (c : Char) : Bool :=
  let n := c.toNat
  (0x09 ≤ n && n ≤ 0x0D) || n == 0x20 || n == 0x85 || n == 0xA0 || n == 0x1680 ||
    (0x2000 ≤ n && n ≤ 0x200A) || n == 0x2028 || n == 0x2029 || n == 0x202F ||
    n == 0x205F || n == 0x3000

namespace Text

/-- The text from its first character that is not blank. -/
def trimStart (t : Text) : Text :=
  t.dropWhile isBlank

/-- The text up to its last character that is not blank. -/
def trimEnd (t : Text) : Text :=
  t.foldr (fun c kept => if kept.isEmpty && isBlank c then [] else c :: kept) []

/-- The text between its first and its last character that is not blank. -/
def trim (t : Text) : Text :=
  trimEnd (trimStart t)

/-- Whether the text opens with a blank. -/
def startsBlank (t : Text) : Bool :=
  match t with
  | [] => false
  | c :: _ => isBlank c

@[simp] theorem trimEnd_nil : trimEnd [] = [] := rfl

/-- A character is dropped from the end exactly when it is blank and nothing after it is kept. -/
theorem trimEnd_cons (c : Char) (t : Text) :
    trimEnd (c :: t) = if (trimEnd t).isEmpty && isBlank c then [] else c :: trimEnd t := rfl

end Text

end AsmFormat
