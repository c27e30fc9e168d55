import AsmFormat.Text.Blank

/-!
# Words of a text

A word is a longest run of characters that are not blank. `Text.words` reads the words of
a text from left to right and `Text.joinWords` writes words with one space between neighbours.
-/

set_option autoImplicit false

namespace AsmFormat.Text

/-- The words of a text, in order: the pieces between its blanks that are not empty. -/
def words (t : Text) : List Text :=
  (t.splitOnP isBlank).filter (fun w => !w.isEmpty)

/-- The words with one space between neighbours. -/
def joinWords (ws : List Text) : Text :=
  [' '].intercalate ws

@[simp] theorem words_nil : words [] = [] := rfl

@[simp] theorem joinWords_nil : joinWords [] = [] := rfl

end AsmFormat.Text
