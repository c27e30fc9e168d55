import AsmFormat.Line.Basic
import AsmFormat.Vocabulary

/-!
# Reading a line

A line whose first character that is not blank is `*` or `;` is a comment as a whole. In any other
line the first `;` opens the comment. The words before it are the label, the instruction and the
operands: an indented line has no label, and neither has one whose first word is in the
vocabulary.

`Line.ofText` reads every text. What it does not understand ends up in some field as it stands.
-/

set_option autoImplicit false

namespace AsmFormat.Line

/-- Whether a text without outer blanks is a comment as a whole. -/
def opensComment (t : Text) : Bool :=
  t.head? = some '*' || t.head? = some ';'

/-- The part of a line before its first `;`. -/
def codePart (raw : Text) : Text :=
  raw.takeWhile (· != ';')

/-- The part of a line from its first `;`. -/
def commentPart (raw : Text) : Text :=
  raw.dropWhile (· != ';')

/-- The fields of the words of the code: a label, if the first word may be one, then the
instruction, then the operands with one space between them. A label may stand alone. -/
def ofWords (indented : Bool) (comment : Text) : List Text → Line
  | [] => { comment, indented }
  | first :: rest =>
    if indented || (classify first).isKnown then
      { instruction := first, operands := Text.joinWords rest, comment, indented }
    else
      match rest with
      | [] => { label := first, comment, indented }
      | second :: rest =>
        { label := first, instruction := second, operands := Text.joinWords rest, comment,
          indented }

/-- The fields of a line. -/
def ofText (raw : Text) : Line :=
  let indented := Text.startsBlank raw
  let stripped := Text.trim raw
  if opensComment stripped then
    { comment := stripped, indented }
  else
    ofWords indented (Text.trim (commentPart raw)) (Text.words (codePart raw))

end AsmFormat.Line
