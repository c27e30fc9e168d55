import AsmFormat.Line.Reader
import AsmFormat.Settings.Basic

/-!
# The layout of a line

`Line.render` writes the fields of a line into their columns. A label stands in column zero and
the instruction in its column, or after one space when the label is too long. The operands follow
the instruction after one space. A comment starts in its column, or after two spaces when the
code reaches that far. `formatLine` reads a line and writes it again.
-/

set_option autoImplicit false

namespace AsmFormat

namespace Text

/-- The text with spaces at its end, so that it is at least `width` long. -/
def padTo (width : Nat) (t : Text) : Text :=
  t ++ List.replicate (width - t.length) ' '

/-- The spacing of commas, where `afterComma` tells that the character before was a comma or a
space that followed one. -/
def spaceCommasFrom (afterComma : Bool) : Text → Text
  | [] => []
  | c :: rest =>
    if afterComma && c = ' ' then spaceCommasFrom true rest
    else if c = ',' then ',' :: ' ' :: spaceCommasFrom true rest
    else c :: spaceCommasFrom false rest

/-- The text with each comma and the spaces after it replaced by a comma and one space. Commas
in quoted strings are no exception. -/
def spaceCommas (t : Text) : Text :=
  spaceCommasFrom false t

end Text

/-- Whether the settings ask for upper case in a token of the class. -/
def Settings.uppercases (s : Settings) (c : TokenClass) : Bool :=
  match c with
  | .instruction => s.uppercaseInstructions
  | .directive => s.uppercaseDirectives
  | .dotDirective => s.uppercaseDirectives
  | .unknown => false

/-- The spelling of the instruction field. -/
def Settings.spell (s : Settings) (instruction : Text) : Text :=
  if s.uppercases (classify instruction) then instruction.upper else instruction

/-- The spelling of the operands. -/
def Settings.spaced (s : Settings) (operands : Text) : Text :=
  if s.spaceAfterComma then operands.spaceCommas else operands

namespace Line

/-- The label field, up to where the instruction starts. -/
def labelField (s : Settings) (label : Text) : Text :=
  if !label.isEmpty && s.instructionColumn.toNat ≤ label.length then
    label ++ [' ']
  else
    label.padTo s.instructionColumn.toNat

/-- The code so far with the operands after one space. -/
def addOperands (s : Settings) (operands code : Text) : Text :=
  if operands.isEmpty then code else code.trimEnd ++ ' ' :: s.spaced operands

/-- The code with the comment in its column, or after two spaces. -/
def addComment (s : Settings) (comment code : Text) : Text :=
  if comment.isEmpty then code
  else
    let code := code.trimEnd
    if code.length < s.commentColumn.toNat then
      code.padTo s.commentColumn.toNat ++ comment
    else
      code ++ [' ', ' '] ++ comment

/-- The text of the label, the instruction and the operands. -/
def renderCode (s : Settings) (l : Line) : Text :=
  addOperands s l.operands (labelField s l.label ++ s.spell l.instruction)

/-- The text of a line with each field in its column. A text may be of any length here. Left out is
the room that is set aside, before code is laid out, for a line that reaches to the comment column:
where there is no such room, as for the greatest columns, the program stops. -/
def render (s : Settings) (l : Line) : Text :=
  if l.isBlank then []
  else if l.isWholeComment then
    if l.indented then Text.padTo s.commentColumn.toNat [] ++ l.comment else l.comment
  else
    (addComment s l.comment (renderCode s l)).trimEnd

end Line

/-- A line read and laid out again. -/
def formatLine (s : Settings) (raw : Text) : Text :=
  (Line.ofText raw).render s

end AsmFormat
