import AsmFormat.Text.Words

/-!
# The fields of a line

A line of assembly source has up to four fields: a label in the first column, an instruction, its
operands, and a comment. `Line` holds them, together with whether the line was indented, since a
comment that stood in the first column stays there.
-/

set_option autoImplicit false

namespace AsmFormat

/-- The fields of one line. -/
structure Line where
  label : Text := []
  instruction : Text := []
  operands : Text := []
  comment : Text := []
  /-- Whether the line opened with a blank. -/
  indented : Bool := false
deriving DecidableEq

namespace Line

/-- Whether there is nothing before the comment. -/
def hasNoCode (l : Line) : Bool :=
  l.label.isEmpty && l.instruction.isEmpty && l.operands.isEmpty

/-- Whether the line is a comment and nothing else. -/
def isWholeComment (l : Line) : Bool :=
  !l.comment.isEmpty && l.hasNoCode

/-- Whether every field is empty. -/
def isBlank (l : Line) : Bool :=
  l.comment.isEmpty && l.hasNoCode

end Line

end AsmFormat
