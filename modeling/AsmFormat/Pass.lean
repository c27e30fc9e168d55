import AsmFormat.Line.Layout
import AsmFormat.LineRange
import AsmFormat.Trace.Event

/-!
# Formatting passes

A pass lays out the lines of a range one after the other. Each line is laid out on its own, so the
result is a list of edits, one for each line that changes. Before each line the pass asks whether it
shall stop; `cancel n` is the answer to the poll that follows `n` others.

`formatRange` is a pass over a range of a document and `formatDocument` one over all of it.
-/

set_option autoImplicit false

namespace AsmFormat

/-- The replacement of one line, by its index. -/
structure Edit where
  line : Nat
  replacement : Text
deriving DecidableEq

/-- What a pass found. -/
structure Pass where
  /-- The edits, by rising line. -/
  edits : List Edit
  /-- How often the pass asked whether to stop. -/
  polls : Nat
  /-- The line before which it was told to stop. -/
  stoppedBefore : Option Nat
deriving DecidableEq

/-- The edit that lays out a line, if its layout differs from it. -/
def editOf? (s : Settings) (index : Nat) (line : Text) : Option Edit :=
  let replacement := formatLine s line
  if replacement = line then none else some ⟨index, replacement⟩

/-- The answers of a caller that never stops a pass. -/
def neverCancelled : Nat → Bool := fun _ => false

namespace Pass

/-- The pass over the remaining lines, the first of which has the given index, after the edits
`found`, held in reverse, and a number of polls. -/
def scan (s : Settings) (cancel : Nat → Bool) (found : List Edit) (index polls : Nat) :
    List Text → Pass
  | [] => ⟨found.reverse, polls, none⟩
  | line :: rest =>
    if cancel polls then
      ⟨found.reverse, polls + 1, some index⟩
    else
      match editOf? s index line with
      | none => scan s cancel found (index + 1) (polls + 1) rest
      | some edit => scan s cancel (edit :: found) (index + 1) (polls + 1) rest

end Pass

/-- The pass over a range of lines. A range that starts after the document, or ends before it
starts, holds no line. -/
def formatRange (s : Settings) (lines : List Text) (range : LineRange)
    (cancel : Nat → Bool) : Pass :=
  Pass.scan s cancel [] range.first.toNat 0 (range.window lines)

/-- The pass over all lines of a document. -/
def formatDocument (s : Settings) (lines : List Text) (cancel : Nat → Bool) : Pass :=
  formatRange s lines LineRange.whole cancel

/-- What the trace shows of a pass over a range: each edit, and the stop if there was one. -/
def Pass.events (range : LineRange) (lineCount : Nat) (p : Pass) : List Event :=
  let last := min range.last.toNat (lineCount - 1)
  let span : Span := {
    level := .debug
    target := "formatter::driver"
    name := "format"
    fields := [("first", .number range.first.toNat), ("last", .number last)] }
  let event (level : Level) (message : Text) : Event :=
    { level, target := "formatter::driver", spans := [span], message }
  let changes := p.edits.map fun e =>
    event .debug ("line ".toList ++ Nat.toDigits 10 (e.line + 1) ++ " changes to ".toList ++
      Text.quoted e.replacement)
  let stop := p.stoppedBefore.toList.map fun index =>
    event .info ("formatting cancelled before line ".toList ++ Nat.toDigits 10 (index + 1) ++
      "; keeping ".toList ++ Nat.toDigits 10 p.edits.length ++ " edits".toList)
  changes ++ stop

end AsmFormat
