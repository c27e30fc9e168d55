import AsmFormat.Pass
import AsmFormat.Text.Utf8

/-!
# Source files

A source file is held as a list of lines. The line end is taken from the first line feed, and
whether the last line has one is remembered, so that a file whose line ends agree is written back
as it was.

- `Source.ofText` splits a text at its line feeds, dropping one carriage return before each.
- `Source.apply` replaces lines; an edit past the end does nothing.
- `Source.written` is the text of the file, and `Source.pieces` the pieces in which it is written.
-/

set_option autoImplicit false

namespace AsmFormat

/-- How the lines of a file end. -/
inductive LineEnd where
  | lineFeed
  | returnLineFeed
deriving DecidableEq

/-- The characters of a line end. -/
def LineEnd.text : LineEnd → Text
  | lineFeed => ['\n']
  | returnLineFeed => ['\r', '\n']

/-- A file as a list of lines. -/
structure Source where
  lines : List Text
  lineEnd : LineEnd
  /-- Whether the last line has a line end. -/
  finalEnd : Bool
deriving DecidableEq

namespace Source

/-- Whether the text ends in a carriage return. -/
def endsInReturn (t : Text) : Bool :=
  t.getLast? = some '\r'

/-- The text without a carriage return at its end. -/
def dropReturn (t : Text) : Text :=
  if endsInReturn t then t.dropLast else t

/-- The file with the given text. -/
def ofText (body : Text) : Source :=
  let pieces := body.splitOn '\n'
  let terminated := pieces.dropLast
  let rest := pieces.getLastD []
  { lines := terminated.map dropReturn ++ (if rest.isEmpty then [] else [rest])
    lineEnd :=
      match terminated with
      | [] => .lineFeed
      | first :: _ => if endsInReturn first then .returnLineFeed else .lineFeed
    finalEnd := rest.isEmpty && !body.isEmpty }

/-- The file with the lines replaced that the edits name. -/
def apply (f : Source) (edits : List Edit) : Source :=
  let lines := edits.foldl (fun lines e => lines.setIfInBounds e.line e.replacement) f.lines.toArray
  { f with lines := lines.toList }

/-- Lines and line ends in the order in which they are written. -/
def pieces (f : Source) : List Text :=
  let all := f.lines.flatMap fun line => [line, f.lineEnd.text]
  if f.finalEnd then all else all.dropLast

/-- The text of the file. -/
def written (f : Source) : Text :=
  f.pieces.flatten

/-- Edits are applied in order, each to the line that it names. -/
theorem lines_apply (f : Source) (edits : List Edit) :
    (f.apply edits).lines =
      edits.foldl (fun lines e => lines.set e.line e.replacement) f.lines := by
  have h : ∀ (edits : List Edit) (a : Array Text),
      (edits.foldl (fun lines e => lines.setIfInBounds e.line e.replacement) a).toList =
        edits.foldl (fun lines e => lines.set e.line e.replacement) a.toList := by
    intro edits
    induction edits with
    | nil => intro a; rfl
    | cons e rest ih => intro a; simp [ih]
  simpa [apply] using h edits f.lines.toArray

@[simp] theorem lineEnd_apply (f : Source) (edits : List Edit) :
    (f.apply edits).lineEnd = f.lineEnd := rfl

@[simp] theorem finalEnd_apply (f : Source) (edits : List Edit) :
    (f.apply edits).finalEnd = f.finalEnd := rfl

end Source

end AsmFormat
