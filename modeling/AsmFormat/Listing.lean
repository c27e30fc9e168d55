import AsmFormat.Source

/-!
# Listings of edits

A listing shows each edit in three lines: the file and the line number, the old line, and the new
line. An edit past the end of the file shows an empty old line.
-/

set_option autoImplicit false

namespace AsmFormat

/-- The three lines that show an edit. -/
def Edit.listing (filename old : Text) (e : Edit) : List Text := [
  filename ++ ':' :: Nat.toDigits 10 (e.line + 1) ++ ['\n'],
  "  - ".toList ++ old ++ ['\n'],
  "  + ".toList ++ e.replacement ++ ['\n']]

/-- The lines of the listing of some edits. -/
def Source.listing (f : Source) (filename : Text) (edits : List Edit) : List Text :=
  let lines := f.lines.toArray
  edits.flatMap fun e => e.listing filename (lines[e.line]?.getD [])

/-- The old line of an edit is the line of the file that it names. -/
theorem Source.listing_eq (f : Source) (filename : Text) (edits : List Edit) :
    f.listing filename edits =
      edits.flatMap fun e => e.listing filename (f.lines[e.line]?.getD []) := by
  simp [Source.listing]

end AsmFormat
