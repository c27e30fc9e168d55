import AsmFormat.Proofs.Document.Edits
import AsmFormat.Proofs.Document.Rows
import AsmFormat.Proofs.Line.NormalForm
import AsmFormat.Proofs.Line.Stability

/-!
# Formatted files

A file is formatted, written, and read again. Formatted lines do not end in a carriage return and
hold no line feed, so they are read as they were written (`getElem?_lines_of_reread`), whatever the
line ends of the file.

A file that some edit changes is never written as it was (`written_formatted_ne`). A second pass
over the same range finds no edits (`edits_reread_eq_nil`), unless the instruction column is zero.
-/

set_option autoImplicit false

namespace AsmFormat

namespace Source

variable {s : Settings} {r : LineRange}

/-- The edits that a pass over a range of a file finds. -/
def edits (s : Settings) (r : LineRange) (f : Source) : List Edit :=
  (formatRange s f.lines r neverCancelled).edits

/-- The file with the lines of a range formatted. -/
def formatted (s : Settings) (r : LineRange) (f : Source) : Source :=
  f.apply (f.edits s r)

/-- A carriage return is a blank, and a formatted line ends in none. -/
theorem endsInReturn_formatLine (s : Settings) (raw : Text) :
    endsInReturn (formatLine s raw) = false := by
  rw [endsInReturn, decide_eq_false_iff_not]
  intro hlast
  have hblank := isBlank_of_getLast?_formatLine hlast
  exact absurd hblank (by decide)

theorem getElem?_lines_formatted (s : Settings) (r : LineRange) (f : Source) (i : Nat) :
    (f.formatted s r).lines[i]? =
      f.lines[i]?.map fun line => if r.Holds i then formatLine s line else line := by
  rw [formatted, edits, lines_apply_formatRange, List.getElem?_mapIdx]

theorem length_lines_formatted (s : Settings) (r : LineRange) (f : Source) :
    (f.formatted s r).lines.length = f.lines.length := by
  rw [formatted, edits, lines_apply_formatRange, List.length_mapIdx]

theorem length_ended_formatted (s : Settings) (r : LineRange) (f : Source) :
    (f.formatted s r).ended.length = f.ended.length := by
  have hfinal : (f.formatted s r).finalEnd = f.finalEnd := rfl
  rw [ended, ended, hfinal]
  split
  · exact length_lines_formatted s r f
  · rw [List.length_dropLast, List.length_dropLast, length_lines_formatted]

theorem getElem?_ended_formatted (s : Settings) (r : LineRange) (f : Source) (i : Nat) :
    (f.formatted s r).ended[i]? =
      f.ended[i]?.map fun line => if r.Holds i then formatLine s line else line := by
  have hfinal : (f.formatted s r).finalEnd = f.finalEnd := rfl
  rw [ended, ended, hfinal]
  split
  · exact getElem?_lines_formatted s r f i
  · rw [List.getElem?_dropLast, List.getElem?_dropLast, length_lines_formatted,
      getElem?_lines_formatted]
    split
    · rfl
    · rfl

/-- What stands behind the last line end is formatted like any line. -/
theorem rest_formatted (s : Settings) (r : LineRange) (f : Source) :
    (f.formatted s r).rest = if r.Holds f.ended.length then formatLine s f.rest else f.rest := by
  have hfinal : (f.formatted s r).finalEnd = f.finalEnd := rfl
  rw [rest, rest, ended, hfinal]
  split
  · rw [formatLine_nil, ite_self]
  · rw [List.getLastD_eq_getLast?, List.getLastD_eq_getLast?, List.getLast?_eq_getElem?,
      List.getLast?_eq_getElem?, length_lines_formatted, getElem?_lines_formatted,
      List.length_dropLast]
    cases f.lines[f.lines.length - 1]? with
    | none =>
      rw [Option.map_none, Option.getD_none, formatLine_nil, ite_self]
    | some line => rfl

/-- No line of a formatted file is two. -/
theorem lineFeed_not_mem_lines_formatted {body : Text} :
    ∀ line ∈ ((ofText body).formatted s r).lines, '\n' ∉ line := by
  intro line hline
  obtain ⟨i, hi⟩ := List.mem_iff_getElem?.1 hline
  rw [getElem?_lines_formatted, Option.map_eq_some_iff] at hi
  obtain ⟨raw, hraw, rfl⟩ := hi
  have hone : '\n' ∉ raw := lineFeed_not_mem_of_mem_lines_ofText (List.mem_of_getElem? hraw)
  split
  · exact lineFeed_not_mem_formatLine s hone
  · exact hone

/-- In the range, the file that is read again has formatted lines of the file before. -/
theorem getElem?_lines_of_reread {body : Text} {i : Nat} {x : Text} (hi : r.Holds i)
    (hx : (ofText ((ofText body).formatted s r).written).lines[i]? = some x) :
    ∃ raw, (ofText body).lines[i]? = some raw ∧ x = formatLine s raw := by
  obtain ⟨y, hy, hsame⟩ := exists_getElem?_of_ofText_written lineFeed_not_mem_lines_formatted hx
  rw [getElem?_lines_formatted, Option.map_eq_some_iff] at hy
  obtain ⟨raw, hraw, rfl⟩ := hy
  rw [if_pos hi] at hsame
  exact ⟨raw, hraw, hsame (endsInReturn_formatLine s raw)⟩

/-- A file with an edit is not written as it was. A change of line ends cannot make up for an
edit. -/
theorem written_formatted_ne {body : Text} (h : (ofText body).edits s r ≠ []) :
    ((ofText body).formatted s r).written ≠ body := by
  intro hsame
  obtain ⟨e, rest, he⟩ := List.exists_cons_of_ne_nil h
  have hmem : e ∈ (ofText body).edits s r := by
    rw [he]
    exact List.mem_cons_self
  obtain ⟨hholds, line, hline, -, hchange⟩ := mem_edits_iff.1 hmem
  -- read again, the edited line is both what it was and formatted
  have hreread : (ofText ((ofText body).formatted s r).written).lines[e.line]? = some line := by
    rw [hsame]
    exact hline
  obtain ⟨raw, hraw, hformatted⟩ := getElem?_lines_of_reread hholds hreread
  obtain rfl : raw = line := Option.some.inj (hraw.symm.trans hline)
  exact hchange hformatted.symm

/-- A second pass over the same range finds no edits. -/
theorem edits_reread_eq_nil (hcolumn : 1 ≤ s.instructionColumn) (body : Text) (r : LineRange) :
    (ofText ((ofText body).formatted s r).written).edits s r = [] := by
  have hne : s.instructionColumn ≠ 0 := by
    intro hzero
    rw [hzero] at hcolumn
    exact absurd hcolumn (by decide)
  rw [List.eq_nil_iff_forall_not_mem]
  intro e he
  obtain ⟨hholds, line, hline, -, hchange⟩ := mem_edits_iff.1 he
  obtain ⟨raw, -, rfl⟩ := getElem?_lines_of_reread hholds hline
  exact hchange (formatLine_formatLine fun h => hne h.1)

/-- Where the range holds every line, the formatted file is written again as it was. -/
theorem written_reread_eq {body : Text} (hr : ∀ i < (ofText body).lines.length, r.Holds i) :
    (ofText ((ofText body).formatted s r).written).written =
      ((ofText body).formatted s r).written := by
  refine written_ofText_written lineFeed_not_mem_lines_formatted ?_
  intro line hline
  obtain ⟨i, hi⟩ := List.mem_iff_getElem?.1 hline
  rw [getElem?_lines_formatted, Option.map_eq_some_iff] at hi
  obtain ⟨raw, hraw, rfl⟩ := hi
  rw [if_pos (hr i (List.getElem?_eq_some_iff.1 hraw).1)]
  exact endsInReturn_formatLine s raw

end Source

end AsmFormat
