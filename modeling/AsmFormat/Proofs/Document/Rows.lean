import AsmFormat.Proofs.Text.Words
import AsmFormat.Source

/-!
# The rows of a source file

The rows of a text are the pieces between its line feeds. All of them but the last have a line end,
and the last is what stands behind the last line end. `Source.ended` and `Source.rest` are the two
parts for a source file. A file is written as its rows (`written_eq_intercalate`), and reading a
text drops one carriage return from each row with a line end and keeps the last row as it is
(`ended_ofText`, `rest_ofText`).

What was written is read line by line from its rows (`lines_ofText_written`), so every line that is
read again and does not end in a carriage return is as it was (`exists_getElem?_of_ofText_written`).
If no line ends in one, writing it again gives the same text (`written_ofText_written`).
-/

set_option autoImplicit false

namespace AsmFormat

/-- What a line end has in front of its line feed. -/
def LineEnd.lead : LineEnd → Text
  | lineFeed => []
  | returnLineFeed => ['\r']

namespace LineEnd

theorem text_eq (e : LineEnd) : e.text = e.lead ++ ['\n'] := by
  cases e with
  | lineFeed => rfl
  | returnLineFeed => rfl

theorem lineFeed_not_mem_lead (e : LineEnd) : '\n' ∉ e.lead := by
  cases e with
  | lineFeed => exact List.not_mem_nil
  | returnLineFeed => decide

end LineEnd

namespace Source

variable {f : Source}

/-! ## Carriage returns -/

theorem dropReturn_subset {t : Text} : dropReturn t ⊆ t := by
  rw [dropReturn]
  split
  · exact (List.dropLast_sublist t).subset
  · exact List.Subset.refl t

/-- Dropping a carriage return undoes a line end, unless the line ends in one itself. -/
theorem dropReturn_append_lead {t : Text} (ht : endsInReturn t = false) (e : LineEnd) :
    dropReturn (t ++ e.lead) = t := by
  cases e with
  | lineFeed => simp [LineEnd.lead, dropReturn, ht]
  | returnLineFeed => simp [LineEnd.lead, dropReturn, endsInReturn]

theorem endsInReturn_append_lead {t : Text} (ht : endsInReturn t = false) (e : LineEnd) :
    (if endsInReturn (t ++ e.lead) then LineEnd.returnLineFeed else .lineFeed) = e := by
  cases e with
  | lineFeed => simp [LineEnd.lead, ht]
  | returnLineFeed => simp [LineEnd.lead, endsInReturn]

/-! ## Writing -/

/-- The lines that are written with a line end. -/
def ended (f : Source) : List Text :=
  if f.finalEnd then f.lines else f.lines.dropLast

/-- What is written behind the last line end. -/
def rest (f : Source) : Text :=
  if f.finalEnd then [] else f.lines.getLastD []

/-- The rows of a file: its lines as they are written. -/
def rows (f : Source) : List Text :=
  f.ended.map (· ++ f.lineEnd.lead) ++ [f.rest]

theorem ended_prefix (f : Source) : f.ended <+: f.lines := by
  rw [ended]
  split
  · exact List.prefix_rfl
  · exact List.dropLast_prefix f.lines

theorem lines_eq_of_rest_ne_nil (h : f.rest ≠ []) : f.lines = f.ended ++ [f.rest] := by
  rw [rest] at h ⊢
  rw [ended]
  split at h
  · exact absurd rfl h
  · next hend =>
    rw [if_neg hend, if_neg hend]
    rcases List.eq_nil_or_concat f.lines with hnil | ⟨xs, u, hlines⟩
    · rw [hnil] at h
      exact absurd rfl h
    · simp [hlines]

/-- Rows with line feeds between them. -/
theorem intercalate_rows (xs : List Text) (lead u : Text) :
    ['\n'].intercalate (xs.map (· ++ lead) ++ [u]) =
      (xs.flatMap fun x => x ++ (lead ++ ['\n'])) ++ u := by
  induction xs with
  | nil => simp
  | cons x xs ih =>
    have hne : xs.map (· ++ lead) ++ [u] ≠ [] := by simp
    rw [List.map_cons, List.cons_append, List.intercalate_cons_of_ne_nil hne, ih]
    simp

/-- A file is written as its rows with line feeds between them. -/
theorem written_eq_intercalate (f : Source) : f.written = ['\n'].intercalate f.rows := by
  have hflat : ∀ xs : List Text, (xs.flatMap fun line => [line, f.lineEnd.text]).flatten =
      xs.flatMap fun x => x ++ (f.lineEnd.lead ++ ['\n']) := by
    intro xs
    rw [LineEnd.text_eq]
    induction xs with
    | nil => rfl
    | cons x xs ih => simp [ih]
  rw [rows, intercalate_rows, written, pieces, ended, rest]
  split
  · rw [hflat, List.append_nil]
  · rcases List.eq_nil_or_concat f.lines with hnil | ⟨xs, u, hlines⟩
    · simp [hnil]
    · -- the line end behind the last line is not written
      have hall : (f.lines.flatMap fun line => [line, f.lineEnd.text]).dropLast =
          (xs.flatMap fun line => [line, f.lineEnd.text]) ++ [u] := by
        simp [hlines]
      have hinit : f.lines.dropLast = xs := by simp [hlines]
      have hlast : f.lines.getLastD [] = u := by simp [hlines]
      rw [hall, hinit, hlast, List.flatten_append, hflat]
      simp

/-- The rows are found again in what was written, if no line is two. -/
theorem splitOn_written (h : ∀ line ∈ f.lines, '\n' ∉ line) : f.written.splitOn '\n' = f.rows := by
  have hrow : ∀ row ∈ f.rows, '\n' ∉ row := by
    intro row hmem
    rw [rows, List.mem_append, List.mem_singleton] at hmem
    rcases hmem with hmem | rfl
    · obtain ⟨line, hline, rfl⟩ := List.mem_map.1 hmem
      rw [List.mem_append, not_or]
      exact ⟨h line (f.ended_prefix.subset hline), f.lineEnd.lineFeed_not_mem_lead⟩
    · by_cases hrest : f.rest = []
      · rw [hrest]
        exact List.not_mem_nil
      · apply h
        rw [lines_eq_of_rest_ne_nil hrest]
        exact List.mem_append_right _ List.mem_cons_self
  rw [written_eq_intercalate, List.splitOn_intercalate '\n' hrow (by simp [rows])]

/-! ## Reading -/

section Reading

variable {body : Text} {xs : List Text} {u : Text}

theorem exists_splitOn_eq (body : Text) : ∃ xs u, body.splitOn '\n' = xs ++ [u] := by
  rcases List.eq_nil_or_concat (body.splitOn '\n') with hnil | ⟨xs, u, h⟩
  · exact absurd hnil (List.splitOn_ne_nil '\n' body)
  · exact ⟨xs, u, by rw [h, List.concat_eq_append]⟩

theorem lines_ofText (h : body.splitOn '\n' = xs ++ [u]) :
    (ofText body).lines = xs.map dropReturn ++ (if u.isEmpty then [] else [u]) := by
  simp [ofText, h]

/-- The line end is told by the first row that has one. -/
theorem lineEnd_ofText (h : body.splitOn '\n' = xs ++ [u]) :
    (ofText body).lineEnd =
      if xs.head?.any endsInReturn then .returnLineFeed else .lineFeed := by
  cases xs with
  | nil => simp [ofText, h]
  | cons x xs =>
    simp only [ofText, h, List.dropLast_concat]
    rfl

/-- The last line has a line end exactly if there is a line end and nothing behind the last one. -/
theorem finalEnd_ofText (h : body.splitOn '\n' = xs ++ [u]) :
    (ofText body).finalEnd = (u.isEmpty && !xs.isEmpty) := by
  have hbody : ['\n'].intercalate (body.splitOn '\n') = body := List.intercalate_splitOn '\n'
  rw [h] at hbody
  have hempty : u = [] → body.isEmpty = xs.isEmpty := by
    rintro rfl
    cases xs with
    | nil =>
      rw [← hbody]
      rfl
    | cons x xs =>
      rw [← hbody, List.cons_append, List.intercalate_cons_of_ne_nil (by simp)]
      simp
  cases u with
  | nil => simp [ofText, h, hempty rfl]
  | cons c u => simp [ofText, h]

/-- Each row with a line end loses one carriage return. -/
theorem ended_ofText (h : body.splitOn '\n' = xs ++ [u]) :
    (ofText body).ended = xs.map dropReturn := by
  rw [ended, finalEnd_ofText h, lines_ofText h]
  cases u with
  | nil => cases xs <;> simp
  | cons c u => simp

/-- The last row stays as it is. -/
theorem rest_ofText (h : body.splitOn '\n' = xs ++ [u]) : (ofText body).rest = u := by
  rw [rest, finalEnd_ofText h, lines_ofText h]
  cases u with
  | nil => cases xs <;> simp
  | cons c u => simp

/-- No line of a file that was read is two. -/
theorem lineFeed_not_mem_of_mem_lines_ofText {line : Text} (hline : line ∈ (ofText body).lines) :
    '\n' ∉ line := by
  obtain ⟨xs, u, h⟩ := exists_splitOn_eq body
  have hrow : ∀ row ∈ xs ++ [u], '\n' ∉ row := by
    intro row hrow
    rw [← h] at hrow
    exact Text.not_mem_of_mem_splitOn hrow
  rw [lines_ofText h, List.mem_append] at hline
  rcases hline with hline | hline
  · obtain ⟨row, hmem, rfl⟩ := List.mem_map.1 hline
    exact fun hlf => hrow row (List.mem_append_left _ hmem) (dropReturn_subset hlf)
  · split at hline
    · exact absurd hline List.not_mem_nil
    · exact hrow line (List.mem_append_right xs hline)

end Reading

/-! ## Reading what was written -/

/-- Each line with a line end is read back from its row, and what stands behind the last line end is
a line if there is anything. -/
theorem lines_ofText_written (hlf : ∀ line ∈ f.lines, '\n' ∉ line) :
    (ofText f.written).lines = (f.ended.map fun line => dropReturn (line ++ f.lineEnd.lead)) ++
      (if f.rest.isEmpty then [] else [f.rest]) := by
  have hrows : f.written.splitOn '\n' = f.ended.map (· ++ f.lineEnd.lead) ++ [f.rest] :=
    splitOn_written hlf
  rw [lines_ofText hrows, List.map_map]
  rfl

/-- The lines that are read again are lines of the file, in their places. A line that does not end
in a carriage return is read as it is. -/
theorem exists_getElem?_of_ofText_written (hlf : ∀ line ∈ f.lines, '\n' ∉ line) {i : Nat}
    {x : Text} (hx : (ofText f.written).lines[i]? = some x) :
    ∃ y, f.lines[i]? = some y ∧ (endsInReturn y = false → x = y) := by
  rw [lines_ofText_written hlf, List.getElem?_append] at hx
  split at hx
  · -- a line with a line end
    rw [List.getElem?_map, Option.map_eq_some_iff] at hx
    obtain ⟨y, hy, rfl⟩ := hx
    obtain ⟨tail, htail⟩ := f.ended_prefix
    refine ⟨y, ?_, fun hreturn => dropReturn_append_lead hreturn f.lineEnd⟩
    rw [← htail, List.getElem?_append_left (List.getElem?_eq_some_iff.1 hy).1]
    exact hy
  · next hlength =>
    -- the line behind the last line end
    split at hx
    · exact absurd hx (by simp)
    · next hrest =>
      have hne : f.rest ≠ [] := by simpa using hrest
      obtain ⟨hzero, hsame⟩ := List.getElem?_eq_some_iff.1 hx
      simp only [List.length_map, List.length_singleton, List.getElem_singleton] at hlength hzero hsame
      have hi : i = f.ended.length := by omega
      refine ⟨x, ?_, fun _ => rfl⟩
      rw [lines_eq_of_rest_ne_nil hne, hi, hsame]
      simp

/-- If no line ends in a carriage return, writing what was read again gives the same text. -/
theorem written_ofText_written (hlf : ∀ line ∈ f.lines, '\n' ∉ line)
    (hreturn : ∀ line ∈ f.lines, endsInReturn line = false) :
    (ofText f.written).written = f.written := by
  have hrows : f.written.splitOn '\n' = f.ended.map (· ++ f.lineEnd.lead) ++ [f.rest] :=
    splitOn_written hlf
  have hended : ∀ line ∈ f.ended, endsInReturn line = false :=
    fun line hmem => hreturn line (f.ended_prefix.subset hmem)
  have hlines : (ofText f.written).ended = f.ended := by
    have hmap : ∀ line ∈ f.ended, dropReturn (line ++ f.lineEnd.lead) = line :=
      fun line hmem => dropReturn_append_lead (hended line hmem) f.lineEnd
    rw [ended_ofText hrows, List.map_map]
    exact (List.map_congr_left hmap).trans (List.map_id f.ended)
  have hend : f.ended ≠ [] → (ofText f.written).lineEnd = f.lineEnd := by
    intro hne
    obtain ⟨line, lines, hcons⟩ := List.exists_cons_of_ne_nil hne
    have hfirst := hended line (by simp [hcons])
    rw [lineEnd_ofText hrows, hcons, List.map_cons, List.head?_cons, Option.any_some,
      endsInReturn_append_lead hfirst]
  have hsame : (ofText f.written).rows = f.rows := by
    rw [rows, rows, hlines, rest_ofText hrows]
    -- without a line end there is nothing to tell its kind by, and nothing to write
    by_cases hnil : f.ended = []
    · rw [hnil]
      rfl
    · rw [hend hnil]
  rw [written_eq_intercalate, hsame, ← written_eq_intercalate]

end Source

end AsmFormat
