import AsmFormat.Proofs.Document.Settled

/-!
# Lines and what ends them

`Text.rawLines` cuts a text into lines, each with the characters that end it. Nothing is lost on the
way (`flatMap_written_rawLines`), whatever mixture of line ends the text has. A source file keeps the
same lines (`lines_ofText_eq_map_rawLines`), but one kind of line end for all of them, that of the
first.

Main statement: a file is written as it was read exactly if its line feeds agree, which is that a
carriage return stands in front of all of them or of none. In such a file edits replace the
characters of the edited lines and nothing else (`written_ofText_faithful`).
-/

set_option autoImplicit false

namespace AsmFormat

/-- A line of a text and the characters that end it. -/
structure RawLine where
  text : Text
  /-- Empty for a last line without line end. -/
  ending : Text
deriving DecidableEq

namespace RawLine

/-- The line as it stands in the text. -/
def written (l : RawLine) : Text :=
  l.text ++ l.ending

/-- The lines with one more character in front of them. -/
def prepend (c : Char) : List RawLine → List RawLine
  | [] => [⟨[c], []⟩]
  | first :: others => ⟨c :: first.text, first.ending⟩ :: others

theorem flatMap_written_prepend (c : Char) (ls : List RawLine) :
    (prepend c ls).flatMap written = c :: ls.flatMap written := by
  cases ls with
  | nil => rfl
  | cons first others => rfl

end RawLine

namespace Text

/-- The lines of a text. A line feed ends a line, and so does a carriage return with a line feed
behind it. -/
def rawLines : Text → List RawLine
  | [] => []
  | '\n' :: rest => ⟨[], ['\n']⟩ :: rawLines rest
  | '\r' :: '\n' :: rest => ⟨[], ['\r', '\n']⟩ :: rawLines rest
  | c :: rest => RawLine.prepend c (rawLines rest)

/-- A carriage return stands directly in front of every line feed, or in front of none. -/
def LineFeedsAgree (t : Text) : Prop :=
  (∀ before after, t = before ++ '\n' :: after → before.getLast? = some '\r') ∨
    ∀ before after, t = before ++ '\n' :: after → before.getLast? ≠ some '\r'

/-- The lines with their ends are the text. -/
theorem flatMap_written_rawLines (t : Text) : t.rawLines.flatMap RawLine.written = t := by
  induction t using rawLines.induct with
  | case1 => rfl
  | case2 rest ih => simp [rawLines, RawLine.written, ih]
  | case3 rest ih => simp [rawLines, RawLine.written, ih]
  | case4 c rest hlf hcr ih => rw [rawLines.eq_4 c rest hlf hcr, RawLine.flatMap_written_prepend, ih]

example : rawLines "a\r\nb\n\rc".toList =
    [⟨['a'], ['\r', '\n']⟩, ⟨['b'], ['\n']⟩, ⟨['\r', 'c'], []⟩] := by decide

end Text

theorem LineEnd.lead_inj {e e' : LineEnd} (h : e.lead = e'.lead) : e = e' := by
  cases e with
  | lineFeed =>
    cases e' with
    | lineFeed => rfl
    | returnLineFeed => exact absurd h (by decide)
  | returnLineFeed =>
    cases e' with
    | lineFeed => exact absurd h (by decide)
    | returnLineFeed => rfl

namespace Source

/-! ## Lines and rows -/

/-- The line end of a row that has a line feed behind it. -/
def lineEndOf (row : Text) : LineEnd :=
  if endsInReturn row then .returnLineFeed else .lineFeed

/-- The line of a row that has a line feed behind it. -/
def rawLineOf (row : Text) : RawLine :=
  ⟨dropReturn row, (lineEndOf row).text⟩

/-- A row is its line and what its line end has in front of the line feed. -/
theorem dropReturn_append_lead_lineEndOf (row : Text) :
    dropReturn row ++ (lineEndOf row).lead = row := by
  by_cases h : endsInReturn row = true
  · rw [dropReturn, lineEndOf, if_pos h, if_pos h]
    have hlast : row.getLast? = some '\r' := by simpa [endsInReturn] using h
    obtain ⟨init, rfl⟩ := List.getLast?_eq_some_iff.1 hlast
    simp [LineEnd.lead]
  · rw [dropReturn, lineEndOf, if_neg h, if_neg h]
    simp [LineEnd.lead]

theorem endsInReturn_cons {row : Text} (h : row ≠ []) (c : Char) :
    endsInReturn (c :: row) = endsInReturn row := by
  obtain ⟨d, row, rfl⟩ := List.exists_cons_of_ne_nil h
  simp [endsInReturn]

/-- A character in front of a row is one in front of its line, unless it belongs to the line end. -/
theorem rawLineOf_cons {c : Char} {row : Text} (h : row = [] → c ≠ '\r') :
    rawLineOf (c :: row) = ⟨c :: (rawLineOf row).text, (rawLineOf row).ending⟩ := by
  by_cases hrow : row = []
  · have hc := h hrow
    subst hrow
    simp [rawLineOf, lineEndOf, dropReturn, endsInReturn, hc]
  · simp only [rawLineOf, lineEndOf, dropReturn, endsInReturn_cons hrow]
    split
    · rw [List.dropLast_cons_of_ne_nil hrow]
    · rfl

variable {body : Text} {xs : List Text} {u : Text}

/-- The lines of a text are its rows; the last row is a line only if it is not empty. -/
theorem rawLines_eq (h : body.splitOn '\n' = xs ++ [u]) :
    body.rawLines = xs.map rawLineOf ++ (if u.isEmpty then [] else [⟨u, []⟩]) := by
  induction body using Text.rawLines.induct generalizing xs u with
  | case1 =>
    have hrows : [] ++ [[]] = xs ++ [u] := h
    obtain ⟨rfl, rfl⟩ := List.append_singleton_inj.1 hrows
    rfl
  | case2 rest ih =>
    obtain ⟨ys, v, hrest⟩ := exists_splitOn_eq rest
    have hrows : ([] :: ys) ++ [v] = xs ++ [u] := by
      rw [← h, List.splitOn_cons_eq_if_modifyHead, if_pos (beq_self_eq_true _), hrest]
      rfl
    obtain ⟨rfl, rfl⟩ := List.append_singleton_inj.1 hrows
    rw [Text.rawLines, ih hrest]
    rfl
  | case3 rest ih =>
    obtain ⟨ys, v, hrest⟩ := exists_splitOn_eq rest
    have hrows : (['\r'] :: ys) ++ [v] = xs ++ [u] := by
      rw [← h, List.splitOn_cons_eq_if_modifyHead, if_neg (by decide),
        List.splitOn_cons_eq_if_modifyHead, if_pos (beq_self_eq_true _), hrest]
      rfl
    obtain ⟨rfl, rfl⟩ := List.append_singleton_inj.1 hrows
    rw [Text.rawLines, ih hrest]
    rfl
  | case4 c rest hlf hcr ih =>
    obtain ⟨ys, v, hrest⟩ := exists_splitOn_eq rest
    rw [Text.rawLines.eq_4 c rest hlf hcr, ih hrest]
    rw [List.splitOn_cons_eq_if_modifyHead, if_neg (fun hc => hlf (beq_iff_eq.1 hc)), hrest] at h
    cases ys with
    | nil =>
      -- the character opens the last row
      have hrows : [] ++ [c :: v] = xs ++ [u] := h
      obtain ⟨rfl, rfl⟩ := List.append_singleton_inj.1 hrows
      cases v with
      | nil => rfl
      | cons d v => rfl
    | cons y ys =>
      have hrows : ((c :: y) :: ys) ++ [v] = xs ++ [u] := h
      obtain ⟨rfl, rfl⟩ := List.append_singleton_inj.1 hrows
      have hc : y = [] → c ≠ '\r' := by
        rintro rfl rfl
        have hsame : ['\n'].intercalate (rest.splitOn '\n') = rest := List.intercalate_splitOn '\n'
        rw [hrest, List.cons_append, List.intercalate_cons_of_ne_nil (by simp)] at hsame
        exact hcr _ rfl hsame.symm
      rw [List.map_cons, List.map_cons, rawLineOf_cons hc]
      rfl

/-- The lines of a source file are those of the text. -/
theorem lines_ofText_eq_map_rawLines (body : Text) :
    (ofText body).lines = body.rawLines.map RawLine.text := by
  obtain ⟨xs, u, h⟩ := exists_splitOn_eq body
  rw [lines_ofText h, rawLines_eq h, List.map_append, List.map_map]
  split
  · rfl
  · rfl

/-! ## Line feeds that agree -/

/-- What stands in front of a row makes no difference to its end. -/
theorem endsInReturn_append_row (xs : List Text) (row : Text) :
    endsInReturn ((xs.flatMap fun x => x ++ ['\n']) ++ row) = endsInReturn row := by
  cases row with
  | cons c row => simp [endsInReturn]
  | nil =>
    rcases List.eq_nil_or_concat xs with rfl | ⟨init, x, rfl⟩
    · rfl
    · simp [endsInReturn]

/-- A text is its rows, all of them but the last with a line feed. -/
theorem eq_flatMap_append (h : body.splitOn '\n' = xs ++ [u]) :
    body = (xs.flatMap fun x => x ++ ['\n']) ++ u := by
  have hrows := intercalate_rows xs [] u
  simp only [List.append_nil, List.nil_append, List.map_id'] at hrows
  rw [← hrows, ← h]
  exact (List.intercalate_splitOn '\n').symm

/-- What stands in front of the line feeds ends as the rows do that have a line feed. -/
theorem forall_endsInReturn_iff (h : body.splitOn '\n' = xs ++ [u]) (b : Bool) :
    (∀ before after, body = before ++ '\n' :: after → endsInReturn before = b) ↔
      ∀ x ∈ xs, endsInReturn x = b := by
  constructor
  · intro hall x hx
    obtain ⟨ys, zs, rfl⟩ := List.append_of_mem hx
    rw [← endsInReturn_append_row ys x]
    apply hall _ ((zs.flatMap fun z => z ++ ['\n']) ++ u)
    rw [eq_flatMap_append h]
    simp
  · rintro hall before after rfl
    obtain ⟨ys, v, hbefore⟩ := exists_splitOn_eq before
    obtain ⟨zs, w, hafter⟩ := exists_splitOn_eq after
    have hrows : (ys ++ v :: zs) ++ [w] = xs ++ [u] := by
      rw [← h, List.splitOn_append_cons_self, hbefore, hafter]
      simp
    obtain ⟨rfl, -⟩ := List.append_singleton_inj.1 hrows
    rw [eq_flatMap_append hbefore, endsInReturn_append_row]
    exact hall v (by simp)

/-- The line feeds agree if all rows have the line end of the file. -/
theorem lineFeedsAgree_iff (h : body.splitOn '\n' = xs ++ [u]) :
    body.LineFeedsAgree ↔ ∀ x ∈ xs, lineEndOf x = (ofText body).lineEnd := by
  have hreturn : ∀ t : Text, t.getLast? = some '\r' ↔ endsInReturn t = true := by
    intro t
    simp [endsInReturn]
  simp only [Text.LineFeedsAgree, ne_eq, hreturn, Bool.not_eq_true]
  rw [forall_endsInReturn_iff h, forall_endsInReturn_iff h, lineEnd_ofText h]
  cases xs with
  | nil => simp
  | cons x xs =>
    -- the first row tells the line end of the file
    cases hx : endsInReturn x with
    | true => simp [lineEndOf, hx]
    | false => simp [lineEndOf, hx]

/-- A file is written as it was read exactly if its line feeds agree. -/
theorem written_ofText_eq_iff (body : Text) :
    (ofText body).written = body ↔ body.LineFeedsAgree := by
  obtain ⟨xs, u, h⟩ := exists_splitOn_eq body
  have hrows : (ofText body).rows =
      xs.map (fun x => dropReturn x ++ (ofText body).lineEnd.lead) ++ [u] := by
    rw [rows, ended_ofText h, rest_ofText h, List.map_map]
    rfl
  rw [lineFeedsAgree_iff h]
  constructor
  · intro hsame x hx
    -- the rows of what is written are those of the text
    have hsplit : (ofText body).written.splitOn '\n' = (ofText body).rows :=
      splitOn_written fun line hline => lineFeed_not_mem_of_mem_lines_ofText hline
    rw [hsame, h, hrows, List.append_singleton_inj] at hsplit
    have hrow : x = dropReturn x ++ (ofText body).lineEnd.lead :=
      List.map_eq_map_iff.1 ((List.map_id xs).trans hsplit.1) x hx
    have hlead := (dropReturn_append_lead_lineEndOf x).trans hrow
    exact LineEnd.lead_inj (List.append_cancel_left hlead)
  · intro hagree
    have hsame : xs.map (fun x => dropReturn x ++ (ofText body).lineEnd.lead) = xs := by
      refine (List.map_congr_left fun x hx => ?_).trans (List.map_id xs)
      rw [← hagree x hx, dropReturn_append_lead_lineEndOf]
      rfl
    rw [written_eq_intercalate, hrows, hsame, ← h, List.intercalate_splitOn]

/-! ## Edits -/

/-- A file is written as its lines with line ends, and what stands behind the last of them. -/
theorem written_eq_flatMap (f : Source) :
    f.written = (f.ended.flatMap fun line => line ++ f.lineEnd.text) ++ f.rest := by
  rw [written_eq_intercalate, rows, intercalate_rows, LineEnd.text_eq]

/-- In a text whose line feeds agree, new characters for the lines leave the line ends as they
are. -/
theorem written_of_lines_eq_mapIdx (hagree : body.LineFeedsAgree) {f : Source}
    (hend : f.lineEnd = (ofText body).lineEnd) (hfinal : f.finalEnd = (ofText body).finalEnd)
    (new : Nat → Text → Text) (hlines : f.lines = (ofText body).lines.mapIdx new) :
    f.written = (body.rawLines.mapIdx fun i l => new i l.text ++ l.ending).flatten := by
  obtain ⟨xs, u, h⟩ := exists_splitOn_eq body
  have hraw : xs.map rawLineOf = xs.map fun x => ⟨dropReturn x, f.lineEnd.text⟩ := by
    refine List.map_congr_left fun x hx => ?_
    rw [rawLineOf, (lineFeedsAgree_iff h).1 hagree x hx, hend]
  rw [lines_ofText h] at hlines
  rw [finalEnd_ofText h] at hfinal
  have hended : f.ended = (xs.map dropReturn).mapIdx new := by
    rw [ended, hfinal, hlines]
    cases u with
    | nil => cases xs <;> simp
    | cons c u => simp
  have hrest : f.rest = if u.isEmpty then [] else new xs.length u := by
    rw [rest, hfinal, hlines]
    cases u with
    | nil => cases xs <;> simp
    | cons c u => simp
  have hwritten : ((xs.map dropReturn).mapIdx new).map (· ++ f.lineEnd.text) =
      (xs.map fun x => RawLine.mk (dropReturn x) f.lineEnd.text).mapIdx
        fun i l => new i l.text ++ l.ending := by
    apply List.ext_getElem?
    intro i
    simp [Function.comp_def]
  rw [written_eq_flatMap, hended, hrest, rawLines_eq h, hraw, List.flatMap_def, hwritten]
  cases u with
  | nil => simp
  | cons c u => simp

/-- What edits make of the characters of a line. -/
def textAfter (edits : List Edit) (i : Nat) (line : Text) : Text :=
  ((edits.find? fun e => e.line = i).map Edit.replacement).getD line

/-- The edits of a pass lead to the formatted lines. -/
theorem textAfter_edits {s : Settings} {r : LineRange} {f : Source} {i : Nat} {line : Text}
    (hline : f.lines[i]? = some line) :
    textAfter (f.edits s r) i line = if r.Holds i then formatLine s line else line := by
  rw [textAfter]
  cases hfind : (f.edits s r).find? fun e => e.line = i with
  | none =>
    have hother : ∀ e ∈ f.edits s r, e.line ≠ i := by simpa using hfind
    rw [Option.map_none, Option.getD_none]
    split
    · next hholds =>
      -- a line of the range without edit is formatted already
      refine Decidable.byContradiction fun hchange => ?_
      exact hother ⟨i, formatLine s line⟩
        (mem_edits_iff.2 ⟨hholds, line, hline, rfl, Ne.symm hchange⟩) rfl
    · rfl
  | some e =>
    have hmem : e ∈ f.edits s r := List.mem_of_find?_eq_some hfind
    obtain rfl : e.line = i := by simpa using List.find?_some hfind
    obtain ⟨hholds, other, hother, hreplacement, -⟩ := mem_edits_iff.1 hmem
    obtain rfl : other = line := Option.some.inj (hother.symm.trans hline)
    rw [Option.map_some, Option.getD_some, if_pos hholds, hreplacement]

theorem lines_formatted_eq_mapIdx (s : Settings) (r : LineRange) (f : Source) :
    (f.formatted s r).lines = f.lines.mapIdx (textAfter (f.edits s r)) := by
  rw [formatted, edits, lines_apply_formatRange, List.mapIdx_eq_mapIdx_iff]
  intro i hi
  exact (textAfter_edits (List.getElem?_eq_getElem hi)).symm

/-! ## Main statement -/

/-- A file is written as it was read exactly if its line feeds agree. Then the edits of a pass, each
of which names a line of the text, replace the characters of these lines, and every other line and
every line end is as it was. -/
theorem written_ofText_faithful (body : Text) :
    ((ofText body).written = body ↔ body.LineFeedsAgree) ∧
      (body.rawLines.flatMap RawLine.written = body) ∧
      (body.LineFeedsAgree → ∀ (s : Settings) (r : LineRange),
        let edits := (ofText body).edits s r
        (∀ e ∈ edits, r.Holds e.line ∧ ∃ l, body.rawLines[e.line]? = some l ∧
            e.replacement = formatLine s l.text ∧ e.replacement ≠ l.text) ∧
          ((ofText body).apply edits).written =
            (body.rawLines.mapIdx fun i l => textAfter edits i l.text ++ l.ending).flatten) := by
  refine ⟨written_ofText_eq_iff body, body.flatMap_written_rawLines, ?_⟩
  intro hagree s r edits
  constructor
  · intro e he
    obtain ⟨hholds, line, hline, hreplacement, hchange⟩ := mem_edits_iff.1 he
    rw [lines_ofText_eq_map_rawLines, List.getElem?_map, Option.map_eq_some_iff] at hline
    obtain ⟨l, hl, rfl⟩ := hline
    exact ⟨hholds, l, hl, hreplacement, fun hsame => hchange (hreplacement.symm.trans hsame)⟩
  · exact written_of_lines_eq_mapIdx hagree (f := (ofText body).formatted s r) rfl rfl
      (textAfter edits) (lines_formatted_eq_mapIdx s r (ofText body))

/-- A file whose lines end in two characters, the last one without line end: two of its lines are
edited. -/
theorem written_moves_faithful :
    let body : Text := "l1 mov r1,r2\r\n\r\n inc r1\r".toList
    let edits := (ofText body).edits {} .whole
    body.LineFeedsAgree ∧ edits.length = 2 ∧
      ((ofText body).apply edits).written = "l1       MOV r1, r2\r\n\r\n         INC r1".toList ∧
      ((ofText body).apply edits).written =
        (body.rawLines.mapIdx fun i l => textAfter edits i l.text ++ l.ending).flatten := by
  intro body edits
  have hagree : body.LineFeedsAgree :=
    (written_ofText_faithful body).1.1 (by decide +kernel)
  exact ⟨hagree, by decide +kernel, by decide +kernel,
    ((written_ofText_faithful body).2.2 hagree {} .whole).2⟩

end Source

end AsmFormat
