import AsmFormat.Source

/-!
# The edits of a pass

A pass that is never cancelled finds one edit for each line of its range that formatting changes
(`mem_edits_iff`), by rising line (`pairwise_edits`). These are the edits that a pass over the whole
document finds in the range (`edits_formatRange_eq_filter`).

Once the edits are applied, the lines of the range are formatted and the others are as they were
(`Source.lines_apply_formatRange`). No two edits name the same line, so the order in which they are
applied does not matter (`Source.lines_apply_of_mem_iff`, `formatRange_pointwise`).
-/

set_option autoImplicit false

namespace AsmFormat

/-- Whether a line, by its index, lies in a range. -/
def LineRange.Holds (r : LineRange) (i : Nat) : Prop :=
  r.first.toNat ≤ i ∧ i ≤ r.last.toNat

instance (r : LineRange) (i : Nat) : Decidable (r.Holds i) :=
  inferInstanceAs (Decidable (_ ∧ _))

variable {s : Settings} {lines : List Text} {r : LineRange}

/-! ## Which edits there are -/

/-- A pass looks at one line after the other. -/
theorem edits_scan_neverCancelled (s : Settings) (found : List Edit) (index polls : Nat)
    (lines : List Text) :
    (Pass.scan s neverCancelled found index polls lines).edits =
      found.reverse ++ (lines.zipIdx index).filterMap fun p => editOf? s p.2 p.1 := by
  induction lines generalizing found index polls with
  | nil => simp [Pass.scan]
  | cons line rest ih =>
    rw [Pass.scan, List.zipIdx_cons]
    cases hedit : editOf? s index line with
    | none => simp [neverCancelled, hedit, ih]
    | some edit => simp [neverCancelled, hedit, ih]

theorem edits_formatRange (s : Settings) (lines : List Text) (r : LineRange) :
    (formatRange s lines r neverCancelled).edits =
      ((r.window lines).zipIdx r.first.toNat).filterMap fun p => editOf? s p.2 p.1 := by
  rw [formatRange, edits_scan_neverCancelled]
  rfl

/-- The lines of a range keep their indexes. -/
theorem mem_zipIdx_window_iff {line : Text} {i : Nat} :
    (line, i) ∈ (r.window lines).zipIdx r.first.toNat ↔ r.Holds i ∧ lines[i]? = some line := by
  rw [List.mk_mem_zipIdx_iff_le_and_getElem?_sub, LineRange.window, List.getElem?_drop,
    List.getElem?_take]
  constructor
  · rintro ⟨hfirst, hline⟩
    rw [Nat.add_sub_cancel' hfirst] at hline
    split at hline
    · next hlast => exact ⟨⟨hfirst, Nat.le_of_lt_succ hlast⟩, hline⟩
    · exact absurd hline (by simp)
  · rintro ⟨⟨hfirst, hlast⟩, hline⟩
    refine ⟨hfirst, ?_⟩
    rw [Nat.add_sub_cancel' hfirst, if_pos (Nat.lt_succ_of_le hlast)]
    exact hline

theorem editOf?_eq_some_iff {i : Nat} {line : Text} {e : Edit} :
    editOf? s i line = some e ↔
      e.line = i ∧ e.replacement = formatLine s line ∧ formatLine s line ≠ line := by
  rw [editOf?]
  obtain ⟨j, t⟩ := e
  split
  · next h => simp [h]
  · next h =>
    rw [Option.some.injEq, Edit.mk.injEq]
    constructor
    · rintro ⟨rfl, rfl⟩
      exact ⟨rfl, rfl, h⟩
    · rintro ⟨rfl, rfl, -⟩
      exact ⟨rfl, rfl⟩

/-- There is an edit exactly for each line of the range that formatting changes. -/
theorem mem_edits_iff {e : Edit} :
    e ∈ (formatRange s lines r neverCancelled).edits ↔
      r.Holds e.line ∧ ∃ line, lines[e.line]? = some line ∧
        e.replacement = formatLine s line ∧ formatLine s line ≠ line := by
  rw [edits_formatRange, List.mem_filterMap]
  constructor
  · rintro ⟨⟨line, i⟩, hmem, hedit⟩
    obtain ⟨rfl, hreplacement, hchange⟩ := editOf?_eq_some_iff.1 hedit
    obtain ⟨hholds, hline⟩ := mem_zipIdx_window_iff.1 hmem
    exact ⟨hholds, line, hline, hreplacement, hchange⟩
  · rintro ⟨hholds, line, hline, hreplacement, hchange⟩
    refine ⟨(line, e.line), mem_zipIdx_window_iff.2 ⟨hholds, hline⟩, ?_⟩
    exact editOf?_eq_some_iff.2 ⟨rfl, hreplacement, hchange⟩

/-- The edits come by rising line. -/
theorem pairwise_edits (s : Settings) (lines : List Text) (r : LineRange) :
    (formatRange s lines r neverCancelled).edits.Pairwise (·.line < ·.line) := by
  rw [edits_formatRange, List.pairwise_filterMap]
  have hrising : ((r.window lines).zipIdx r.first.toNat).Pairwise (·.2 < ·.2) := by
    rw [← List.pairwise_map, List.zipIdx_map_snd]
    exact List.pairwise_lt_range'
  refine hrising.imp ?_
  intro p q hlt e he f hf
  rw [(editOf?_eq_some_iff.1 he).1, (editOf?_eq_some_iff.1 hf).1]
  exact hlt

/-- A line has at most one edit. -/
theorem eq_of_mem_edits {e f : Edit} (he : e ∈ (formatRange s lines r neverCancelled).edits)
    (hf : f ∈ (formatRange s lines r neverCancelled).edits) (hline : e.line = f.line) : e = f := by
  obtain ⟨-, t, ht, hreplacement, -⟩ := mem_edits_iff.1 he
  obtain ⟨-, u, hu, hreplacement', -⟩ := mem_edits_iff.1 hf
  obtain ⟨i, v⟩ := e
  obtain ⟨j, w⟩ := f
  obtain rfl : i = j := hline
  obtain rfl : t = u := Option.some.inj (ht.symm.trans hu)
  rw [Edit.mk.injEq]
  exact ⟨rfl, hreplacement.trans hreplacement'.symm⟩

/-! ## What the edits do -/

namespace Source

variable {edits : List Edit}

/-- A line that no edit names stays as it is. -/
theorem getElem?_lines_apply_of_ne (f : Source) {i : Nat} (h : ∀ e ∈ edits, e.line ≠ i) :
    (f.apply edits).lines[i]? = f.lines[i]? := by
  rw [lines_apply]
  generalize f.lines = lines
  induction edits generalizing lines with
  | nil => rfl
  | cons e rest ih =>
    rw [List.forall_mem_cons] at h
    rw [List.foldl_cons, ih h.2, List.getElem?_set_ne h.1]

/-- A line gets the replacement of its edit, if it has one edit only. -/
theorem getElem?_lines_apply_of_mem (f : Source) {e : Edit} (he : e ∈ edits)
    (hone : ∀ d ∈ edits, d.line = e.line → d = e) (hlt : e.line < f.lines.length) :
    (f.apply edits).lines[e.line]? = some e.replacement := by
  rw [lines_apply]
  revert hlt
  generalize f.lines = lines
  intro hlt
  induction edits generalizing lines with
  | nil => exact absurd he List.not_mem_nil
  | cons d rest ih =>
    rw [List.forall_mem_cons] at hone
    rw [List.foldl_cons]
    by_cases hrest : e ∈ rest
    · exact ih hrest hone.2 _ (by rwa [List.length_set])
    · -- no later edit names the line again
      obtain rfl : e = d := (List.mem_cons.1 he).resolve_right hrest
      have hlater : ∀ d ∈ rest, d.line ≠ e.line := by
        intro d hd hline
        rw [hone.2 d hd hline] at hd
        exact hrest hd
      have hkeep := getElem?_lines_apply_of_ne
        { lines := lines.set e.line e.replacement, lineEnd := .lineFeed, finalEnd := false } hlater
      rw [lines_apply] at hkeep
      rw [hkeep, List.getElem?_set_self hlt]

/-- Any list of these edits, in whatever order, formats the lines of the range and leaves the others
as they were. -/
theorem lines_apply_of_mem_iff (s : Settings) (f : Source) (r : LineRange)
    (h : ∀ e, e ∈ edits ↔ e ∈ (formatRange s f.lines r neverCancelled).edits) :
    (f.apply edits).lines =
      f.lines.mapIdx fun i line => if r.Holds i then formatLine s line else line := by
  apply List.ext_getElem?
  intro i
  rw [List.getElem?_mapIdx]
  by_cases hedit : ∃ e ∈ edits, e.line = i
  · obtain ⟨e, he, rfl⟩ := hedit
    obtain ⟨hholds, line, hline, hreplacement, -⟩ := mem_edits_iff.1 ((h e).1 he)
    -- no other edit of the list names the line
    have hone : ∀ d ∈ edits, d.line = e.line → d = e := by
      intro d hd hsame
      exact eq_of_mem_edits ((h d).1 hd) ((h e).1 he) hsame
    rw [getElem?_lines_apply_of_mem f he hone (List.getElem?_eq_some_iff.1 hline).1, hline,
      hreplacement]
    simp [hholds]
  · have hother : ∀ e ∈ edits, e.line ≠ i := by
      intro e he hline
      exact hedit ⟨e, he, hline⟩
    rw [getElem?_lines_apply_of_ne f hother]
    cases hline : f.lines[i]? with
    | none => rfl
    | some line =>
      -- the line lies outside the range, or formatting does not change it
      by_cases hchange : r.Holds i ∧ formatLine s line ≠ line
      · have hfound := mem_edits_iff (e := ⟨i, formatLine s line⟩).2
          ⟨hchange.1, line, hline, rfl, hchange.2⟩
        exact absurd rfl (hother _ ((h _).2 hfound))
      · rw [Option.map_some]
        split
        · next hholds =>
          have hsame : formatLine s line = line := Decidable.not_not.1 (not_and.1 hchange hholds)
          rw [hsame]
        · rfl

/-- The lines of the range are formatted, and the others are as they were. -/
theorem lines_apply_formatRange (s : Settings) (f : Source) (r : LineRange) :
    (f.apply (formatRange s f.lines r neverCancelled).edits).lines =
      f.lines.mapIdx fun i line => if r.Holds i then formatLine s line else line :=
  lines_apply_of_mem_iff s f r fun _ => Iff.rfl

end Source

/-! ## Ranges and documents -/

/-- Edits that rise by line are told by which edits there are. -/
theorem eq_of_mem_iff_of_pairwise {es ds : List Edit} (hes : es.Pairwise (·.line < ·.line))
    (hds : ds.Pairwise (·.line < ·.line)) (h : ∀ e, e ∈ es ↔ e ∈ ds) : es = ds := by
  have hnodup {cs : List Edit} (hcs : cs.Pairwise (·.line < ·.line)) : cs.Nodup := by
    apply hcs.imp
    rintro d e hlt rfl
    exact Nat.lt_irrefl _ hlt
  have hperm : es.Perm ds := (List.perm_ext_iff_of_nodup (hnodup hes) (hnodup hds)).2 h
  apply List.Perm.eq_of_pairwise _ hes hds hperm
  intro d e _ _ hde hed
  exact absurd hed (Nat.lt_asymm hde)

/-- A document is a range that holds all lines of any range. -/
theorem LineRange.whole_holds {i : Nat} (h : r.Holds i) : LineRange.whole.Holds i := by
  constructor
  · exact Nat.zero_le i
  · exact Nat.le_of_lt_succ (Nat.lt_of_le_of_lt h.2 r.last.toNat_lt)

/-- A pass over a range finds what a pass over the document finds there. -/
theorem edits_formatRange_eq_filter (s : Settings) (lines : List Text) (r : LineRange) :
    (formatRange s lines r neverCancelled).edits =
      (formatDocument s lines neverCancelled).edits.filter fun e => r.Holds e.line := by
  apply eq_of_mem_iff_of_pairwise (pairwise_edits s lines r)
  · exact (pairwise_edits s lines LineRange.whole).filter _
  · intro e
    rw [formatDocument, List.mem_filter, mem_edits_iff, mem_edits_iff, decide_eq_true_eq]
    constructor
    · rintro ⟨hholds, hline⟩
      exact ⟨⟨LineRange.whole_holds hholds, hline⟩, hholds⟩
    · rintro ⟨⟨-, hline⟩, hholds⟩
      exact ⟨hholds, hline⟩

/-- The edits of a range are exactly the lines of the document that formatting changes there, by
rising line, and they may be applied in any order: the lines of the range are formatted then, and
nothing else of the file is changed. -/
theorem formatRange_pointwise (s : Settings) (f : Source) (r : LineRange) :
    (formatRange s f.lines r neverCancelled).edits =
        (formatDocument s f.lines neverCancelled).edits.filter (fun e => r.Holds e.line) ∧
      (formatRange s f.lines r neverCancelled).edits.Pairwise (·.line < ·.line) ∧
      (∀ e, e ∈ (formatRange s f.lines r neverCancelled).edits ↔
        r.Holds e.line ∧ ∃ line, f.lines[e.line]? = some line ∧
          e.replacement = formatLine s line ∧ formatLine s line ≠ line) ∧
      ∀ edits : List Edit, edits.Perm (formatRange s f.lines r neverCancelled).edits →
        f.apply edits =
          { f with
            lines := f.lines.mapIdx fun i line => if r.Holds i then formatLine s line else line } := by
  refine ⟨edits_formatRange_eq_filter s f.lines r, pairwise_edits s f.lines r,
    fun e => mem_edits_iff, ?_⟩
  intro edits hperm
  calc
    f.apply edits = { f with lines := (f.apply edits).lines } := rfl
    _ = _ := by rw [Source.lines_apply_of_mem_iff s f r fun e => hperm.mem_iff]

/-- Two edits in reverse order, around a line that is formatted already and in front of one outside
the range. -/
theorem formatRange_pointwise_reversed :
    Source.apply ⟨["l mov a".toList, ";x".toList, " rt".toList, " rt".toList], .lineFeed, false⟩
        (formatRange { instructionColumn := 2 }
          ["l mov a".toList, ";x".toList, " rt".toList, " rt".toList]
          { first := 0, last := 2 } neverCancelled).edits.reverse =
      ⟨["l MOV a".toList, ";x".toList, "  RT".toList, " rt".toList], .lineFeed, false⟩ := by
  obtain ⟨-, -, -, happly⟩ := formatRange_pointwise { instructionColumn := 2 }
    ⟨["l mov a".toList, ";x".toList, " rt".toList, " rt".toList], .lineFeed, false⟩
    { first := 0, last := 2 }
  rw [happly _ (List.reverse_perm _)]
  decide +kernel

end AsmFormat
