import AsmFormat.Proofs.Document.LineEnds
import Mathlib.Logic.Function.Iterate

/-!
# Reading again what was written

A file that is written with a bare line feed behind a line that ends in a carriage return is not read
again as it was: the two characters together are a line end. `Source.StrayReturn` tells whether a
file has such a line, and `Source.reread` is what it is read as.

Main statement: a file is read again as it was exactly if it has no such line, and exactly then it is
written again as it was. In any case nothing but carriage returns gets lost, and reading and writing
come to rest after finitely many turns (`ofText_written_eq_iff`).

A file that was formatted and written is read again with other lines exactly where formatting changed
them, and where a line loses a carriage return (`getElem?_lines_reread_ne_iff`).
-/

set_option autoImplicit false

namespace AsmFormat

namespace Source

/-- A line ends in a carriage return and is written with a bare line feed. -/
def StrayReturn (f : Source) : Prop :=
  f.lineEnd = .lineFeed ∧ ∃ line ∈ f.ended, endsInReturn line = true

instance (f : Source) : Decidable f.StrayReturn :=
  inferInstanceAs (Decidable (_ ∧ _))

/-- What a file is read as when it was written: with bare line feeds, each line that is written with
one loses a carriage return. -/
def reread (f : Source) : Source :=
  match f.lineEnd with
  | .returnLineFeed => f
  | .lineFeed =>
    { f with lines := f.ended.map dropReturn ++ (if f.rest.isEmpty then [] else [f.rest]) }

/-- The text of a file that was read and written. -/
def rewritten (body : Text) : Text :=
  (ofText body).written

/-- A file is its lines, its line end and whether the last line has one. -/
theorem ext {f g : Source} (hlines : f.lines = g.lines) (hend : f.lineEnd = g.lineEnd)
    (hfinal : f.finalEnd = g.finalEnd) : f = g := by
  cases f
  cases g
  simp_all

variable {body : Text} {xs : List Text} {u : Text}

/-! ## One turn -/

theorem reread_of_returnLineFeed {f : Source} (h : f.lineEnd = .returnLineFeed) :
    f.reread = f := by
  rw [reread, h]

theorem reread_of_lineFeed {f : Source} (h : f.lineEnd = .lineFeed) :
    f.reread =
      { f with lines := f.ended.map dropReturn ++ (if f.rest.isEmpty then [] else [f.rest]) } := by
  rw [reread]
  split
  · next hreturn => cases h.symm.trans hreturn
  · rfl

/-- A carriage return in front of the line feed is dropped, whatever is in front of it. -/
theorem dropReturn_append_return (line : Text) : dropReturn (line ++ ['\r']) = line := by
  simp [dropReturn, endsInReturn]

theorem lines_ofText_eq (body : Text) :
    (ofText body).lines = (ofText body).ended ++
      (if (ofText body).rest.isEmpty then [] else [(ofText body).rest]) := by
  obtain ⟨xs, u, h⟩ := exists_splitOn_eq body
  rw [lines_ofText h, ended_ofText h, rest_ofText h]

/-- The rows of a text that was read and written. -/
theorem splitOn_rewritten (h : body.splitOn '\n' = xs ++ [u]) :
    (rewritten body).splitOn '\n' =
      (xs.map dropReturn).map (· ++ (ofText body).lineEnd.lead) ++ [u] := by
  have hone : ∀ line ∈ (ofText body).lines, '\n' ∉ line :=
    fun line hline => lineFeed_not_mem_of_mem_lines_ofText hline
  rw [rewritten, splitOn_written hone, rows, ended_ofText h, rest_ofText h]

/-- The first row, which tells the line end, is written as it was read. -/
theorem lineEnd_ofText_rewritten (body : Text) :
    (ofText (rewritten body)).lineEnd = (ofText body).lineEnd := by
  obtain ⟨xs, u, h⟩ := exists_splitOn_eq body
  rw [lineEnd_ofText (splitOn_rewritten h)]
  cases xs with
  | nil => rw [lineEnd_ofText h, List.map_nil, List.map_nil]
  | cons x xs =>
    have hfirst : (ofText body).lineEnd = lineEndOf x := by
      rw [lineEnd_ofText h]
      rfl
    rw [hfirst, List.map_cons, List.map_cons, dropReturn_append_lead_lineEndOf]
    rfl

theorem finalEnd_ofText_rewritten (body : Text) :
    (ofText (rewritten body)).finalEnd = (ofText body).finalEnd := by
  obtain ⟨xs, u, h⟩ := exists_splitOn_eq body
  rw [finalEnd_ofText (splitOn_rewritten h), finalEnd_ofText h]
  simp

theorem ofText_rewritten (body : Text) : ofText (rewritten body) = (ofText body).reread := by
  obtain ⟨xs, u, h⟩ := exists_splitOn_eq body
  have hend := lineEnd_ofText_rewritten body
  have hfinal := finalEnd_ofText_rewritten body
  have hlines := lines_ofText (splitOn_rewritten h)
  cases hkind : (ofText body).lineEnd with
  | returnLineFeed =>
    have hdrop : dropReturn ∘ (· ++ LineEnd.lead .returnLineFeed) = id := by
      funext line
      exact dropReturn_append_return line
    rw [hkind, List.map_map, hdrop, List.map_id, ← lines_ofText h] at hlines
    rw [reread_of_returnLineFeed hkind]
    exact ext hlines hend hfinal
  | lineFeed =>
    have hdrop : dropReturn ∘ (· ++ LineEnd.lead .lineFeed) = dropReturn := by
      funext line
      exact congrArg dropReturn (List.append_nil line)
    rw [hkind, List.map_map, hdrop, ← ended_ofText h, ← rest_ofText h] at hlines
    rw [reread_of_lineFeed hkind]
    exact ext hlines hend hfinal

/-! ## Stray carriage returns -/

/-- The line feeds of a text that was read and written agree if the file has no stray return. -/
theorem lineFeedsAgree_rewritten_iff (body : Text) :
    (rewritten body).LineFeedsAgree ↔ ¬(ofText body).StrayReturn := by
  obtain ⟨xs, u, h⟩ := exists_splitOn_eq body
  rw [lineFeedsAgree_iff (splitOn_rewritten h), lineEnd_ofText_rewritten, ← ended_ofText h,
    List.forall_mem_map, StrayReturn, not_and, not_exists]
  cases hkind : (ofText body).lineEnd with
  | returnLineFeed =>
    refine iff_of_true ?_ (fun hlf => LineEnd.noConfusion hlf)
    intro line _
    simp [LineEnd.lead, lineEndOf, endsInReturn]
  | lineFeed => simp [LineEnd.lead, lineEndOf]

theorem reread_of_not_strayReturn (h : ¬(ofText body).StrayReturn) :
    (ofText body).reread = ofText body := by
  cases hkind : (ofText body).lineEnd with
  | returnLineFeed => exact reread_of_returnLineFeed hkind
  | lineFeed =>
    have hdrop : ∀ line ∈ (ofText body).ended, dropReturn line = line := by
      intro line hline
      rw [dropReturn, if_neg fun hreturn => h ⟨hkind, line, hline, hreturn⟩]
    have hended : (ofText body).ended.map dropReturn = (ofText body).ended :=
      (List.map_congr_left hdrop).trans (List.map_id _)
    rw [reread_of_lineFeed hkind, hended, ← lines_ofText_eq]

theorem rewritten_rewritten_iff (body : Text) :
    rewritten (rewritten body) = rewritten body ↔ ¬(ofText body).StrayReturn :=
  (written_ofText_eq_iff (rewritten body)).trans (lineFeedsAgree_rewritten_iff body)

theorem ofText_rewritten_eq_iff (body : Text) :
    ofText (rewritten body) = ofText body ↔ ¬(ofText body).StrayReturn := by
  constructor
  · intro hsame
    exact (rewritten_rewritten_iff body).1 (congrArg written hsame)
  · intro h
    rw [ofText_rewritten, reread_of_not_strayReturn h]

/-! ## Many turns -/

theorem dropReturn_sublist (line : Text) : (dropReturn line).Sublist line := by
  rw [dropReturn]
  split
  · exact List.dropLast_sublist line
  · exact List.Sublist.refl line

/-- Lines that lose characters lose them in the text as well. -/
theorem flatMap_map_sublist {g : Text → Text} (hg : ∀ line, (g line).Sublist line)
    (lines : List Text) (e : Text) :
    ((lines.map g).flatMap fun line => line ++ e).Sublist
      (lines.flatMap fun line => line ++ e) := by
  induction lines with
  | nil => exact List.Sublist.refl _
  | cons line lines ih =>
    rw [List.map_cons, List.flatMap_cons, List.flatMap_cons]
    exact ((hg line).append_right e).append ih

/-- From the second turn on, a turn adds nothing to the text. -/
theorem rewritten_rewritten_sublist (body : Text) :
    (rewritten (rewritten body)).Sublist (rewritten body) := by
  obtain ⟨xs, u, h⟩ := exists_splitOn_eq body
  have hline : ∀ line, (dropReturn (line ++ (ofText body).lineEnd.lead)).Sublist line := by
    intro line
    cases (ofText body).lineEnd with
    | returnLineFeed =>
      have hline : dropReturn (line ++ LineEnd.returnLineFeed.lead) = line :=
        dropReturn_append_return line
      exact hline.symm ▸ List.Sublist.refl line
    | lineFeed =>
      have hline : line ++ LineEnd.lineFeed.lead = line := List.append_nil line
      exact hline.symm ▸ dropReturn_sublist line
  have hagain : (rewritten (rewritten body)) =
      (((xs.map dropReturn).map fun line => dropReturn (line ++ (ofText body).lineEnd.lead)).flatMap
        fun line => line ++ (ofText body).lineEnd.text) ++ u := by
    rw [rewritten, written_eq_flatMap, ended_ofText (splitOn_rewritten h),
      rest_ofText (splitOn_rewritten h), lineEnd_ofText_rewritten, List.map_map]
    rfl
  have honce : rewritten body =
      ((xs.map dropReturn).flatMap fun line => line ++ (ofText body).lineEnd.text) ++ u := by
    rw [rewritten, written_eq_flatMap, ended_ofText h, rest_ofText h]
  rw [hagain, honce]
  exact (flatMap_map_sublist hline _ _).append_right u

/-- Reading and writing come to rest. -/
theorem exists_rewritten_iterate_eq (body : Text) :
    ∃ n, ∀ k, rewritten^[n + k] body = rewritten^[n] body := by
  -- each turn that changes the text makes it shorter
  induction hlength : (rewritten body).length using Nat.strongRecOn generalizing body with
  | ind length ih =>
    by_cases hsame : rewritten (rewritten body) = rewritten body
    · refine ⟨1, fun k => ?_⟩
      rw [Nat.add_comm, Function.iterate_add_apply, Function.iterate_one,
        Function.iterate_fixed hsame]
    · have hshorter : (rewritten (rewritten body)).length < length := by
        have hsub := rewritten_rewritten_sublist body
        rw [← hlength]
        exact Nat.lt_of_le_of_ne hsub.length_le fun h => hsame (hsub.eq_of_length h)
      obtain ⟨n, hn⟩ := ih _ hshorter (rewritten body) rfl
      refine ⟨n + 1, fun k => ?_⟩
      rw [Nat.add_right_comm, Function.iterate_succ_apply, Function.iterate_succ_apply]
      exact hn k

/-! ## Formatted files -/

section Formatted

variable {s : Settings} {r : LineRange} {f : Source}

/-- The line in a place ends in a carriage return and is written with a bare line feed. -/
def StrayAt (f : Source) (i : Nat) : Prop :=
  f.lineEnd = .lineFeed ∧ ∃ line, f.ended[i]? = some line ∧ endsInReturn line = true

theorem strayReturn_iff_exists : f.StrayReturn ↔ ∃ i, f.StrayAt i := by
  constructor
  · rintro ⟨hkind, line, hline, hreturn⟩
    obtain ⟨i, hi⟩ := List.mem_iff_getElem?.1 hline
    exact ⟨i, hkind, line, hi, hreturn⟩
  · rintro ⟨i, hkind, line, hi, hreturn⟩
    exact ⟨hkind, line, List.mem_of_getElem? hi, hreturn⟩

/-- A line is read back as it was unless the line feed behind it takes a carriage return along. -/
theorem dropReturn_append_lead_eq_iff {line : Text} {e : LineEnd} :
    dropReturn (line ++ e.lead) = line ↔ ¬(e = .lineFeed ∧ endsInReturn line = true) := by
  cases e with
  | returnLineFeed =>
    exact iff_of_true (dropReturn_append_return line) fun h => LineEnd.noConfusion h.1
  | lineFeed =>
    have hlead : line ++ LineEnd.lineFeed.lead = line := List.append_nil line
    rw [hlead]
    constructor
    · rintro hsame ⟨-, hreturn⟩
      have hne : line ≠ [] := by
        rintro rfl
        exact absurd hreturn (by decide)
      have hlength := congrArg List.length hsame
      rw [dropReturn, if_pos hreturn, List.length_dropLast] at hlength
      have hpos := List.length_pos_iff.2 hne
      omega
    · intro h
      rw [dropReturn, if_neg fun hreturn => h ⟨rfl, hreturn⟩]

/-- The line in a place behind the lines that have a line end. -/
theorem getElem?_append_rest {xs : List Text} {u : Text} {i : Nat} (hi : xs.length ≤ i) :
    (xs ++ if u.isEmpty then [] else [u])[i]? =
      if i = xs.length then (if u = [] then none else some u) else none := by
  rw [List.getElem?_append_right hi]
  by_cases hu : u = []
  · simp [hu]
  · rw [if_neg (by simpa using hu), if_neg hu, List.getElem?_singleton]
    apply if_congr _ rfl rfl
    omega

section Line

variable {line : Text} {holds : Prop} [Decidable holds]

/-- A line with a line end is read again with other characters if formatting changed it or it loses
a carriage return. A formatted line loses none. -/
theorem reread_line_ne_iff {e : LineEnd} :
    dropReturn ((if holds then formatLine s line else line) ++ e.lead) ≠ line ↔
      (if holds then formatLine s line else line) ≠ line ∨
        (e = .lineFeed ∧ endsInReturn line = true) := by
  by_cases hholds : holds
  · rw [if_pos hholds, dropReturn_append_lead (endsInReturn_formatLine s line)]
    refine ⟨Or.inl, ?_⟩
    rintro (hne | ⟨-, hreturn⟩)
    · exact hne
    · intro hsame
      rw [← hsame, endsInReturn_formatLine] at hreturn
      exact Bool.noConfusion hreturn
  · rw [if_neg hholds, ne_eq, dropReturn_append_lead_eq_iff, not_not]
    exact (or_iff_right fun hne => hne rfl).symm

/-- What stands behind the last line end is read again as it is. If formatting leaves nothing of it,
then it is no line any more, and that is a change as well. -/
theorem reread_rest_ne_iff :
    (if (if holds then formatLine s line else line) = [] then none
        else some (if holds then formatLine s line else line)) ≠
        (if line = [] then none else some line) ↔
      (if line = [] then none else some line).map
          (fun line => if holds then formatLine s line else line) ≠
        (if line = [] then none else some line) := by
  by_cases hline : line = []
  · simp [hline, formatLine_nil]
  · rw [if_neg hline, Option.map_some]
    by_cases hempty : (if holds then formatLine s line else line) = []
    · rw [if_pos hempty, hempty]
      refine iff_of_true (Option.some_ne_none line).symm ?_
      exact fun h => hline (Option.some.inj h).symm
    · rw [if_neg hempty]

end Line

/-- A file that was formatted and written is read again with another line in a place exactly if
formatting changed the line there or the line loses a carriage return. -/
theorem getElem?_lines_reread_ne_iff (s : Settings) (r : LineRange) (body : Text) (i : Nat) :
    (ofText ((ofText body).formatted s r).written).lines[i]? ≠ (ofText body).lines[i]? ↔
      ((ofText body).formatted s r).lines[i]? ≠ (ofText body).lines[i]? ∨
        (ofText body).StrayAt i := by
  have hend : ((ofText body).formatted s r).lineEnd = (ofText body).lineEnd := rfl
  have hlength := length_ended_formatted s r (ofText body)
  have hline : (ofText body).lines[i]? = ((ofText body).ended ++
      if (ofText body).rest.isEmpty then [] else [(ofText body).rest])[i]? := by
    rw [← lines_ofText_eq]
  rw [lines_ofText_written lineFeed_not_mem_lines_formatted, hend, getElem?_lines_formatted, StrayAt]
  rcases Nat.lt_or_ge i (ofText body).ended.length with hi | hi
  · -- the line has a line end
    obtain ⟨line, hended⟩ : ∃ line, (ofText body).ended[i]? = some line :=
      ⟨_, List.getElem?_eq_getElem hi⟩
    rw [List.getElem?_append_left hi, hended] at hline
    rw [List.getElem?_append_left (by rw [List.length_map, hlength]; exact hi), List.getElem?_map,
      getElem?_ended_formatted, hended, hline]
    simp only [Option.map_some, ne_eq, Option.some.injEq, exists_eq_left']
    exact reread_line_ne_iff
  · -- the line is what stands behind the last line end, if it is a line at all
    have hnone : (ofText body).ended[i]? = none := List.getElem?_eq_none hi
    rw [getElem?_append_rest hi] at hline
    rw [getElem?_append_rest (by rw [List.length_map, hlength]; exact hi), List.length_map, hlength,
      rest_formatted, hnone, hline]
    by_cases hplace : i = (ofText body).ended.length
    · rw [if_pos hplace, if_pos hplace, ← hplace, reread_rest_ne_iff]
      simp
    · rw [if_neg hplace, if_neg hplace]
      simp

/-- A last line without a line end of which formatting leaves nothing is not read again. -/
example : (ofText " rt\n  ".toList).lines.length = 2 ∧
    (ofText ((ofText " rt\n  ".toList).formatted {} .whole).written).lines.length = 1 := by
  decide +kernel

end Formatted

/-! ## Main statement -/

/-- A file is read again as it was, and written again as it was, unless it has a line that ends in
a carriage return and is written with a bare line feed. Then each such line is read with one carriage
return less, and all else is as it was. Reading and writing come to rest in any case. -/
theorem ofText_written_eq_iff (body : Text) :
    let f := ofText body
    let g := ofText f.written
    (g = f ↔ ¬f.StrayReturn) ∧
      (g.written = f.written ↔ ¬f.StrayReturn) ∧
      g = f.reread ∧ g.lineEnd = f.lineEnd ∧ g.finalEnd = f.finalEnd ∧
      ∃ n, ∀ k, rewritten^[n + k] body = rewritten^[n] body := by
  intro f g
  exact ⟨ofText_rewritten_eq_iff body, rewritten_rewritten_iff body, ofText_rewritten body,
    lineEnd_ofText_rewritten body, finalEnd_ofText_rewritten body,
    exists_rewritten_iterate_eq body⟩

/-- The second line ends in a carriage return, which the line feed behind it takes along. -/
theorem ofText_written_ne_of_two_returns :
    let f := ofText "a\nb\r\r\n".toList
    f.lines = [['a'], ['b', '\r']] ∧ (ofText f.written).lines = [['a'], ['b']] ∧
      ofText f.written ≠ f ∧ (ofText f.written).written ≠ f.written := by
  decide +kernel

end Source

end AsmFormat
