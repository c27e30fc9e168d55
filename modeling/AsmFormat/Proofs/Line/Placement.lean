import Mathlib.Data.List.Basic
import AsmFormat.Proofs.Line.Columns
import AsmFormat.Proofs.Line.Grammar

/-!
# Where the fields stand

`instructionIndex` is the column of an instruction behind a label, and `commentIndex` the column of
a comment behind code of some width. A formatted line has its fields in these columns, with one
space between the instruction and the operands and with nothing but spaces in all gaps
(`formatLine_columns`).

What stands in front of a comment is the layout of the text in front of it (`formatLine_codePart`),
so a comment has no influence on the code.
-/

set_option autoImplicit false

namespace AsmFormat.Line

open Text

variable {s : Settings} {l : Line}

/-- The column of an instruction behind a label: its own, or one space behind a label that reaches
it. -/
def instructionIndex (s : Settings) (label : Text) : Nat :=
  if label = [] ∨ label.length < s.instructionColumn.toNat then s.instructionColumn.toNat
  else label.length + 1

/-- The column of a comment behind code of some width: its own, or two spaces behind code that
reaches it. -/
def commentIndex (s : Settings) (width : Nat) : Nat :=
  if width < s.commentColumn.toNat then s.commentColumn.toNat else width + 2

/-- The operands as they are written. The space behind a last comma is not. -/
def writtenOperands (s : Settings) (operands : Text) : Text :=
  (s.spaced operands).trimEnd

/-- The operands with one space in front of them, if there are any. -/
def operandField (s : Settings) (operands : Text) : Text :=
  if operands = [] then [] else ' ' :: writtenOperands s operands

/-- The fields in front of the comment, with gaps of the given widths behind the label and in front
of the comment. -/
def front (s : Settings) (l : Line) (n m : Nat) : Text :=
  l.label ++ List.replicate n ' ' ++ s.spell l.instruction ++ operandField s l.operands ++
    List.replicate m ' '

theorem length_add_labelGap (s : Settings) (label : Text) :
    label.length + labelGap s label = instructionIndex s label := by
  rw [labelGap, instructionIndex]
  cases label with
  | nil => simp
  | cons c label =>
    have hne : c :: label ≠ [] := List.cons_ne_nil c label
    simp only [List.isEmpty_cons, Bool.not_false, Bool.true_and, decide_eq_true_eq, hne, false_or]
    split
    · next h => rw [if_neg (Nat.not_lt.2 h)]
    · next h =>
      have hlt := Nat.lt_of_not_le h
      rw [if_pos hlt, Nat.add_sub_cancel' (Nat.le_of_lt hlt)]

theorem width_add_commentGap (s : Settings) (width : Nat) :
    width + commentGap s width = commentIndex s width := by
  rw [commentGap, commentIndex]
  split
  · omega
  · rfl

/-! ## The code -/

theorem writtenOperands_joinWords (s : Settings) {args : List Text}
    (hargs : ∀ a ∈ args, IsToken a) :
    writtenOperands s (joinWords args) = joinWords (s.cut args) :=
  s.trimEnd_spaced_joinWords hargs

/-- An instruction and the words behind it are the instruction with its operand field. -/
theorem joinWords_spell_cut (s : Settings) (i : Text) {args : List Text}
    (hargs : ∀ a ∈ args, IsToken a) :
    joinWords (s.spell i :: s.cut args) = s.spell i ++ operandField s (joinWords args) := by
  have hwords : ∀ a ∈ args, IsWord a := fun a ha => (hargs a ha).toIsWord
  rw [operandField]
  by_cases hnil : args = []
  · subst hnil
    simp
  · have hcut : s.cut args ≠ [] := by
      rw [ne_eq, Settings.cut_eq_nil_iff hargs]
      exact hnil
    rw [if_neg (joinWords_ne_nil hwords hnil), writtenOperands_joinWords s hargs,
      joinWords_cons _ hcut]

/-- Code with an instruction is its label, a gap, the instruction and the operand field. -/
theorem codeText_eq {args : List Text} (hi : IsToken l.instruction) (hargs : ∀ a ∈ args, IsToken a)
    (ho : l.operands = joinWords args) :
    codeText s l = l.label ++ List.replicate (labelGap s l.label) ' ' ++ s.spell l.instruction ++
      operandField s l.operands := by
  rw [codeText_instruction hi hargs ho, joinWords_spell_cut s _ hargs, ho, ← List.append_assoc]

/-- The operands of a line are tokens joined by single spaces. -/
theorem exists_operands_eq (hl : l.WellFormed) :
    ∃ args, (∀ a ∈ args, IsToken a) ∧ l.operands = joinWords args := by
  cases hl with
  | blank indented => exact ⟨[], by simp, rfl⟩
  | comment indented htrim hopens => exact ⟨[], by simp, rfl⟩
  | label hw hc => exact ⟨[], by simp, rfl⟩
  | labelled hw hi hargs hc => exact ⟨_, hargs, rfl⟩
  | unlabelled hi hstar hknown hargs hc => exact ⟨_, hargs, rfl⟩

/-- Operands that are written open with a character that is not blank. -/
theorem exists_writtenOperands_eq (s : Settings) (hl : l.WellFormed) (ho : l.operands ≠ []) :
    ∃ c u, writtenOperands s l.operands = c :: u ∧ AsmFormat.isBlank c = false := by
  obtain ⟨args, hargs, hjoined⟩ := exists_operands_eq hl
  have hcut : s.cut args ≠ [] := by
    intro hnil
    rw [hjoined, (Settings.cut_eq_nil_iff hargs).1 hnil] at ho
    exact ho rfl
  obtain ⟨w, ws, hrow⟩ := List.exists_cons_of_ne_nil hcut
  have hw : IsToken w := by
    apply Settings.isToken_of_mem_cut hargs
    rw [hrow]
    exact List.mem_cons_self
  rw [hjoined, writtenOperands_joinWords s hargs, hrow]
  exact exists_joinWords_eq_cons hw.toIsWord ws

/-- A line is laid out as its fields in their order. The first gap leads up to the column of the
instruction. -/
theorem exists_render_eq_front (s : Settings) (hl : l.WellFormed) :
    ∃ n m : Nat, l.render s = front s l n m ++ l.comment ∧
      (l.instruction ≠ [] → l.label.length + n = instructionIndex s l.label) := by
  have hlayout (hcode : l.hasNoCode = false) (hc : IsRemark l.comment) :=
    exists_render_eq (s := s) hcode hc
  cases hl with
  | blank indented =>
    refine ⟨0, 0, ?_, fun hi => absurd rfl hi⟩
    simp [render, isBlank, hasNoCode, front, operandField]
  | comment indented htrim hopens =>
    refine ⟨0, if indented then s.commentColumn.toNat else 0, ?_, fun hi => absurd rfl hi⟩
    rw [render_comment s indented (ne_nil_of_opensComment hopens)]
    simp [front, operandField]
  | label hw hc =>
    obtain ⟨m, hm⟩ := hlayout (hasNoCode_of_label hw.ne_nil) hc
    refine ⟨0, m, ?_, fun hi => absurd rfl hi⟩
    rw [hm, codeText_label hw.toIsToken rfl rfl]
    simp [front, operandField]
  | labelled hw hi hargs hc =>
    obtain ⟨m, hm⟩ := hlayout (hasNoCode_of_label hw.ne_nil) hc
    refine ⟨_, m, ?_, fun _ => length_add_labelGap s _⟩
    rw [hm, codeText_eq hi hargs rfl]
    rfl
  | unlabelled hi hstar hknown hargs hc =>
    obtain ⟨m, hm⟩ := hlayout (hasNoCode_of_instruction hi.ne_nil) hc
    refine ⟨_, m, ?_, fun _ => length_add_labelGap s _⟩
    rw [hm, codeText_eq hi hargs rfl]
    rfl

/-! ## The comment -/

theorem isRemark_comment (hl : l.WellFormed) (hcode : l.hasNoCode = false) :
    IsRemark l.comment := by
  obtain ⟨-, -, -, -, -, hc, -⟩ := exists_codeWords_eq hl hcode
  exact hc

/-- The text in front of the comment is formatted as if there were no comment. -/
theorem formatLine_codePart {raw : Text} (hcode : (ofText raw).hasNoCode = false) :
    formatLine s (codePart raw) = codeText s (ofText raw) := by
  rcases ofText_cases raw with ⟨-, h⟩ | ⟨-, h⟩ | ⟨w, ws, hwords, htokens, hstar, h⟩
  · rw [h] at hcode
    exact absurd hcode (by simp [hasNoCode])
  · rw [h] at hcode
    exact absurd hcode (by simp [hasNoCode])
  · have hnone : IsRemark ([] : Text) := ⟨rfl, Or.inl rfl⟩
    have hread : ofText (codePart raw) = { ofText raw with comment := [] } := by
      have hplain := ofText_append_blanks (u := []) hwords htokens hstar hnone (by simp)
      rw [List.append_nil, List.append_nil, startsBlank_codePart (codePart_ne_nil_of_words hwords),
        ofWords_comment _ (trim (commentPart raw)), ← h] at hplain
      exact hplain
    have hlayout := render_of_code (s := s) (l := { ofText raw with comment := [] }) hcode hnone
    rw [if_pos rfl, List.append_nil] at hlayout
    rw [formatLine, hread, hlayout]
    rfl

/-- Code holds no semicolon, so the first one of a line opens the comment. -/
theorem semicolon_not_mem_codeText (s : Settings) (hl : l.WellFormed)
    (hcode : l.hasNoCode = false) : ';' ∉ codeText s l := by
  obtain ⟨w, ws, hwords, htokens⟩ := exists_words_codeText s hl hcode
  rw [← hwords] at htokens
  exact semicolon_not_mem_of_words htokens

/-- The first semicolon of a line with code and a comment stands behind the code and the gap. -/
theorem idxOf_semicolon {k c : Text} (hk : ';' ∉ k) (hc : IsRemark c) (hne : c ≠ []) (n : Nat) :
    (k ++ List.replicate n ' ' ++ c).idxOf ';' = k.length + n := by
  have hfront : ';' ∉ k ++ List.replicate n ' ' := by
    intro hmem
    rcases List.mem_append.1 hmem with hmem | hmem
    · exact hk hmem
    · exact absurd (List.eq_of_mem_replicate hmem) (by decide)
  obtain ⟨u, rfl⟩ := List.head?_eq_some_iff.1 (hc.opens.resolve_left hne)
  rw [List.idxOf_append_of_notMem hfront, List.idxOf_cons_self, List.length_append,
    List.length_replicate, Nat.add_zero]

/-! ## Formatted lines -/

/-- The fields of a formatted line stand in their columns. An instruction stands in its column or
one space behind its label, and its operands follow after one space. A comment stands in its column
or two spaces behind the code, and that code is formatted without regard to it. A comment alone
stands in the first column, or in the column of comments if it was indented. -/
theorem formatLine_columns (s : Settings) (raw : Text) :
    ((ofText raw).instruction ≠ [] →
      (∃ n m : Nat,
        formatLine s raw =
          (ofText raw).label ++ List.replicate n ' ' ++ s.spell (ofText raw).instruction ++
            operandField s (ofText raw).operands ++ List.replicate m ' ' ++ (ofText raw).comment ∧
        (ofText raw).label.length + n = instructionIndex s (ofText raw).label) ∧
      ((ofText raw).operands ≠ [] →
        ∃ c u, writtenOperands s (ofText raw).operands = c :: u ∧ AsmFormat.isBlank c = false)) ∧
    ((ofText raw).hasNoCode = false → (ofText raw).comment ≠ [] →
      ∃ n : Nat,
        formatLine s raw =
          formatLine s (codePart raw) ++ List.replicate n ' ' ++ (ofText raw).comment ∧
        (formatLine s raw).idxOf ';' = commentIndex s (formatLine s (codePart raw)).length) ∧
    ((ofText raw).isWholeComment = true →
      formatLine s raw =
        List.replicate (if startsBlank raw then s.commentColumn.toNat else 0) ' ' ++
          (ofText raw).comment) := by
  have hl := ofText_wellFormed raw
  refine ⟨?_, ?_, ?_⟩
  · intro hi
    obtain ⟨n, m, hlayout, hn⟩ := exists_render_eq_front s hl
    exact ⟨⟨n, m, hlayout, hn hi⟩, exists_writtenOperands_eq s hl⟩
  · intro hcode hne
    have hc := isRemark_comment hl hcode
    have hlayout := render_of_code (s := s) hcode hc
    rw [if_neg hne, ← List.append_assoc] at hlayout
    rw [formatLine_codePart hcode]
    refine ⟨commentGap s (codeText s (ofText raw)).length, hlayout, ?_⟩
    rw [formatLine, hlayout, idxOf_semicolon (semicolon_not_mem_codeText s hl hcode) hc hne,
      width_add_commentGap]
  · intro hwhole
    rcases ofText_cases raw with ⟨-, h⟩ | ⟨hopens, h⟩ | ⟨w, ws, -, htokens, -, h⟩
    · rw [h] at hwhole
      exact absurd hwhole (by simp [isWholeComment])
    · rw [formatLine, h, render_comment s _ (ne_nil_of_opensComment hopens)]
    · have hw : w ≠ [] := (htokens w List.mem_cons_self).ne_nil
      rw [h, isWholeComment_of_hasNoCode_eq_false (hasNoCode_ofWords hw)] at hwhole
      exact absurd hwhole Bool.false_ne_true

/-- A label that reaches its column, an instruction that gets longer, a last comma, and code that
reaches the comment column. The comment alone is indented. -/
theorem formatLine_columns_of_long_label :
    (ofText "löop bß a,,;x".toList).instruction = "bß".toList ∧
      (∃ n m : Nat,
        formatLine { instructionColumn := 4, commentColumn := 13 } "löop bß a,,;x".toList =
          "löop".toList ++ List.replicate n ' ' ++ "BSS".toList ++ " a, ,".toList ++
            List.replicate m ' ' ++ ";x".toList ∧
        4 + n = 5) ∧
      (formatLine { instructionColumn := 4, commentColumn := 13 } "löop bß a,,;x".toList).idxOf ';' =
        15 ∧
      formatLine { instructionColumn := 4, commentColumn := 13 } "\t* note".toList =
        List.replicate 13 ' ' ++ "* note".toList := by
  obtain ⟨hcode, hcomment, -⟩ :=
    formatLine_columns { instructionColumn := 4, commentColumn := 13 } "löop bß a,,;x".toList
  obtain ⟨⟨n, m, hline, hn⟩, -⟩ := hcode (by decide +kernel)
  obtain ⟨k, -, hindex⟩ := hcomment (by decide +kernel) (by decide +kernel)
  obtain ⟨-, -, hwhole⟩ :=
    formatLine_columns { instructionColumn := 4, commentColumn := 13 } "\t* note".toList
  have hwide : commentIndex { instructionColumn := 4, commentColumn := 13 }
      (formatLine { instructionColumn := 4, commentColumn := 13 }
        (codePart "löop bß a,,;x".toList)).length = 15 := by
    decide +kernel
  refine ⟨by decide +kernel, ⟨n, m, hline, hn⟩, hindex.trans hwide, ?_⟩
  exact hwhole (by decide +kernel)

end AsmFormat.Line
