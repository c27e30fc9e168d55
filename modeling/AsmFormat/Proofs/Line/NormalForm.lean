import AsmFormat.Proofs.Line.Content
import AsmFormat.Proofs.Line.Placement

/-!
# What a layout may hold

A layout is empty only if the line is blank (`formatLine_eq_nil_iff`). It ends in no blank
(`trimEnd_formatLine`), and its blanks are spaces, those of its comment apart
(`eq_space_of_mem_front`). So a layout holds a line feed only if the line does
(`lineFeed_not_mem_formatLine`). The commas of its operands are spaced, if the settings ask for it
(`commasSpaced_writtenOperands`). `formatLine_normal` puts all of it together.
-/

set_option autoImplicit false

namespace AsmFormat

open Text

namespace Line

variable {s : Settings} {l : Line}

/-- Neither the label nor the instruction holds a blank. -/
theorem not_blank_of_mem_label_or_instruction (hl : l.WellFormed) {c : Char}
    (hc : c ∈ l.label ∨ c ∈ l.instruction) : AsmFormat.isBlank c = false := by
  cases hcode : l.hasNoCode with
  | false =>
    have hfields := isCode_of_wellFormed hl hcode
    rcases hc with hc | hc
    · exact (hfields.label_plain c hc).1
    · exact (hfields.instruction_plain c hc).1
  | true =>
    simp only [hasNoCode, Bool.and_eq_true, List.isEmpty_iff] at hcode
    rw [hcode.1.1, hcode.1.2] at hc
    exact absurd hc (by simp)

/-- The blanks of the written operands are spaces. -/
theorem eq_space_of_mem_operandField (hl : l.WellFormed) {c : Char}
    (hc : c ∈ operandField s l.operands) (hblank : AsmFormat.isBlank c = true) : c = ' ' := by
  obtain ⟨args, hargs, hjoined⟩ := exists_operands_eq hl
  rw [operandField] at hc
  split at hc
  · exact absurd hc List.not_mem_nil
  · rcases List.mem_cons.1 hc with hspace | hc
    · exact hspace
    · rw [hjoined, writtenOperands_joinWords s hargs] at hc
      have hrow : ∀ p ∈ s.cut args, IsWord p :=
        fun p hp => (Settings.isToken_of_mem_cut hargs p hp).toIsWord
      exact eq_space_of_mem_joinWords hrow hc hblank

/-- The blanks in front of a comment are spaces. -/
theorem eq_space_of_mem_front (hl : l.WellFormed) {n m : Nat} {c : Char} (hc : c ∈ front s l n m)
    (hblank : AsmFormat.isBlank c = true) : c = ' ' := by
  have hplain (h : c ∈ l.label ∨ c ∈ l.instruction) : c = ' ' := by
    rw [not_blank_of_mem_label_or_instruction hl h] at hblank
    exact Bool.noConfusion hblank
  simp only [front, List.mem_append] at hc
  rcases hc with (((hc | hc) | hc) | hc) | hc
  · exact hplain (Or.inl hc)
  · exact List.eq_of_mem_replicate hc
  · -- a blank in the spelling was in the instruction
    exact hplain (Or.inr (Settings.mem_of_mem_spell hc (by simp [isMark, hblank])))
  · exact eq_space_of_mem_operandField hl hc hblank
  · exact List.eq_of_mem_replicate hc

/-- The blanks of a layout are spaces or stand in its comment. -/
theorem eq_space_or_mem_comment (hl : l.WellFormed) {c : Char} (hc : c ∈ l.render s)
    (hblank : AsmFormat.isBlank c = true) : c = ' ' ∨ c ∈ l.comment := by
  obtain ⟨n, m, hlayout, -⟩ := exists_render_eq_front s hl
  rw [hlayout] at hc
  rcases List.mem_append.1 hc with hc | hc
  · exact Or.inl (eq_space_of_mem_front hl hc hblank)
  · exact Or.inr hc

/-- The commas of the written operands are spaced, if the settings ask for it. -/
theorem commasSpaced_writtenOperands (hl : l.WellFormed) (hs : s.spaceAfterComma = true) :
    CommasSpaced (writtenOperands s l.operands) := by
  obtain ⟨args, hargs, hjoined⟩ := exists_operands_eq hl
  rw [hjoined, writtenOperands_joinWords s hargs]
  apply commasSpaced_joinWords
  · intro p hp
    exact (Settings.isToken_of_mem_cut hargs p hp).toIsWord
  · -- the written words are pieces already
    intro p hp
    rw [Settings.cut, if_pos hs] at hp
    obtain ⟨a, -, hpa⟩ := List.mem_flatMap.1 hp
    exact clauses_of_mem_clauses hpa

/-- A layout ends in no blank. -/
theorem trimEnd_render (hl : l.WellFormed) : (l.render s).trimEnd = l.render s := by
  have hcode (hnc : l.hasNoCode = false) : (l.render s).trimEnd = l.render s := by
    have hrender : l.render s = (addComment s l.comment (renderCode s l)).trimEnd := by
      simp [render, isBlank, isWholeComment, hnc]
    rw [hrender, trimEnd_trimEnd]
  cases hl with
  | blank indented => rfl
  | comment indented htrim hopens =>
    have hne := ne_nil_of_opensComment hopens
    rw [render_comment s indented hne, trimEnd_append_of_trim_eq _ htrim hne]
  | label hw hr => exact hcode (hasNoCode_of_label hw.ne_nil)
  | labelled hw hi hargs hr => exact hcode (hasNoCode_of_label hw.ne_nil)
  | unlabelled hi hstar hknown hargs hr => exact hcode (hasNoCode_of_instruction hi.ne_nil)

/-- Only a line without fields is laid out as nothing. -/
theorem render_eq_nil_iff (hl : l.WellFormed) : l.render s = [] ↔ l.isBlank = true := by
  constructor
  · intro hnil
    cases hcode : l.hasNoCode with
    | false =>
      obtain ⟨w, ws, hwords, -⟩ := exists_words_codeText s hl hcode
      rw [render_of_code hcode (isRemark_comment hl hcode), List.append_eq_nil_iff] at hnil
      rw [hnil.1] at hwords
      exact absurd hwords (by simp)
    | true =>
      obtain ⟨n, m, hlayout, -⟩ := exists_render_eq_front s hl
      rw [hnil] at hlayout
      have hcomment : l.comment = [] := (List.append_eq_nil_iff.1 hlayout.symm).2
      rw [isBlank, hcode, hcomment]
      rfl
  · intro hblank
    rw [render, if_pos hblank]

/-- Only a text of blanks is read as a line without fields. -/
theorem isBlank_ofText_iff (raw : Text) :
    (ofText raw).isBlank = true ↔ ∀ c ∈ raw, AsmFormat.isBlank c = true := by
  constructor
  · intro hblank
    simp only [isBlank, hasNoCode, Bool.and_eq_true, List.isEmpty_iff] at hblank
    obtain ⟨hcomment, ⟨hlabel, hinstruction⟩, hoperands⟩ := hblank
    have hvisible := visible_ofText raw
    rw [fields, hcomment, hlabel, hinstruction, hoperands] at hvisible
    exact visible_eq_nil_iff.1 hvisible.symm
  · intro hblank
    rw [ofText_of_blanks hblank]
    rfl

/-! ## Where the comment comes from -/

/-- The comment is a part of the line. -/
theorem mem_of_mem_comment_ofText {raw : Text} {c : Char} (hc : c ∈ (ofText raw).comment) :
    c ∈ raw := by
  rw [ofText] at hc
  split at hc
  · exact mem_of_mem_trim hc
  · rw [(comment_indented_ofWords _ _ _).1] at hc
    exact (List.dropWhile_sublist _).subset (mem_of_mem_trim hc)

end Line

/-! ## Formatted lines -/

theorem trimEnd_formatLine (s : Settings) (raw : Text) :
    (formatLine s raw).trimEnd = formatLine s raw :=
  Line.trimEnd_render (Line.ofText_wellFormed raw)

/-- The last character of a formatted line is not blank. -/
theorem isBlank_of_getLast?_formatLine {s : Settings} {raw : Text} {c : Char}
    (hc : (formatLine s raw).getLast? = some c) : isBlank c = false :=
  isBlank_getLast_of_trimEnd_eq (trimEnd_formatLine s raw) hc

/-- Formatting makes no second line of a line. -/
theorem lineFeed_not_mem_formatLine (s : Settings) {raw : Text} (h : '\n' ∉ raw) :
    '\n' ∉ formatLine s raw := by
  intro hmem
  have hwf := Line.ofText_wellFormed raw
  rcases Line.eq_space_or_mem_comment hwf hmem rfl with hspace | hcomment
  · exact absurd hspace (by decide)
  · exact h (Line.mem_of_mem_comment_ofText hcomment)

/-- Only a line of blanks is formatted to nothing. -/
theorem formatLine_eq_nil_iff (s : Settings) (raw : Text) :
    formatLine s raw = [] ↔ ∀ c ∈ raw, isBlank c = true := by
  rw [formatLine, Line.render_eq_nil_iff (Line.ofText_wellFormed raw), Line.isBlank_ofText_iff]

theorem formatLine_nil (s : Settings) : formatLine s [] = [] :=
  (formatLine_eq_nil_iff s []).2 fun _ hc => absurd hc List.not_mem_nil

/-- A formatted line is in normal form. It is empty exactly if the line was blank, and it ends in no
blank. It is made of the fields, and in front of the comment all blanks are spaces. If the settings
ask for it, each comma of the operands is followed by one space and a character that is not blank,
unless it ends them. A line feed can only come from the comment. -/
theorem formatLine_normal (s : Settings) (raw : Text) :
    (formatLine s raw = [] ↔ ∀ c ∈ raw, isBlank c = true) ∧
      (∀ c, (formatLine s raw).getLast? = some c → isBlank c = false) ∧
      (∃ n m : Nat,
        formatLine s raw = Line.front s (Line.ofText raw) n m ++ (Line.ofText raw).comment ∧
        ∀ c ∈ Line.front s (Line.ofText raw) n m, isBlank c = true → c = ' ') ∧
      (s.spaceAfterComma = true →
        CommasSpaced (Line.writtenOperands s (Line.ofText raw).operands)) ∧
      ('\n' ∈ formatLine s raw → '\n' ∈ (Line.ofText raw).comment) ∧
      ('\n' ∉ raw → '\n' ∉ formatLine s raw) := by
  have hwf := Line.ofText_wellFormed raw
  refine ⟨formatLine_eq_nil_iff s raw, fun c => isBlank_of_getLast?_formatLine, ?_,
    Line.commasSpaced_writtenOperands hwf, ?_, lineFeed_not_mem_formatLine s⟩
  · obtain ⟨n, m, hlayout, -⟩ := Line.exists_render_eq_front s hwf
    exact ⟨n, m, hlayout, fun c hc hblank => Line.eq_space_of_mem_front hwf hc hblank⟩
  · intro hfeed
    rcases Line.eq_space_or_mem_comment hwf hfeed rfl with hspace | hcomment
    · exact absurd hspace (by decide)
    · exact hcomment

/-- Two commas, the second of which ends the code, and a line feed in the comment. -/
theorem formatLine_normal_of_two_commas :
    CommasSpaced "a, b,".toList ∧
      isBlank 'y' = false ∧
      '\n' ∈ (Line.ofText "go\tmov a,b, ;x\ny".toList).comment ∧
      '\n' ∉ formatLine {} "go\tmov a,b,".toList := by
  obtain ⟨-, hlast, -, hcommas, hfeed, -⟩ := formatLine_normal {} "go\tmov a,b, ;x\ny".toList
  obtain ⟨-, -, -, -, -, hone⟩ := formatLine_normal {} "go\tmov a,b,".toList
  have hwritten : Line.writtenOperands {} (Line.ofText "go\tmov a,b, ;x\ny".toList).operands =
      "a, b,".toList := by
    decide +kernel
  refine ⟨?_, hlast 'y' (by decide +kernel), hfeed (by decide +kernel), hone (by decide +kernel)⟩
  rw [← hwritten]
  exact hcommas rfl

end AsmFormat
