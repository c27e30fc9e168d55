import AsmFormat.Proofs.Line.WellFormed

/-!
# The grammar of lines

A grammatical line is blank, a comment alone, or code, and `IsCode` says field by field what code
may hold. These are the well-formed lines (`wellFormed_iff_grammatical`).

A grammatical line is written with blanks in front of it, between its words, before its comment and
at its end. `Spacing` is a choice of such blanks, `Spacing.Fits` says where a line needs them and
where it may have them, and `Spacing.text` is the text. Reading a text gives a line exactly if the
line is grammatical and the text is one of its spacings (`ofText_eq_iff_grammatical`).
-/

set_option autoImplicit false

namespace AsmFormat.Line

open Text

/-! ## Grammatical lines -/

/-- A comment and nothing else. -/
structure IsComment (l : Line) : Prop where
  no_code : l.hasNoCode = true
  trim_eq : l.comment.trim = l.comment
  opens : l.comment.head? = some '*' ∨ l.comment.head? = some ';'

/-- A line with code. -/
structure IsCode (l : Line) : Prop where
  has_code : l.label ≠ [] ∨ l.instruction ≠ []
  label_plain : ∀ c ∈ l.label, AsmFormat.isBlank c = false ∧ c ≠ ';'
  instruction_plain : ∀ c ∈ l.instruction, AsmFormat.isBlank c = false ∧ c ≠ ';'
  operands_joined : ∃ args, (∀ a ∈ args, IsToken a) ∧ l.operands = joinWords args
  /-- Only an instruction has operands. -/
  operands_behind : l.instruction = [] → l.operands = []
  comment_remark : IsRemark l.comment
  /-- A label stands in the first column, and nothing else could stand there in its place. -/
  labelled : l.label ≠ [] →
    l.indented = false ∧ classify l.label = .unknown ∧ l.label.head? ≠ some '*'
  /-- Without a label the line is indented, or its instruction tells that there is none. -/
  unlabelled : l.label = [] →
    l.instruction.head? ≠ some '*' ∧
      (l.indented = true ∨ (classify l.instruction).isKnown = true)

/-- The lines that the grammar knows. -/
def Grammatical (l : Line) : Prop :=
  l.isBlank = true ∨ l.IsComment ∨ l.IsCode

theorem isCode_of_wellFormed {l : Line} (hl : l.WellFormed) (hcode : l.hasNoCode = false) :
    l.IsCode := by
  cases hl with
  | blank indented => exact absurd hcode (by simp [hasNoCode])
  | comment indented htrim hopens => exact absurd hcode (by simp [hasNoCode])
  | label hw hc =>
    exact {
      has_code := Or.inl hw.ne_nil
      label_plain := (isToken_iff.1 hw.toIsToken).2
      instruction_plain := by simp
      operands_joined := ⟨[], by simp, rfl⟩
      operands_behind := fun _ => rfl
      comment_remark := hc
      labelled := fun _ => ⟨rfl, TokenClass.isKnown_eq_false_iff.1 hw.unknown, hw.no_asterisk⟩
      unlabelled := fun h => absurd h hw.ne_nil }
  | @labelled w i c args hw hi hargs hc =>
    exact {
      has_code := Or.inl hw.ne_nil
      label_plain := (isToken_iff.1 hw.toIsToken).2
      instruction_plain := (isToken_iff.1 hi).2
      operands_joined := ⟨args, hargs, rfl⟩
      operands_behind := fun h => absurd h hi.ne_nil
      comment_remark := hc
      labelled := fun _ => ⟨rfl, TokenClass.isKnown_eq_false_iff.1 hw.unknown, hw.no_asterisk⟩
      unlabelled := fun h => absurd h hw.ne_nil }
  | @unlabelled i c args indented hi hstar hknown hargs hc =>
    exact {
      has_code := Or.inr hi.ne_nil
      label_plain := by simp
      instruction_plain := (isToken_iff.1 hi).2
      operands_joined := ⟨args, hargs, rfl⟩
      operands_behind := fun h => absurd h hi.ne_nil
      comment_remark := hc
      labelled := fun h => absurd rfl h
      unlabelled := fun _ => ⟨hstar, by simpa using hknown⟩ }

theorem wellFormed_of_isCode {l : Line} (hl : l.IsCode) : l.WellFormed := by
  obtain ⟨label, instruction, operands, comment, indented⟩ := l
  obtain ⟨args, hargs, hoperands⟩ := hl.operands_joined
  simp only at hoperands
  subst hoperands
  by_cases hlabel : label = []
  · -- what stands first is the instruction
    subst hlabel
    have hi : IsToken instruction :=
      isToken_iff.2 ⟨hl.has_code.resolve_left (fun h => h rfl), hl.instruction_plain⟩
    obtain ⟨hstar, hknown⟩ := hl.unlabelled rfl
    exact .unlabelled hi hstar (by simpa using hknown) hargs hl.comment_remark
  · obtain ⟨hindented, hunknown, hstar⟩ := hl.labelled hlabel
    simp only at hindented
    subst hindented
    have hw : IsLabel label :=
      ⟨isToken_iff.2 ⟨hlabel, hl.label_plain⟩, hstar, TokenClass.isKnown_eq_false_iff.2 hunknown⟩
    by_cases hinstruction : instruction = []
    · have hnone : joinWords args = [] := hl.operands_behind hinstruction
      rw [hinstruction, hnone]
      exact .label hw hl.comment_remark
    · exact .labelled hw (isToken_iff.2 ⟨hinstruction, hl.instruction_plain⟩) hargs
        hl.comment_remark

/-- The well-formed lines are the grammatical ones. -/
theorem wellFormed_iff_grammatical {l : Line} : l.WellFormed ↔ l.Grammatical := by
  constructor
  · intro hl
    cases hcode : l.hasNoCode with
    | false => exact Or.inr (Or.inr (isCode_of_wellFormed hl hcode))
    | true =>
      cases hl with
      | blank indented => exact Or.inl rfl
      | comment indented htrim hopens =>
        exact Or.inr (Or.inl ⟨rfl, htrim, by simpa [opensComment] using hopens⟩)
      | label hw hc => exact absurd hcode (by simp [hasNoCode, hw.ne_nil])
      | labelled hw hi hargs hc => exact absurd hcode (by simp [hasNoCode, hw.ne_nil])
      | unlabelled hi hstar hknown hargs hc => exact absurd hcode (by simp [hasNoCode, hi.ne_nil])
  · intro hl
    obtain ⟨label, instruction, operands, comment, indented⟩ := l
    rcases hl with hblank | hcomment | hcode
    · simp only [isBlank, hasNoCode, Bool.and_eq_true, List.isEmpty_iff] at hblank
      obtain ⟨rfl, ⟨rfl, rfl⟩, rfl⟩ := hblank
      exact .blank indented
    · obtain ⟨hnone, htrim, hopens⟩ := hcomment
      simp only [hasNoCode, Bool.and_eq_true, List.isEmpty_iff] at hnone
      obtain ⟨⟨rfl, rfl⟩, rfl⟩ := hnone
      exact .comment indented htrim (by simpa [opensComment] using hopens)
    · exact wellFormed_of_isCode hcode

/-! ## The words of the code -/

/-- The words of the code, in the order of the fields. -/
def codeWords (l : Line) : List Text :=
  [l.label, l.instruction].filter (fun w => !w.isEmpty) ++ words l.operands

/-- The words that are read are the words of the code. -/
theorem codeWords_ofWords {indented : Bool} {c : Text} {ws : List Text}
    (hws : ∀ w ∈ ws, IsWord w) : (ofWords indented c ws).codeWords = ws := by
  cases ws with
  | nil => rfl
  | cons w ws =>
    rw [List.forall_mem_cons] at hws
    have hw := hws.1.ne_nil
    simp only [ofWords]
    split
    · simp [codeWords, hw, words_joinWords hws.2]
    · cases ws with
      | nil => simp [codeWords, hw]
      | cons i args =>
        have hargs := List.forall_mem_cons.1 hws.2
        simp [codeWords, hw, hargs.1.ne_nil, words_joinWords hargs.2]

/-- The words of code are read as the fields they are taken from. -/
theorem exists_codeWords_eq {l : Line} (hl : l.WellFormed) (hcode : l.hasNoCode = false) :
    ∃ w ws, l.codeWords = w :: ws ∧ (∀ a ∈ w :: ws, IsToken a) ∧ w.head? ≠ some '*' ∧
      IsRemark l.comment ∧ ofWords l.indented l.comment (w :: ws) = l := by
  cases hl with
  | blank indented => exact absurd hcode (by simp [hasNoCode])
  | comment indented htrim hopens => exact absurd hcode (by simp [hasNoCode])
  | @label w c hw hc =>
    refine ⟨w, [], ?_, ?_, hw.no_asterisk, hc, ?_⟩
    · simp [codeWords, hw.ne_nil]
    · simpa using hw.toIsToken
    · simp [ofWords, hw.unknown]
  | @labelled w i c args hw hi hargs hc =>
    refine ⟨w, i :: args, ?_, ?_, hw.no_asterisk, hc, ?_⟩
    · have hwords := words_joinWords fun a ha => (hargs a ha).toIsWord
      simp [codeWords, hw.ne_nil, hi.ne_nil, hwords]
    · exact List.forall_mem_cons.2 ⟨hw.toIsToken, List.forall_mem_cons.2 ⟨hi, hargs⟩⟩
    · simp [ofWords, hw.unknown]
  | @unlabelled i c args indented hi hstar hknown hargs hc =>
    refine ⟨i, args, ?_, List.forall_mem_cons.2 ⟨hi, hargs⟩, hstar, hc, ?_⟩
    · have hwords := words_joinWords fun a ha => (hargs a ha).toIsWord
      simp [codeWords, hi.ne_nil, hwords]
    · simp only [ofWords, hknown, if_true]

/-! ## Spacings -/

/-- A choice of blanks for a line. -/
structure Spacing where
  /-- In front of the code, or of a comment alone. -/
  lead : Text
  /-- Between neighbours among the words of the code. -/
  between : List Text
  /-- Between the code and its comment. -/
  gap : Text
  /-- At the end of the line. -/
  tail : Text

namespace Spacing

/-- Whether the blanks are what a line needs: they indent it if it is indented, and they keep its
words apart. A line without code has no gap, and a blank line is its lead. -/
structure Fits (g : Spacing) (l : Line) : Prop where
  lead_blank : ∀ c ∈ g.lead, AsmFormat.isBlank c = true
  between_gaps : AreGaps g.between
  gap_blank : ∀ c ∈ g.gap, AsmFormat.isBlank c = true
  tail_blank : ∀ c ∈ g.tail, AsmFormat.isBlank c = true
  lead_ne_nil_iff : g.lead ≠ [] ↔ l.indented = true
  length_between : g.between.length = l.codeWords.length - 1
  gap_eq_nil : l.hasNoCode = true → g.gap = []
  tail_eq_nil : l.isBlank = true → g.tail = []

/-- The line with these blanks. -/
def text (g : Spacing) (l : Line) : Text :=
  g.lead ++ weave g.between l.codeWords ++ g.gap ++ l.comment ++ g.tail

end Spacing

open Spacing

/-! ## Reading a spaced line -/

/-- A grammatical line is read from each of its spacings. -/
theorem ofText_text {l : Line} {g : Spacing} (hl : l.WellFormed) (hg : g.Fits l) :
    ofText (g.text l) = l := by
  cases hcode : l.hasNoCode with
  | false =>
    obtain ⟨w, ws, hwords, htokens, hstar, hc, hfields⟩ := exists_codeWords_eq hl hcode
    have hrow : ∀ a ∈ l.codeWords, IsWord a := by
      rw [hwords]
      exact fun a ha => (htokens a ha).toIsWord
    have hread : words (g.lead ++ weave g.between l.codeWords ++ g.gap) = w :: ws := by
      rw [words_append_blanks _ hg.gap_blank, words_blanks_append hg.lead_blank,
        words_weave hg.between_gaps hrow hg.length_between, hwords]
    -- the first word shows whether there is a lead
    have hstarts : startsBlank (g.lead ++ weave g.between l.codeWords ++ g.gap) = l.indented := by
      have hw : IsWord w := (htokens w List.mem_cons_self).toIsWord
      rw [Bool.eq_iff_iff, ← hg.lead_ne_nil_iff, hwords, weave, List.append_assoc,
        List.append_assoc]
      exact startsBlank_blanks_append hg.lead_blank hw _
    rw [text, ofText_append_blanks hread htokens hstar hc hg.tail_blank, hstarts, hfields]
  | true =>
    have hgap := hg.gap_eq_nil hcode
    have hlead := hg.lead_ne_nil_iff
    cases hl with
    | blank indented =>
      have htail := hg.tail_eq_nil rfl
      have htext : g.text { indented } = g.lead := by
        simp [text, codeWords, hgap, htail]
      have hstarts : startsBlank g.lead = indented := by
        rw [Bool.eq_iff_iff, startsBlank_iff_of_blanks hg.lead_blank]
        exact hlead
      rw [htext, ofText_of_blanks hg.lead_blank, hstarts]
    | @comment c indented htrim hopens =>
      have htext : g.text { comment := c, indented } = g.lead ++ c ++ g.tail := by
        simp [text, codeWords, hgap]
      have hindented : (!g.lead.isEmpty) = indented := by
        rw [Bool.eq_iff_iff, ← hlead]
        simp
      rw [htext, ofText_comment_alone hg.lead_blank hg.tail_blank htrim hopens, hindented]
    | label hw hc => exact absurd hcode (by simp [hasNoCode, hw.ne_nil])
    | labelled hw hi hargs hc => exact absurd hcode (by simp [hasNoCode, hw.ne_nil])
    | unlabelled hi hstar hknown hargs hc => exact absurd hcode (by simp [hasNoCode, hi.ne_nil])

/-- A text with words in its code is a spacing of these words and of its comment. -/
theorem exists_spacing_ofWords {raw w : Text} {ws : List Text} {l : Line}
    (hwords : words (codePart raw) = w :: ws) (hw : IsWord w)
    (hl : l = ofWords (startsBlank raw) (trim (commentPart raw)) (w :: ws))
    (hrow : l.codeWords = w :: ws) : ∃ g : Spacing, g.Fits l ∧ g.text l = raw := by
  obtain ⟨lead, between, gap, hlead, hbetween, hgap, hlength, hcode⟩ := exists_eq_weave hwords
  obtain ⟨tail, htail, hcomment⟩ := exists_commentPart_eq raw
  have hnone : l.hasNoCode = false := by
    rw [hl]
    exact hasNoCode_ofWords hw.ne_nil
  have hfields := comment_indented_ofWords (startsBlank raw) (trim (commentPart raw)) (w :: ws)
  rw [← hl] at hfields
  refine ⟨⟨lead, between, gap, tail⟩, ?_, ?_⟩
  · exact {
      lead_blank := hlead
      between_gaps := hbetween
      gap_blank := hgap
      tail_blank := htail
      lead_ne_nil_iff := by
        -- the code opens as the line does
        have hstarts := startsBlank_codePart (codePart_ne_nil_of_words hwords)
        rw [hfields.2, ← hstarts, hcode, weave, List.append_assoc, List.append_assoc]
        exact (startsBlank_blanks_append hlead hw _).symm
      length_between := by rw [hrow]; exact hlength
      gap_eq_nil := fun hc => absurd (hc.symm.trans hnone) (by simp)
      tail_eq_nil := fun hc => by simp [isBlank, hnone] at hc }
  · calc
      lead ++ weave between l.codeWords ++ gap ++ l.comment ++ tail
      _ = (lead ++ weave between (w :: ws) ++ gap) ++ (trim (commentPart raw) ++ tail) := by
        rw [hrow, hfields.1, List.append_assoc]
      _ = codePart raw ++ commentPart raw := by rw [← hcode, ← hcomment]
      _ = raw := codePart_append_commentPart raw

/-- Every text is a spacing of the line it is read as. -/
theorem exists_spacing_text_eq (raw : Text) :
    ∃ g : Spacing, g.Fits (ofText raw) ∧ g.text (ofText raw) = raw := by
  rcases ofText_cases raw with ⟨hblank, h⟩ | ⟨hopens, h⟩ | ⟨w, ws, hwords, htokens, -, h⟩
  · -- all of a blank line is its lead
    rw [h]
    refine ⟨⟨raw, [], [], []⟩, ?_, by simp [text, codeWords]⟩
    exact {
      lead_blank := hblank
      between_gaps := by simp [AreGaps]
      gap_blank := by simp
      tail_blank := by simp
      lead_ne_nil_iff := (startsBlank_iff_of_blanks hblank).symm
      length_between := rfl
      gap_eq_nil := fun _ => rfl
      tail_eq_nil := fun _ => rfl }
  · rw [h]
    obtain ⟨lead, tail, hlead, htail, hstarts, hraw⟩ := exists_eq_append_trim_append raw
    refine ⟨⟨lead, [], [], tail⟩, ?_, by simpa [text, codeWords] using hraw.symm⟩
    exact {
      lead_blank := hlead
      between_gaps := by simp [AreGaps]
      gap_blank := by simp
      tail_blank := htail
      lead_ne_nil_iff := hstarts
      length_between := rfl
      gap_eq_nil := fun _ => rfl
      tail_eq_nil := fun hnone => absurd hnone (by simp [isBlank, ne_nil_of_opensComment hopens]) }
  · apply exists_spacing_ofWords hwords (htokens w List.mem_cons_self).toIsWord h
    rw [h]
    exact codeWords_ofWords fun a ha => (htokens a ha).toIsWord

/-- Reading accepts exactly the grammar. Every text is read as a grammatical line, indented exactly
if the text opens with a blank, and a text is read as a given line exactly if the line is
grammatical and the text is one of its spacings. -/
theorem ofText_eq_iff_grammatical (raw : Text) (l : Line) :
    (ofText raw).Grammatical ∧ ((ofText raw).indented = true ↔ startsBlank raw = true) ∧
      (ofText raw = l ↔ l.Grammatical ∧ ∃ g : Spacing, g.Fits l ∧ g.text l = raw) := by
  have hread : (ofText raw).Grammatical := wellFormed_iff_grammatical.1 (ofText_wellFormed raw)
  refine ⟨hread, ?_, ?_, ?_⟩
  · rcases ofText_cases raw with ⟨-, h⟩ | ⟨-, h⟩ | ⟨w, ws, -, -, -, h⟩
    · rw [h]
    · rw [h]
    · rw [h, (comment_indented_ofWords _ _ _).2]
  · rintro rfl
    exact ⟨hread, exists_spacing_text_eq raw⟩
  · rintro ⟨hl, g, hg, rfl⟩
    exact ofText_text (wellFormed_iff_grammatical.2 hl) hg

/-- A tab and an em space between the words, and a comment directly behind them. -/
theorem ofText_eq_iff_grammatical_of_tabs :
    ofText "go\t\tmov a,b\u2003c;x ".toList =
      { label := "go".toList, instruction := "mov".toList, operands := "a,b c".toList,
        comment := ";x".toList } := by
  obtain ⟨-, -, hread⟩ := ofText_eq_iff_grammatical "go\t\tmov a,b\u2003c;x ".toList
    { label := "go".toList, instruction := "mov".toList, operands := "a,b c".toList,
      comment := ";x".toList }
  apply hread.2
  constructor
  · refine Or.inr (Or.inr ?_)
    exact {
      has_code := Or.inl (by decide)
      label_plain := by simp; decide
      instruction_plain := by simp; decide
      operands_joined := by
        refine ⟨["a,b".toList, "c".toList], ?_, rfl⟩
        simp [isToken_iff]
        decide
      operands_behind := by decide
      comment_remark := ⟨by decide +kernel, Or.inr rfl⟩
      labelled := fun _ => ⟨rfl, by decide +kernel, by decide⟩
      unlabelled := by decide }
  · refine ⟨⟨[], ["\t\t".toList, " ".toList, "\u2003".toList], [], " ".toList⟩, ?_, rfl⟩
    exact {
      lead_blank := by simp
      between_gaps := by simp [AreGaps]; decide
      gap_blank := by simp
      tail_blank := by simp; decide
      lead_ne_nil_iff := by decide
      length_between := by decide +kernel
      gap_eq_nil := by decide
      tail_eq_nil := by decide }

end AsmFormat.Line
