import AsmFormat.Proofs.Line.Columns

/-!
# A laid out line read again

Reading undoes the layout. A laid out line is read as the fields it was made of, the instruction and
the operands in the spelling of the settings (`KeepsFields`).

There is one exception. A line that is indented and opens with a word outside the vocabulary has no
label only because it is indented (`leansOnIndent`). With the instruction column at zero the layout
takes the indentation away, and the instruction is read as a label.
-/

set_option autoImplicit false

namespace AsmFormat.Line

open Text

variable {s : Settings} {l : Line}

/-! ## The five shapes -/

/-- The words of a laid out code are read again, in front of the comment. -/
theorem ofText_render_of_code {w : Text} {ws : List Text} (hl : l.hasNoCode = false)
    (hc : IsRemark l.comment) (hwords : words (codeText s l) = w :: ws)
    (htokens : ∀ a ∈ w :: ws, IsToken a) (hstar : w.head? ≠ some '*') :
    ofText (l.render s) = ofWords (startsBlank (codeText s l)) l.comment (w :: ws) := by
  obtain ⟨n, hn⟩ := exists_render_eq (s := s) hl hc
  rw [hn, ofText_append hwords htokens hstar hc]

theorem ofText_render_blank (s : Settings) (indented : Bool) :
    ofText (render s { indented }) = {} := by
  rfl

/-- A comment alone stays one. It stays indented unless the comment column is zero. -/
theorem ofText_render_comment (s : Settings) {c : Text} (indented : Bool) (htrim : c.trim = c)
    (hopens : opensComment c = true) :
    ofText (render s { comment := c, indented }) =
      { comment := c, indented := indented && decide (s.commentColumn ≠ 0) } := by
  have hne : c ≠ [] := ne_nil_of_opensComment hopens
  -- spaces before the comment are all that can tell the layouts apart
  have hread (n : Nat) : ofText (List.replicate n ' ' ++ c) =
      { comment := c, indented := decide (n ≠ 0) } := by
    have halone := ofText_comment_alone (u := []) (isBlank_of_mem_replicate (n := n)) (by simp)
      htrim hopens
    rw [List.append_nil] at halone
    rw [halone]
    cases n with
    | zero => rfl
    | succ n => rfl
  rw [render_comment s indented hne, hread]
  cases indented with
  | false => rfl
  | true => simp only [if_true, ne_eq, toNat_column_eq_zero_iff, Bool.true_and]

theorem ofText_render_label {w c : Text} (s : Settings) (hw : IsLabel w) (hc : IsRemark c) :
    ofText (render s { label := w, comment := c }) = { label := w, comment := c } := by
  have hcode : codeText s { label := w, comment := c } = w := codeText_label hw.toIsToken rfl rfl
  have hwords : words (codeText s { label := w, comment := c }) = [w] := by
    rw [hcode, words_of_isWord hw.toIsWord]
  have hstarts : startsBlank w = false := by
    have h := hw.startsBlank_append []
    rwa [List.append_nil] at h
  rw [ofText_render_of_code (hasNoCode_of_label hw.ne_nil) hc hwords
    (by simpa using hw.toIsToken) hw.no_asterisk, hcode, hstarts, ofWords, hw.unknown]
  rfl

theorem ofText_render_labelled {w i c : Text} {args : List Text} (s : Settings) (hw : IsLabel w)
    (hi : IsToken i) (hargs : ∀ a ∈ args, IsToken a) (hc : IsRemark c) :
    ofText (render s { label := w, instruction := i, operands := joinWords args, comment := c }) =
      { label := w, instruction := s.spell i, operands := joinWords (s.cut args), comment := c } := by
  have hwords := words_codeText_labelled (s := s)
    (l := { label := w, instruction := i, operands := joinWords args, comment := c })
    hw.toIsToken hi hargs rfl
  have htokens : ∀ a ∈ w :: s.spell i :: s.cut args, IsToken a :=
    List.forall_mem_cons.2 ⟨hw.toIsToken, forall_mem_spell_cut hi hargs⟩
  have hstarts : startsBlank (codeText s
      { label := w, instruction := i, operands := joinWords args, comment := c }) = false := by
    rw [codeText_instruction hi hargs rfl, List.append_assoc]
    exact hw.startsBlank_append _
  rw [ofText_render_of_code (hasNoCode_of_label hw.ne_nil) hc hwords htokens hw.no_asterisk,
    hstarts, ofWords, hw.unknown]
  rfl

/-- Without a label the words of the code are read by themselves. -/
theorem ofText_render_unlabelled {i c : Text} {args : List Text} (s : Settings) (indented : Bool)
    (hi : IsToken i) (hstar : i.head? ≠ some '*') (hargs : ∀ a ∈ args, IsToken a)
    (hc : IsRemark c) :
    ofText (render s { instruction := i, operands := joinWords args, comment := c, indented }) =
      ofWords (decide (s.instructionColumn ≠ 0)) c (s.spell i :: s.cut args) := by
  have hwords := words_codeText_unlabelled (s := s)
    (l := { instruction := i, operands := joinWords args, comment := c, indented }) rfl hi hargs rfl
  rw [ofText_render_of_code (hasNoCode_of_instruction hi.ne_nil) hc hwords
    (forall_mem_spell_cut hi hargs) (s.head?_spell_ne_asterisk hstar),
    startsBlank_codeText_unlabelled rfl hi hargs rfl]

/-- Where the column or the vocabulary tells that there is no label, the words are an instruction
and its operands. -/
theorem ofWords_spell_of_known {i c : Text} {args : List Text}
    (h : s.instructionColumn ≠ 0 ∨ (classify i).isKnown = true) :
    ofWords (decide (s.instructionColumn ≠ 0)) c (s.spell i :: s.cut args) =
      { instruction := s.spell i, operands := joinWords (s.cut args), comment := c,
        indented := decide (s.instructionColumn ≠ 0) } := by
  have hcond : (decide (s.instructionColumn ≠ 0) || (classify (s.spell i)).isKnown) = true := by
    rw [Settings.classify_spell, Bool.or_eq_true, decide_eq_true_eq]
    exact h
  simp only [ofWords, hcond, if_true]

/-- Where neither of them does, the first word is read as a label. -/
theorem ofWords_spell_of_unknown {i c : Text} {args : List Text} (hcol : s.instructionColumn = 0)
    (hi : (classify i).isKnown = false) :
    ofWords (decide (s.instructionColumn ≠ 0)) c (s.spell i :: s.cut args) =
      match s.cut args with
      | [] => { label := i, comment := c }
      | w :: ws => { label := i, instruction := w, operands := joinWords ws, comment := c } := by
  have hcond : (decide (s.instructionColumn ≠ 0) || (classify (s.spell i)).isKnown) = false := by
    rw [Settings.classify_spell, hi, hcol]
    rfl
  rw [s.spell_of_unknown hi] at hcond ⊢
  rw [hcol] at hcond ⊢
  simp only [ofWords, hcond]
  rfl

/-! ## Lines whose indentation matters -/

/-- Whether nothing but its indentation tells that a line has no label: it is code, it opens with a
blank, and its first word is not in the vocabulary. -/
def leansOnIndent (raw : Text) : Bool :=
  startsBlank raw && !opensComment (trim raw) &&
    (words (codePart raw)).head?.any fun w => !(classify w).isKnown

/-- Whether a line has an instruction that its reader would take for a label in the first column. -/
def NeedsIndent (l : Line) : Prop :=
  l.label = [] ∧ l.instruction ≠ [] ∧ (classify l.instruction).isKnown = false

/-- A line without a label keeps its instruction by the column or by the vocabulary. -/
theorem column_ne_zero_or_isKnown (hlabel : l.label = []) (hinstruction : l.instruction ≠ [])
    (h : ¬(s.instructionColumn = 0 ∧ l.NeedsIndent)) :
    s.instructionColumn ≠ 0 ∨ (classify l.instruction).isKnown = true := by
  by_cases hcol : s.instructionColumn = 0
  · right
    rw [← Bool.not_eq_false]
    intro hunknown
    exact h ⟨hcol, hlabel, hinstruction, hunknown⟩
  · left
    exact hcol

theorem needsIndent_ofWords {indented : Bool} {c w : Text} {ws : List Text} (hw : IsWord w) :
    NeedsIndent (ofWords indented c (w :: ws)) ↔
      indented = true ∧ (classify w).isKnown = false := by
  have hne := hw.ne_nil
  simp only [ofWords, NeedsIndent]
  cases indented with
  | true => simp [hne]
  | false =>
    cases hknown : (classify w).isKnown with
    | true => simp [hne, hknown]
    | false => cases ws <;> simp [hne]

theorem leansOnIndent_iff (raw : Text) : leansOnIndent raw = true ↔ NeedsIndent (ofText raw) := by
  rw [leansOnIndent, ofText]
  cases hopen : opensComment (trim raw) with
  | true => simp [NeedsIndent]
  | false =>
    cases hwords : words (codePart raw) with
    | nil => simp [ofWords, NeedsIndent]
    | cons w ws =>
      have hw : IsWord w := isWord_of_mem_words (by rw [hwords]; exact List.mem_cons_self)
      simp [needsIndent_ofWords hw]

/-! ## The fields that are read again -/

/-- The second line has the fields of the first one, in the spelling of the settings. -/
structure KeepsFields (s : Settings) (l m : Line) : Prop where
  label : m.label = l.label
  instruction : m.instruction = s.spell l.instruction
  operands : m.operands =
    if s.spaceAfterComma then l.operands.spaceCommas.trimEnd else l.operands
  comment : m.comment = l.comment
  isWholeComment : m.isWholeComment = l.isWholeComment
  isBlank : m.isBlank = l.isBlank

/-- With code on both sides only the four fields have to agree. -/
theorem KeepsFields.of_code {m : Line} (hl : l.hasNoCode = false) (hm : m.hasNoCode = false)
    (hlabel : m.label = l.label) (hinstruction : m.instruction = s.spell l.instruction)
    (hoperands : m.operands =
      if s.spaceAfterComma then l.operands.spaceCommas.trimEnd else l.operands)
    (hcomment : m.comment = l.comment) : KeepsFields s l m where
  label := hlabel
  instruction := hinstruction
  operands := hoperands
  comment := hcomment
  isWholeComment := by
    rw [isWholeComment_of_hasNoCode_eq_false hl, isWholeComment_of_hasNoCode_eq_false hm]
  isBlank := by
    rw [isBlank_of_hasNoCode_eq_false hl, isBlank_of_hasNoCode_eq_false hm]

/-- A line that was laid out is read as the fields it was made of. -/
theorem keepsFields_ofText_render (hl : l.WellFormed)
    (h : ¬(s.instructionColumn = 0 ∧ l.NeedsIndent)) : KeepsFields s l (ofText (l.render s)) := by
  have hnil : s.spell [] = [] := s.spell_nil
  have hoperands : ([] : Text) = if s.spaceAfterComma then (spaceCommas []).trimEnd else [] := by
    split <;> rfl
  cases hl with
  | blank indented =>
    rw [ofText_render_blank]
    exact ⟨rfl, hnil.symm, hoperands, rfl, rfl, rfl⟩
  | comment indented htrim hopens =>
    rw [ofText_render_comment s indented htrim hopens]
    exact ⟨rfl, hnil.symm, hoperands, rfl, rfl, rfl⟩
  | label hw hc =>
    rw [ofText_render_label s hw hc]
    exact ⟨rfl, hnil.symm, hoperands, rfl, rfl, rfl⟩
  | @labelled w i c args hw hi hargs hc =>
    rw [ofText_render_labelled s hw hi hargs hc]
    exact .of_code (hasNoCode_of_label hw.ne_nil) (hasNoCode_of_label hw.ne_nil) rfl rfl
      (s.joinWords_cut hargs) rfl
  | @unlabelled i c args indented hi hstar hknown hargs hc =>
    have hcond : s.instructionColumn ≠ 0 ∨ (classify i).isKnown = true :=
      column_ne_zero_or_isKnown rfl hi.ne_nil h
    rw [ofText_render_unlabelled s indented hi hstar hargs hc, ofWords_spell_of_known hcond]
    exact .of_code (hasNoCode_of_instruction hi.ne_nil)
      (hasNoCode_of_instruction (s.isToken_spell hi).ne_nil) rfl rfl (s.joinWords_cut hargs) rfl

/-- Without its indentation such a line is read with its instruction as the label. -/
theorem label_ofText_render (hl : l.WellFormed) (hcol : s.instructionColumn = 0)
    (h : l.NeedsIndent) : (ofText (l.render s)).label = l.instruction := by
  obtain ⟨hlabel, hinstruction, hunknown⟩ := h
  cases hl with
  | blank indented => exact absurd rfl hinstruction
  | comment indented htrim hopens => exact absurd rfl hinstruction
  | label hw hc => exact absurd rfl hinstruction
  | labelled hw hi hargs hc => exact absurd hlabel hw.ne_nil
  | @unlabelled i c args indented hi hstar hknown hargs hc =>
    rw [ofText_render_unlabelled s indented hi hstar hargs hc,
      ofWords_spell_of_unknown hcol hunknown]
    split <;> rfl

/-- Formatting never moves text from one field to another, except exactly where the instruction
column is zero and the line leans on its indentation. There the instruction becomes the label. -/
theorem keepsFields_formatLine_iff (s : Settings) (raw : Text) :
    (KeepsFields s (ofText raw) (ofText (formatLine s raw)) ↔
        ¬(s.instructionColumn = 0 ∧ leansOnIndent raw = true)) ∧
      (s.instructionColumn = 0 ∧ leansOnIndent raw = true →
        (ofText raw).label = [] ∧ (ofText raw).instruction ≠ [] ∧
          (ofText (formatLine s raw)).label = (ofText raw).instruction) := by
  have hwf := ofText_wellFormed raw
  have hmoved : s.instructionColumn = 0 ∧ leansOnIndent raw = true →
      (ofText raw).label = [] ∧ (ofText raw).instruction ≠ [] ∧
        (ofText (formatLine s raw)).label = (ofText raw).instruction := by
    rintro ⟨hcol, hlean⟩
    have hneeds := (leansOnIndent_iff raw).1 hlean
    exact ⟨hneeds.1, hneeds.2.1, label_ofText_render hwf hcol hneeds⟩
  refine ⟨⟨?_, ?_⟩, hmoved⟩
  · -- the label was empty, and now it is the instruction
    intro hkeeps hlean
    obtain ⟨hlabel, hinstruction, hread⟩ := hmoved hlean
    rw [hkeeps.label, hlabel] at hread
    exact hinstruction hread.symm
  · intro hlean
    rw [leansOnIndent_iff] at hlean
    exact keepsFields_ofText_render hwf hlean

/-- An unlisted mnemonic is read as an instruction while it is indented and as a label once it
stands in the first column. -/
theorem label_formatLine_indented_go :
    leansOnIndent " go mov,r1 ;x".toList = true ∧
      (ofText " go mov,r1 ;x".toList).instruction = "go".toList ∧
      (ofText (formatLine { instructionColumn := 0 } " go mov,r1 ;x".toList)).label =
        "go".toList := by
  have hlean : leansOnIndent " go mov,r1 ;x".toList = true := by decide +kernel
  have hinstruction : (ofText " go mov,r1 ;x".toList).instruction = "go".toList := by
    decide +kernel
  obtain ⟨-, -, hlabel⟩ := (keepsFields_formatLine_iff { instructionColumn := 0 }
    " go mov,r1 ;x".toList).2 ⟨rfl, hlean⟩
  exact ⟨hlean, hinstruction, hlabel.trans hinstruction⟩

end AsmFormat.Line
