import AsmFormat.Proofs.Line.Content
import AsmFormat.Proofs.Line.Reread

/-!
# Formatting a line again

A second layout leaves no trace of the first one when its flags include those of the first
(`formatLine_formatLine_of_flagsWithin`). Reading the first layout gives back the fields, and the
second spelling absorbs the first.

Formatting again with the same settings changes nothing, with one exception. At instruction column
zero a line that leans on its indentation is read with its instruction as the label and its first
operand as the instruction. The line changes exactly if the settings spell that operand in another
way (`formatLine_formatLine_iff`), and a third pass changes nothing (`formatLine_third`).
-/

set_option autoImplicit false

namespace AsmFormat

open Text

namespace Line

variable {s t : Settings} {l : Line}

/-! ## The second layout -/

/-- Fields in the spelling of the first settings have the same code under the second ones. -/
theorem codeText_of_spelled {m : Line} {args : List Text} (hflags : s.FlagsWithin t)
    (hi : IsToken l.instruction) (hargs : ∀ a ∈ args, IsToken a) (ho : l.operands = joinWords args)
    (hlabel : m.label = l.label) (hinstruction : m.instruction = s.spell l.instruction)
    (hoperands : m.operands = joinWords (s.cut args)) : codeText t m = codeText t l := by
  have htoken : IsToken m.instruction := by
    rw [hinstruction]
    exact s.isToken_spell hi
  rw [codeText_instruction htoken (Settings.isToken_of_mem_cut hargs) hoperands,
    codeText_instruction hi hargs ho, hlabel, hinstruction, Settings.spell_spell hflags,
    Settings.cut_cut hflags]

/-- A comment alone is laid out as if its first layout had not been. Only a first comment column of
zero could hide that it was indented. -/
theorem render_ofText_render_comment {c : Text} (indented : Bool) (htrim : c.trim = c)
    (hopens : opensComment c = true) (hcomment : s.commentColumn = 0 → t.commentColumn = 0) :
    (ofText (render s { comment := c, indented })).render t =
      render t { comment := c, indented } := by
  rw [ofText_render_comment s indented htrim hopens]
  by_cases hcol : s.commentColumn = 0
  · -- neither layout indents the comment
    have hne : c ≠ [] := ne_nil_of_opensComment hopens
    have hzero : t.commentColumn.toNat = 0 := by
      rw [hcomment hcol]
      rfl
    rw [render_comment t _ hne, render_comment t _ hne, hzero, ite_self, ite_self]
  · have hindented : (indented && decide (s.commentColumn ≠ 0)) = indented := by
      rw [decide_eq_true hcol, Bool.and_true]
    rw [hindented]

/-- A layout is read again and laid out as the line itself would be. -/
theorem render_ofText_render (hl : l.WellFormed) (hflags : s.FlagsWithin t)
    (hcomment : s.commentColumn = 0 → t.commentColumn = 0)
    (hneeds : ¬(s.instructionColumn = 0 ∧ l.NeedsIndent)) :
    (ofText (l.render s)).render t = l.render t := by
  cases hl with
  | blank indented =>
    rw [ofText_render_blank]
    rfl
  | comment indented htrim hopens =>
    exact render_ofText_render_comment indented htrim hopens hcomment
  | label hw hc =>
    rw [ofText_render_label s hw hc]
  | labelled hw hi hargs hc =>
    rw [ofText_render_labelled s hw hi hargs hc]
    refine render_congr (hasNoCode_of_label hw.ne_nil) (hasNoCode_of_label hw.ne_nil) hc rfl ?_
    exact codeText_of_spelled hflags hi hargs rfl rfl rfl rfl
  | @unlabelled i c args indented hi hstar hknown hargs hc =>
    have hcond : s.instructionColumn ≠ 0 ∨ (classify i).isKnown = true :=
      column_ne_zero_or_isKnown rfl hi.ne_nil hneeds
    rw [ofText_render_unlabelled s indented hi hstar hargs hc, ofWords_spell_of_known hcond]
    refine render_congr (hasNoCode_of_instruction hi.ne_nil)
      (hasNoCode_of_instruction (s.isToken_spell hi).ne_nil) hc rfl ?_
    exact codeText_of_spelled hflags hi hargs rfl rfl rfl rfl

/-! ## Lines whose indentation is lost -/

/-- The first word of the operands as they are written. -/
def leadingOperand (s : Settings) (l : Line) : Option Text :=
  (words (s.spaced l.operands)).head?

theorem leadingOperand_eq {args : List Text} (hargs : ∀ a ∈ args, IsToken a)
    (ho : l.operands = joinWords args) : leadingOperand s l = (s.cut args).head? := by
  have hwords : ∀ p ∈ s.cut args, IsWord p :=
    fun p hp => (Settings.isToken_of_mem_cut hargs p hp).toIsWord
  rw [leadingOperand, ho, ← words_trimEnd, s.trimEnd_spaced_joinWords hargs, words_joinWords hwords]

/-- An instruction alone in the first column is laid out as a label alone. -/
theorem render_label_alone {i c : Text} {args : List Text} (indented : Bool) (hi : IsToken i)
    (hspell : s.spell i = i) (hargs : ∀ a ∈ args, IsToken a) (hc : IsRemark c)
    (hcol : s.instructionColumn = 0) (hcut : s.cut args = []) :
    render s { label := i, comment := c } =
      render s { instruction := i, operands := joinWords args, comment := c, indented } := by
  refine render_congr (hasNoCode_of_instruction hi.ne_nil) (hasNoCode_of_label hi.ne_nil) hc rfl ?_
  rw [codeText_label hi rfl rfl, codeText_instruction hi hargs rfl, labelGap_nil, hcol, hcut]
  simp [hspell]

/-- When the instruction moves to the label and the first operand to the instruction, the layout
stays as it is exactly if the operand is spelled the same as an instruction. -/
theorem render_label_and_operand_iff {i w c : Text} {args ws : List Text} (indented : Bool)
    (hi : IsToken i) (hspell : s.spell i = i) (hargs : ∀ a ∈ args, IsToken a) (hc : IsRemark c)
    (hcol : s.instructionColumn = 0) (hcut : s.cut args = w :: ws) :
    render s { label := i, instruction := w, operands := joinWords ws, comment := c } =
        render s { instruction := i, operands := joinWords args, comment := c, indented } ↔
      s.spell w = w := by
  have htokens : ∀ p ∈ w :: ws, IsToken p := by
    rw [← hcut]
    exact Settings.isToken_of_mem_cut hargs
  obtain ⟨hw, hws⟩ := List.forall_mem_cons.1 htokens
  -- the operands behind the first one were cut already, and a second pass leaves them
  have hmem : ∀ p ∈ ws, p ∈ s.cut args := by
    intro p hp
    rw [hcut]
    exact List.mem_cons_of_mem w hp
  have hcutws : s.cut ws = ws := Settings.cut_of_forall_mem_cut hmem
  constructor
  · intro h
    have hlabelled := words_codeText_labelled (s := s)
      (l := { label := i, instruction := w, operands := joinWords ws, comment := c }) hi hw hws rfl
    have hunlabelled := words_codeText_unlabelled (s := s)
      (l := { instruction := i, operands := joinWords args, comment := c, indented })
      rfl hi hargs rfl
    -- both layouts show the same characters, and all but the operand agree
    have hvisible := congrArg visible h
    rw [visible_render_of_code (hasNoCode_of_label hi.ne_nil) hc,
      visible_render_of_code (hasNoCode_of_instruction hi.ne_nil) hc, hlabelled, hunlabelled,
      hcut, hcutws, hspell] at hvisible
    simpa using hvisible
  · intro hspellw
    refine render_congr (hasNoCode_of_instruction hi.ne_nil) (hasNoCode_of_label hi.ne_nil) hc rfl ?_
    have hgap : labelGap s i = 1 := by
      simp [labelGap, hi.ne_nil, hcol]
    rw [codeText_instruction hw hws rfl, codeText_instruction hi hargs rfl, labelGap_nil, hcol,
      hcut, hcutws, hspell, hspellw, hgap, joinWords_cons i (List.cons_ne_nil w ws)]
    simp

/-- A line that loses its indentation stays as it is exactly if its first operand is spelled the
same as an instruction. -/
theorem render_ofText_render_iff (hl : l.WellFormed) (hcol : s.instructionColumn = 0)
    (hneeds : l.NeedsIndent) :
    (ofText (l.render s)).render s = l.render s ↔
      ∀ w, leadingOperand s l = some w → s.spell w = w := by
  obtain ⟨hlabel, hinstruction, hunknown⟩ := hneeds
  cases hl with
  | blank indented => exact absurd rfl hinstruction
  | comment indented htrim hopens => exact absurd rfl hinstruction
  | label hw hc => exact absurd rfl hinstruction
  | labelled hw hi hargs hc => exact absurd hlabel hw.ne_nil
  | @unlabelled i c args indented hi hstar hknown hargs hc =>
    have hspell : s.spell i = i := s.spell_of_unknown hunknown
    rw [ofText_render_unlabelled s indented hi hstar hargs hc,
      ofWords_spell_of_unknown hcol hunknown, leadingOperand_eq hargs rfl]
    cases hcut : s.cut args with
    | nil =>
      have hsame := render_label_alone indented hi hspell hargs hc hcol hcut
      simp [hsame]
    | cons w ws =>
      have hiff := render_label_and_operand_iff indented hi hspell hargs hc hcol hcut
      simpa using hiff

end Line

open Line

variable {s t : Settings}

/-! ## Formatting -/

/-- A layout leaves no trace of an earlier one whose columns were not zero and whose flags were
among its own. -/
theorem formatLine_formatLine_of_flagsWithin (s t : Settings) (raw : Text)
    (hinstruction : 1 ≤ s.instructionColumn) (hcomment : 1 ≤ s.commentColumn)
    (hflags : s.FlagsWithin t) : formatLine t (formatLine s raw) = formatLine t raw := by
  have hne {c : Column} (hc : 1 ≤ c) : c ≠ 0 := by
    rintro rfl
    exact absurd hc (by decide)
  refine render_ofText_render (ofText_wellFormed raw) hflags ?_ ?_
  · intro hzero
    exact absurd hzero (hne hcomment)
  · rintro ⟨hzero, -⟩
    exact hne hinstruction hzero

/-- A first layout in narrow columns and without upper case leaves no trace in the second one. -/
theorem formatLine_wide_of_narrow :
    Settings.FlagsWithin
        { instructionColumn := 1, commentColumn := 2, uppercaseInstructions := false }
        { instructionColumn := 4, commentColumn := 12 } ∧
      formatLine { instructionColumn := 4, commentColumn := 12 }
          (formatLine { instructionColumn := 1, commentColumn := 2, uppercaseInstructions := false }
            "go\tmov a,b,;x".toList) =
        "go  MOV a, b,  ;x".toList := by
  have hflags : Settings.FlagsWithin
      { instructionColumn := 1, commentColumn := 2, uppercaseInstructions := false }
      { instructionColumn := 4, commentColumn := 12 } := by
    intro f _
    cases f <;> rfl
  refine ⟨hflags, ?_⟩
  rw [formatLine_formatLine_of_flagsWithin _ _ _ (by decide) (by decide) hflags]
  decide +kernel

/-- A line that does not lose its indentation is laid out once and for all. -/
theorem formatLine_formatLine {raw : Text}
    (h : ¬(s.instructionColumn = 0 ∧ leansOnIndent raw = true)) :
    formatLine s (formatLine s raw) = formatLine s raw := by
  rw [leansOnIndent_iff] at h
  exact render_ofText_render (ofText_wellFormed raw) (Settings.FlagsWithin.refl s) id h

/-- Formatting twice is formatting once, except exactly where the instruction column is zero, the
line leans on its indentation, and its first operand would be spelled otherwise as an
instruction. -/
theorem formatLine_formatLine_iff (s : Settings) (raw : Text) :
    formatLine s (formatLine s raw) = formatLine s raw ↔
      ¬(s.instructionColumn = 0 ∧ leansOnIndent raw = true ∧
        ∃ w, leadingOperand s (ofText raw) = some w ∧ s.spell w ≠ w) := by
  by_cases hlost : s.instructionColumn = 0 ∧ leansOnIndent raw = true
  · obtain ⟨hcol, hlean⟩ := hlost
    have hneeds := (leansOnIndent_iff raw).1 hlean
    have hiff := render_ofText_render_iff (ofText_wellFormed raw) hcol hneeds
    rw [formatLine, formatLine, hiff]
    simp [hcol, hlean]
  · refine iff_of_true (formatLine_formatLine hlost) ?_
    rintro ⟨hcol, hlean, -⟩
    exact hlost ⟨hcol, hlean⟩

/-- At instruction column zero a listed name behind an unlisted mnemonic changes its case in the
second pass. -/
theorem formatLine_formatLine_indented_foo :
    formatLine { instructionColumn := 0 } " foo mov".toList = "foo mov".toList ∧
      formatLine { instructionColumn := 0 }
          (formatLine { instructionColumn := 0 } " foo mov".toList) = "foo MOV".toList ∧
      ¬∀ (s : Settings) (raw : Text), formatLine s (formatLine s raw) = formatLine s raw := by
  have honce : formatLine { instructionColumn := 0 } " foo mov".toList = "foo mov".toList := by
    decide +kernel
  have htwice : formatLine { instructionColumn := 0 } "foo mov".toList = "foo MOV".toList := by
    decide +kernel
  refine ⟨honce, ?_, ?_⟩
  · rw [honce]
    exact htwice
  · intro h
    have hsame := h { instructionColumn := 0 } " foo mov".toList
    rw [honce, htwice] at hsame
    exact absurd hsame (by decide)

/-- A third pass changes nothing. -/
theorem formatLine_third (s : Settings) (raw : Text) :
    formatLine s (formatLine s (formatLine s raw)) = formatLine s (formatLine s raw) := by
  by_cases hlost : s.instructionColumn = 0 ∧ leansOnIndent raw = true
  · -- the first pass made the instruction a label, so the second one has no indentation to lose
    obtain ⟨hcol, hlean⟩ := hlost
    have hneeds := (leansOnIndent_iff raw).1 hlean
    have hlabel := label_ofText_render (ofText_wellFormed raw) hcol hneeds
    apply formatLine_formatLine
    rw [leansOnIndent_iff]
    rintro ⟨-, hnone, -⟩
    exact hneeds.2.1 (hlabel.symm.trans hnone)
  · rw [formatLine_formatLine hlost, formatLine_formatLine hlost]

end AsmFormat
