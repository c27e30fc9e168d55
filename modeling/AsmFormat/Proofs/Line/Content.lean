import AsmFormat.Proofs.Line.Columns

/-!
# What a line says

Reading and laying out move blanks and nothing else. The visible characters of a line are those of
its fields in their order (`visible_ofText`), and so are those of its layout, with the instruction
in the spelling of the settings (`visible_render`). The comment is kept with its inner blanks, at
the end of the line (`comment_suffix_render`).
-/

set_option autoImplicit false

namespace AsmFormat.Line

open Text

variable {s : Settings} {l : Line}

/-- The fields of a line in a row. -/
def fields (l : Line) : Text :=
  l.label ++ l.instruction ++ l.operands ++ l.comment

/-- The line with its instruction as the settings spell it. -/
def spelled (s : Settings) (l : Line) : Line :=
  { l with instruction := s.spell l.instruction }

/-! ## Reading -/

/-- The words of a line stand in its fields in their order. -/
theorem visible_fields_ofWords (indented : Bool) (c : Text) {ws : List Text}
    (hws : ∀ w ∈ ws, IsWord w) :
    visible (ofWords indented c ws).fields = ws.flatten ++ visible c := by
  cases ws with
  | nil => rfl
  | cons w ws =>
    rw [List.forall_mem_cons] at hws
    obtain ⟨hw, hws⟩ := hws
    simp only [ofWords]
    split
    · simp only [fields, visible_append, hw.visible_eq, visible_joinWords hws,
        List.flatten_cons, List.nil_append]
    · cases ws with
      | nil =>
        simp only [fields, visible_append, hw.visible_eq, List.flatten_cons,
          List.flatten_nil, List.append_nil]
      | cons v ws =>
        rw [List.forall_mem_cons] at hws
        simp only [fields, visible_append, hw.visible_eq, hws.1.visible_eq,
          visible_joinWords hws.2, List.flatten_cons, List.append_assoc]

/-- Reading a line loses, repeats and moves no visible character. -/
theorem visible_ofText (raw : Text) : visible (ofText raw).fields = visible raw := by
  rw [ofText]
  split
  · simp only [fields, List.nil_append, visible_trim]
  · -- the remark loses its outer blanks, the code its blanks between the words
    have hsplit : visible raw = visible (codePart raw) ++ visible (commentPart raw) := by
      rw [← visible_append, codePart_append_commentPart]
    rw [visible_fields_ofWords _ _ fun w hw => isWord_of_mem_words hw, flatten_words, visible_trim,
      hsplit]

/-! ## Laying out -/

/-- A line with code shows its code and its comment. -/
theorem visible_render_of_code (hl : l.hasNoCode = false) (hc : IsRemark l.comment) :
    visible (l.render s) = (words (codeText s l)).flatten ++ visible l.comment := by
  obtain ⟨n, hn⟩ := exists_render_eq (s := s) hl hc
  rw [hn, visible_append, visible_append, visible_eq_nil_iff.2 isBlank_of_mem_replicate,
    List.append_nil, flatten_words]

/-- Laying out a line changes the spelling of its instruction and no other visible character. -/
theorem visible_render (hl : l.WellFormed) :
    visible (l.render s) = visible (l.spelled s).fields := by
  cases hl with
  | blank indented =>
    have hrender : render s { indented } = [] := rfl
    simp [hrender, fields, spelled]
  | @comment c indented htrim hopens =>
    rw [render_comment s indented (ne_nil_of_opensComment hopens), visible_append,
      visible_eq_nil_iff.2 isBlank_of_mem_replicate]
    simp [fields, spelled]
  | @label w c hw hc =>
    have hcode : codeText s { label := w, comment := c } = w :=
      codeText_label hw.toIsToken rfl rfl
    rw [visible_render_of_code (hasNoCode_of_label hw.ne_nil) hc, hcode, flatten_words]
    simp [fields, spelled]
  | @labelled w i c args hw hi hargs hc =>
    have hwords := words_codeText_labelled (s := s)
      (l := { label := w, instruction := i, operands := joinWords args, comment := c })
      hw.toIsToken hi hargs rfl
    have hspell := (s.isToken_spell hi).visible_eq
    rw [visible_render_of_code (hasNoCode_of_label hw.ne_nil) hc, hwords]
    simp only [fields, spelled, visible_append, List.flatten_cons, Settings.flatten_cut,
      hw.visible_eq, hspell, visible_joinWords fun a ha => (hargs a ha).toIsWord,
      List.append_assoc]
  | @unlabelled i c args indented hi hstar hknown hargs hc =>
    have hwords := words_codeText_unlabelled (s := s)
      (l := { instruction := i, operands := joinWords args, comment := c, indented })
      rfl hi hargs rfl
    have hspell := (s.isToken_spell hi).visible_eq
    rw [visible_render_of_code (hasNoCode_of_instruction hi.ne_nil) hc, hwords]
    simp only [fields, spelled, visible_append, List.flatten_cons,
      Settings.flatten_cut, hspell, visible_joinWords fun a ha => (hargs a ha).toIsWord,
      List.nil_append, List.append_assoc]

/-- A remark is kept where the line has code, and any comment is kept where it has none. -/
theorem comment_suffix_render (hl : l.WellFormed) : l.comment <:+ l.render s := by
  have hcode (m : Line) (hm : m.hasNoCode = false) (hc : IsRemark m.comment) :
      m.comment <:+ m.render s := by
    obtain ⟨n, hn⟩ := exists_render_eq (s := s) hm hc
    rw [hn]
    exact List.suffix_append _ _
  cases hl with
  | blank indented => exact List.nil_suffix
  | comment indented htrim hopens =>
    rw [render_comment s indented (ne_nil_of_opensComment hopens)]
    exact List.suffix_append _ _
  | label hw hc => exact hcode _ (hasNoCode_of_label hw.ne_nil) hc
  | labelled hw hi hargs hc => exact hcode _ (hasNoCode_of_label hw.ne_nil) hc
  | unlabelled hi hstar hknown hargs hc => exact hcode _ (hasNoCode_of_instruction hi.ne_nil) hc

/-- The spelling of an instruction differs from it only where its class is known and the settings
ask for upper case in that class. -/
theorem spell_eq_or_uppercases (s : Settings) (i : Text) :
    s.spell i = i ∨
      (classify i = .instruction ∧ s.uppercaseInstructions = true) ∨
      ((classify i).isDirective = true ∧ s.uppercaseDirectives = true) := by
  rw [Settings.spell]
  cases hc : classify i with
  | instruction =>
    cases hs : s.uppercaseInstructions <;> simp [Settings.uppercases, hs]
  | directive =>
    cases hs : s.uppercaseDirectives <;> simp [Settings.uppercases, hs, TokenClass.isDirective]
  | dotDirective =>
    cases hs : s.uppercaseDirectives <;> simp [Settings.uppercases, hs, TokenClass.isDirective]
  | unknown => exact Or.inl rfl

/-- Nothing that stands in a line is lost, repeated or moved, neither by reading it nor by
formatting it. Formatting changes the spelling of the instruction, and that only where the settings
ask for it; the comment stays as it is, with its inner blanks. -/
theorem visible_formatLine (s : Settings) (raw : Text) :
    visible raw = visible (ofText raw).fields ∧
      visible (formatLine s raw) = visible ((ofText raw).spelled s).fields ∧
      (s.spell (ofText raw).instruction = (ofText raw).instruction ∨
        (classify (ofText raw).instruction = .instruction ∧ s.uppercaseInstructions = true) ∨
        ((classify (ofText raw).instruction).isDirective = true ∧
          s.uppercaseDirectives = true)) ∧
      (ofText raw).comment <:+ formatLine s raw := by
  have hwf := ofText_wellFormed raw
  refine ⟨(visible_ofText raw).symm, visible_render hwf, ?_, comment_suffix_render hwf⟩
  exact spell_eq_or_uppercases s (ofText raw).instruction

end AsmFormat.Line
