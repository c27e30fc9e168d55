import AsmFormat.Proofs.Line.Spelling

/-!
# The columns of a laid out line

A line with code is laid out as its code, a gap, and its comment (`render_of_code`). The code is the
label, a gap, and the instruction with the words of its operands behind it, joined by single spaces
(`codeText_instruction`), or a label alone (`codeText_label`). Both gaps consist of spaces, and
`labelGap` and `commentGap` give their widths.

So the words of the code can be read off: the label, the spelled instruction and the cut operands.
-/

set_option autoImplicit false

namespace AsmFormat.Line

open Text

variable {s : Settings} {l : Line}

/-- The width of the gap between the label and the instruction. -/
def labelGap (s : Settings) (label : Text) : Nat :=
  if !label.isEmpty && s.instructionColumn.toNat ≤ label.length then 1
  else s.instructionColumn.toNat - label.length

/-- The width of the gap between code of some width and the comment. -/
def commentGap (s : Settings) (width : Nat) : Nat :=
  if width < s.commentColumn.toNat then s.commentColumn.toNat - width else 2

/-- The code of a line as it is laid out, without the blanks behind it. -/
def codeText (s : Settings) (l : Line) : Text :=
  (renderCode s l).trimEnd

theorem labelField_eq (s : Settings) (label : Text) :
    labelField s label = label ++ List.replicate (labelGap s label) ' ' := by
  rw [labelField, labelGap]
  split
  · rfl
  · rfl

/-- A label keeps its distance from the instruction. -/
theorem labelGap_pos (s : Settings) {label : Text} (h : label ≠ []) : 0 < labelGap s label := by
  have hempty : label.isEmpty = false := by simpa using h
  rw [labelGap, hempty]
  simp only [Bool.not_false, Bool.true_and, decide_eq_true_eq]
  split
  · omega
  · omega

@[simp] theorem labelGap_nil (s : Settings) : labelGap s [] = s.instructionColumn.toNat := rfl

theorem toNat_column_eq_zero_iff {c : Column} : c.toNat = 0 ↔ c = 0 := by
  rw [← UInt64.toNat_inj]
  rfl

/-! ## Code and comment -/

theorem hasNoCode_of_label (h : l.label ≠ []) : l.hasNoCode = false := by
  simp [hasNoCode, h]

theorem hasNoCode_of_instruction (h : l.instruction ≠ []) : l.hasNoCode = false := by
  simp [hasNoCode, h]

theorem isWholeComment_of_hasNoCode_eq_false (h : l.hasNoCode = false) :
    l.isWholeComment = false := by
  rw [isWholeComment, h, Bool.and_false]

theorem isBlank_of_hasNoCode_eq_false (h : l.hasNoCode = false) : l.isBlank = false := by
  rw [isBlank, h, Bool.and_false]

/-- A line with code is its code and, if there is a comment, a gap and the comment. -/
theorem render_of_code (hl : l.hasNoCode = false) (hc : IsRemark l.comment) :
    l.render s = codeText s l ++
      if l.comment = [] then []
      else List.replicate (commentGap s (codeText s l).length) ' ' ++ l.comment := by
  have hrender : l.render s = (addComment s l.comment (renderCode s l)).trimEnd := by
    simp [render, isBlank, isWholeComment, hl]
  rw [hrender, codeText, addComment]
  split
  · next hempty =>
    rw [if_pos (List.isEmpty_iff.1 hempty), List.append_nil]
  · next hempty =>
    have hne : l.comment ≠ [] := by
      intro h
      exact hempty (List.isEmpty_iff.2 h)
    rw [if_neg hne, commentGap]
    simp only []
    split
    · rw [trimEnd_append_of_trim_eq _ hc.trim_eq hne, padTo, List.append_assoc]
    · rw [trimEnd_append_of_trim_eq _ hc.trim_eq hne, List.append_assoc]
      rfl

theorem exists_render_eq (hl : l.hasNoCode = false) (hc : IsRemark l.comment) :
    ∃ n, l.render s = codeText s l ++ List.replicate n ' ' ++ l.comment := by
  rw [render_of_code hl hc]
  split
  · next hnil => exact ⟨0, by rw [hnil]; simp⟩
  · exact ⟨_, (List.append_assoc _ _ _).symm⟩

/-- Lines with the same code text and the same comment are laid out alike. -/
theorem render_congr {t : Settings} {m : Line} (hl : l.hasNoCode = false)
    (hm : m.hasNoCode = false) (hc : IsRemark l.comment) (hcomment : m.comment = l.comment)
    (hcode : codeText t m = codeText t l) : m.render t = l.render t := by
  have hc' : IsRemark m.comment := by
    rw [hcomment]
    exact hc
  rw [render_of_code hm hc', render_of_code hl hc, hcomment, hcode]

/-! ## Comments alone -/

/-- A comment alone is indented as far as the comment column, or not at all. -/
theorem render_comment (s : Settings) {c : Text} (indented : Bool) (hne : c ≠ []) :
    render s { comment := c, indented } =
      List.replicate (if indented then s.commentColumn.toNat else 0) ' ' ++ c := by
  cases indented with
  | false => simp [render, isBlank, isWholeComment, hasNoCode, hne]
  | true => simp [render, isBlank, isWholeComment, hasNoCode, hne, padTo]

/-! ## The text of the code -/

theorem codeText_label (hw : IsToken l.label) (hi : l.instruction = []) (ho : l.operands = []) :
    codeText s l = l.label := by
  have hcode : renderCode s l = l.label ++ List.replicate (labelGap s l.label) ' ' := by
    rw [renderCode, ho, hi, Settings.spell_nil, labelField_eq]
    exact List.append_nil _
  rw [codeText, hcode, trimEnd_append_blanks _ isBlank_of_mem_replicate, hw.trimEnd_eq]

theorem codeText_instruction {args : List Text} (hi : IsToken l.instruction)
    (hargs : ∀ a ∈ args, IsToken a) (ho : l.operands = joinWords args) :
    codeText s l = l.label ++ List.replicate (labelGap s l.label) ' ' ++
      joinWords (s.spell l.instruction :: s.cut args) := by
  have hspell : IsToken (s.spell l.instruction) := s.isToken_spell hi
  have htrim (u : Text) : (u ++ s.spell l.instruction).trimEnd = u ++ s.spell l.instruction := by
    rw [trimEnd_append_of_ne_nil, hspell.trimEnd_eq]
    rw [hspell.trimEnd_eq]
    exact hspell.ne_nil
  have hwords : ∀ a ∈ args, IsWord a := fun a ha => (hargs a ha).toIsWord
  rw [codeText, renderCode, ho, labelField_eq, addOperands]
  by_cases hnil : args = []
  · subst hnil
    rw [joinWords_nil, List.isEmpty_nil, if_pos rfl, htrim, Settings.cut_nil, joinWords_singleton]
  · have hcut : s.cut args ≠ [] := by
      rw [ne_eq, Settings.cut_eq_nil_iff hargs]
      exact hnil
    have hempty : (joinWords args).isEmpty = false := by
      rw [List.isEmpty_eq_false_iff]
      exact joinWords_ne_nil hwords hnil
    have hspaced := s.trimEnd_spaced_joinWords hargs
    -- the operands are not empty, so trimming does not reach the instruction
    have hrest : (s.spaced (joinWords args)).trimEnd ≠ [] := by
      rw [hspaced]
      exact joinWords_ne_nil (fun p hp => (Settings.isToken_of_mem_cut hargs p hp).toIsWord) hcut
    rw [hempty, if_neg Bool.false_ne_true, htrim, joinWords_cons _ hcut, List.append_cons,
      trimEnd_append_of_ne_nil _ hrest, hspaced]
    simp

/-! ## The words of the code -/

theorem forall_mem_spell_cut {i : Text} {args : List Text} (hi : IsToken i)
    (hargs : ∀ a ∈ args, IsToken a) : ∀ a ∈ s.spell i :: s.cut args, IsToken a := by
  rw [List.forall_mem_cons]
  exact ⟨s.isToken_spell hi, Settings.isToken_of_mem_cut hargs⟩

theorem words_codeText_labelled {args : List Text} (hw : IsToken l.label)
    (hi : IsToken l.instruction) (hargs : ∀ a ∈ args, IsToken a)
    (ho : l.operands = joinWords args) :
    words (codeText s l) = l.label :: s.spell l.instruction :: s.cut args := by
  have hrow : ∀ a ∈ s.spell l.instruction :: s.cut args, IsWord a :=
    fun a ha => (forall_mem_spell_cut hi hargs a ha).toIsWord
  -- the first space of the gap ends the label
  obtain ⟨n, hn⟩ : ∃ n, labelGap s l.label = n + 1 :=
    Nat.exists_eq_add_one_of_ne_zero (Nat.ne_of_gt (labelGap_pos s hw.ne_nil))
  rw [codeText_instruction hi hargs ho, hn, List.replicate_succ, List.append_assoc,
    List.cons_append, words_append_blank rfl, words_of_isWord hw.toIsWord,
    words_blanks_append isBlank_of_mem_replicate, words_joinWords hrow]
  rfl

theorem words_codeText_unlabelled {args : List Text} (hw : l.label = [])
    (hi : IsToken l.instruction) (hargs : ∀ a ∈ args, IsToken a)
    (ho : l.operands = joinWords args) :
    words (codeText s l) = s.spell l.instruction :: s.cut args := by
  have hrow : ∀ a ∈ s.spell l.instruction :: s.cut args, IsWord a :=
    fun a ha => (forall_mem_spell_cut hi hargs a ha).toIsWord
  rw [codeText_instruction hi hargs ho, hw, List.nil_append,
    words_blanks_append isBlank_of_mem_replicate, words_joinWords hrow]

/-- Code is made of tokens. -/
theorem exists_words_codeText (s : Settings) (hl : l.WellFormed) (hcode : l.hasNoCode = false) :
    ∃ w ws, words (codeText s l) = w :: ws ∧ ∀ a ∈ w :: ws, IsToken a := by
  cases hl with
  | blank indented => exact absurd hcode (by simp [hasNoCode])
  | comment indented htrim hopens => exact absurd hcode (by simp [hasNoCode])
  | @label w c hw hc =>
    refine ⟨w, [], ?_, by simpa using hw.toIsToken⟩
    rw [codeText_label hw.toIsToken rfl rfl, words_of_isWord hw.toIsWord]
  | @labelled w i c args hw hi hargs hc =>
    refine ⟨w, s.spell i :: s.cut args, words_codeText_labelled hw.toIsToken hi hargs rfl, ?_⟩
    exact List.forall_mem_cons.2 ⟨hw.toIsToken, forall_mem_spell_cut hi hargs⟩
  | @unlabelled i c args indented hi hstar hknown hargs hc =>
    exact ⟨s.spell i, s.cut args, words_codeText_unlabelled rfl hi hargs rfl,
      forall_mem_spell_cut hi hargs⟩

/-- Without a label the code is indented exactly if the instruction has a column other than the
first. -/
theorem startsBlank_codeText_unlabelled {args : List Text} (hw : l.label = [])
    (hi : IsToken l.instruction) (hargs : ∀ a ∈ args, IsToken a)
    (ho : l.operands = joinWords args) :
    startsBlank (codeText s l) = decide (s.instructionColumn ≠ 0) := by
  rw [codeText_instruction hi hargs ho, hw, labelGap_nil, List.nil_append]
  cases hn : s.instructionColumn.toNat with
  | zero =>
    -- the code opens with the instruction
    have hcol := toNat_column_eq_zero_iff.1 hn
    obtain ⟨c, u, hspell, hc⟩ := (s.isToken_spell hi).exists_cons
    rw [hspell, hcol]
    simp [joinWords, List.intercalate_cons_cons_left, startsBlank, hc]
  | succ n =>
    have hcol : s.instructionColumn ≠ 0 := by
      intro h
      rw [toNat_column_eq_zero_iff.2 h] at hn
      exact absurd hn (by simp)
    rw [List.replicate_succ, decide_eq_true hcol]
    rfl

end AsmFormat.Line
