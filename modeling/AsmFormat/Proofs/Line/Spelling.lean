import AsmFormat.Proofs.Line.WellFormed
import AsmFormat.Proofs.Text.Casing
import AsmFormat.Proofs.Text.Commas

/-!
# The spelling of the fields

The settings decide how the instruction and the operands are spelled. A spelling keeps the class of
the instruction (`Settings.classify_spell`) and the kind of every word, and settings whose flags
include those of others undo nothing the others did: their spelling absorbs the other one
(`Settings.spell_spell`, `Settings.cut_cut`).

`Settings.spell_keeps_token` says what a token is before and after it is spelled: whether it is one,
its class, its name in upper case and whether it opens a comment are the same.
-/

set_option autoImplicit false

namespace AsmFormat

open Text Line

/-- Whether a text is a token is told by its marks. -/
theorem Text.isToken_iff_marks {t : Text} :
    IsToken t ↔ t ≠ [] ∧ ∀ c ∈ t.filter isMark, isBlank c = false ∧ c ≠ ';' := by
  rw [isToken_iff]
  refine and_congr_right fun _ => ⟨?_, ?_⟩
  · intro hplain c hc
    exact hplain c (List.mem_filter.1 hc).1
  · intro hmarks c hc
    cases hmark : isMark c with
    | true => exact hmarks c (List.mem_filter.2 ⟨hc, hmark⟩)
    | false =>
      -- blanks and semicolons are marks
      simp only [isMark, Bool.or_eq_false_iff, beq_eq_false_iff_ne] at hmark
      exact ⟨hmark.1.1.1, hmark.1.2⟩

/-- Upper case keeps the class of a token. -/
theorem classify_upper (t : Text) : classify t.upper = classify t := by
  -- the dot is looked for in the token itself, the tables in its upper case
  have hdot : t.upper.head? = some '.' ↔ t.head? = some '.' := head?_upper_iff (by decide)
  simp only [classify, hdot, upper_upper]

namespace Settings

variable {s t : Settings}

/-- Every flag that is on in the first settings is on in the second ones. -/
def FlagsWithin (s t : Settings) : Prop :=
  ∀ f : FlagSetting, s.flag f = true → t.flag f = true

theorem FlagsWithin.refl (s : Settings) : s.FlagsWithin s :=
  fun _ h => h

theorem FlagsWithin.uppercases (h : s.FlagsWithin t) {c : TokenClass}
    (hc : s.uppercases c = true) : t.uppercases c = true := by
  cases c with
  | instruction => exact h .uppercaseInstructions hc
  | directive => exact h .uppercaseDirectives hc
  | dotDirective => exact h .uppercaseDirectives hc
  | unknown => exact absurd hc (by simp [Settings.uppercases])

/-! ## The instruction -/

theorem spell_eq_or (s : Settings) (i : Text) : s.spell i = i ∨ s.spell i = i.upper := by
  rw [spell]
  split
  · exact Or.inr rfl
  · exact Or.inl rfl

theorem spell_of_unknown (s : Settings) {i : Text} (hi : (classify i).isKnown = false) :
    s.spell i = i := by
  have h : classify i = .unknown := TokenClass.isKnown_eq_false_iff.1 hi
  rw [spell, h]
  rfl

@[simp] theorem spell_nil (s : Settings) : s.spell [] = [] :=
  s.spell_of_unknown (by rw [classify_nil]; rfl)

/-- Spelling keeps the class. -/
@[simp] theorem classify_spell (s : Settings) (i : Text) : classify (s.spell i) = classify i := by
  rcases s.spell_eq_or i with h | h
  · rw [h]
  · rw [h, classify_upper]

/-- A spelling with more flags absorbs one with fewer. -/
theorem spell_spell (h : s.FlagsWithin t) (i : Text) : t.spell (s.spell i) = t.spell i := by
  cases hs : s.uppercases (classify i) with
  | false =>
    have hspell : s.spell i = i := by simp [spell, hs]
    rw [hspell]
  | true =>
    have hspell : s.spell i = i.upper := by simp [spell, hs]
    have ht := h.uppercases hs
    rw [hspell, spell, classify_upper, if_pos ht, upper_upper, spell, if_pos ht]

/-- A spelling is the same name, whatever its case. -/
theorem upper_spell (s : Settings) (i : Text) : (s.spell i).upper = i.upper := by
  rcases s.spell_eq_or i with h | h
  · rw [h]
  · rw [h, upper_upper]

theorem spell_eq_nil_iff (s : Settings) {i : Text} : s.spell i = [] ↔ i = [] := by
  rcases s.spell_eq_or i with h | h
  · rw [h]
  · rw [h, upper_eq_nil_iff]

/-- A spelling neither brings, loses nor moves a mark. -/
theorem filter_isMark_spell (s : Settings) (i : Text) :
    (s.spell i).filter isMark = i.filter isMark := by
  rcases s.spell_eq_or i with h | h
  · rw [h]
  · rw [h, filter_isMark_upper]

/-- A spelling opens with a mark exactly if the instruction does. -/
theorem head?_spell_iff (s : Settings) {i : Text} {d : Char} (hmark : isMark d = true) :
    (s.spell i).head? = some d ↔ i.head? = some d := by
  rcases s.spell_eq_or i with h | h
  · rw [h]
  · rw [h, head?_upper_iff hmark]

/-- A spelling brings no mark into a token. -/
theorem mem_of_mem_spell {i : Text} {d : Char} (hd : d ∈ s.spell i) (hmark : isMark d = true) :
    d ∈ i := by
  have hmem : d ∈ (s.spell i).filter isMark := List.mem_filter.2 ⟨hd, hmark⟩
  rw [filter_isMark_spell] at hmem
  exact (List.mem_filter.1 hmem).1

theorem isToken_spell_iff (s : Settings) {i : Text} : IsToken (s.spell i) ↔ IsToken i := by
  rw [isToken_iff_marks, isToken_iff_marks, filter_isMark_spell, ne_eq, spell_eq_nil_iff]

theorem isToken_spell (s : Settings) {i : Text} (hi : IsToken i) : IsToken (s.spell i) :=
  s.isToken_spell_iff.2 hi

theorem head?_spell_ne_asterisk (s : Settings) {i : Text} (hi : i.head? ≠ some '*') :
    (s.spell i).head? ≠ some '*' :=
  fun hstar => hi ((s.head?_spell_iff (by decide)).1 hstar)

/-- A token is after it is spelled what it was before. Its class and its name in upper case are the
same, and spelling it again changes nothing. It is a token if and only if it was one, with neither
blanks nor semicolons in it, and it opens a comment if and only if it did. -/
theorem spell_keeps_token (s : Settings) (token : Text) :
    classify (s.spell token) = classify token ∧
      (s.spell token).upper = token.upper ∧
      s.spell (s.spell token) = s.spell token ∧
      (IsToken (s.spell token) ↔ IsToken token) ∧
      ((s.spell token).head? = some '*' ↔ token.head? = some '*') := by
  have hagain : s.spell (s.spell token) = s.spell token := spell_spell (FlagsWithin.refl s) token
  have hstar : (s.spell token).head? = some '*' ↔ token.head? = some '*' :=
    s.head?_spell_iff (by decide)
  exact ⟨s.classify_spell token, s.upper_spell token, hagain, s.isToken_spell_iff, hstar⟩

/-- The upper case of a token may be longer than the token. -/
example :
    ({} : Settings).spell "bß".toList = "BSS".toList ∧
      classify "bß".toList = .directive ∧ classify "BSS".toList = .directive := by
  decide +kernel

/-! ## The operands -/

/-- The words of the operands as they are written. -/
def cut (s : Settings) (args : List Text) : List Text :=
  if s.spaceAfterComma then args.flatMap clauses else args

@[simp] theorem cut_nil (s : Settings) : s.cut [] = [] := by
  simp [cut]

theorem isToken_of_mem_cut {args : List Text} (hargs : ∀ a ∈ args, IsToken a) :
    ∀ a ∈ s.cut args, IsToken a := by
  intro p hp
  rw [cut] at hp
  split at hp
  · obtain ⟨a, ha, hpa⟩ := List.mem_flatMap.1 hp
    have hword := isWord_of_mem_clauses (hargs a ha).not_blank hpa
    exact ⟨hword, fun h => (hargs a ha).no_semicolon (mem_of_mem_clauses hpa h)⟩
  · exact hargs p hp

/-- Cutting words loses nothing of them. -/
theorem flatten_cut (s : Settings) (args : List Text) : (s.cut args).flatten = args.flatten := by
  rw [cut]
  split
  · exact flatten_flatMap_clauses args
  · rfl

theorem cut_eq_nil_iff {args : List Text} (hargs : ∀ a ∈ args, IsToken a) :
    s.cut args = [] ↔ args = [] := by
  constructor
  · intro h
    cases args with
    | nil => rfl
    | cons a args =>
      have hflat := s.flatten_cut (a :: args)
      rw [h, List.flatten_cons] at hflat
      exact absurd (List.append_eq_nil_iff.1 hflat.symm).1 (hargs a List.mem_cons_self).ne_nil
  · rintro rfl
    exact s.cut_nil

/-- Words that come from a cut are not cut again, in any part of the row. -/
theorem cut_of_forall_mem_cut {args ps : List Text} (h : ∀ p ∈ ps, p ∈ s.cut args) :
    s.cut ps = ps := by
  rw [cut]
  split
  · next hs =>
    -- every word of the row is a piece of some word, and pieces are not cut again
    apply flatMap_clauses_eq_self
    intro p hp
    have hmem := h p hp
    rw [cut, if_pos hs] at hmem
    obtain ⟨a, -, hpa⟩ := List.mem_flatMap.1 hmem
    exact clauses_of_mem_clauses hpa
  · rfl

/-- A cut with more flags absorbs one with fewer. -/
theorem cut_cut (h : s.FlagsWithin t) (args : List Text) : t.cut (s.cut args) = t.cut args := by
  cases hs : s.spaceAfterComma with
  | false =>
    have hcut : s.cut args = args := by simp [cut, hs]
    rw [hcut]
  | true =>
    have ht : t.spaceAfterComma = true := h .spaceAfterComma hs
    have hcut : s.cut args = t.cut args := by simp [cut, hs, ht]
    rw [hcut]
    exact cut_of_forall_mem_cut fun p hp => hp

/-- The cut words joined by single spaces are the operands with their commas spaced, without the
space behind a last comma. -/
theorem joinWords_cut (s : Settings) {args : List Text} (hargs : ∀ a ∈ args, IsToken a) :
    joinWords (s.cut args) =
      if s.spaceAfterComma then (joinWords args).spaceCommas.trimEnd else joinWords args := by
  rw [cut]
  split
  · exact (trimEnd_spaceCommas_joinWords fun a ha => (hargs a ha).toIsWord).symm
  · rfl

theorem trimEnd_spaced_joinWords (s : Settings) {args : List Text}
    (hargs : ∀ a ∈ args, IsToken a) :
    (s.spaced (joinWords args)).trimEnd = joinWords (s.cut args) := by
  rw [joinWords_cut s hargs, spaced]
  split
  · rfl
  · exact trimEnd_joinWords fun a ha => (hargs a ha).toIsWord

end Settings

end AsmFormat
