import AsmFormat.Line.Reader
import AsmFormat.Proofs.Text.Words

/-!
# Well-formed lines

The lines that reading produces fall into five shapes: a blank line, a comment alone, a bare label,
and an instruction with its operands behind a label or without one. `WellFormed` lists them with
what is known of each field, and every text is read as one of them (`ofText_wellFormed`).

`ofText_cases` lists the three ways to read a text: it is blank, a comment as a whole, or code with
a remark behind it. The ways back are `ofText_of_blanks`, `ofText_comment_alone` and
`ofText_append_blanks`: whatever blanks stand around a comment alone or behind code and its remark,
it is the same line.
-/

set_option autoImplicit false

namespace AsmFormat

/-- A token: a word without the character that opens a comment. -/
structure Text.IsToken (t : Text) : Prop extends Text.IsWord t where
  no_semicolon : ';' ∉ t

/-- A token is not empty, and none of its characters is a blank or a semicolon. -/
theorem Text.isToken_iff {t : Text} :
    IsToken t ↔ t ≠ [] ∧ ∀ c ∈ t, isBlank c = false ∧ c ≠ ';' := by
  constructor
  · intro h
    refine ⟨h.ne_nil, fun c hc => ⟨h.not_blank c hc, ?_⟩⟩
    rintro rfl
    exact h.no_semicolon hc
  · rintro ⟨hne, hplain⟩
    exact ⟨⟨hne, fun c hc => (hplain c hc).1⟩, fun hsemi => (hplain ';' hsemi).2 rfl⟩

namespace Line

open Text

/-- What may stand behind code: nothing, or a trimmed text that opens as a comment. -/
structure IsRemark (c : Text) : Prop where
  trim_eq : c.trim = c
  opens : c = [] ∨ c.head? = some ';'

/-- A token that may stand as a label. -/
structure IsLabel (w : Text) : Prop extends IsToken w where
  no_asterisk : w.head? ≠ some '*'
  unknown : (classify w).isKnown = false

/-- The lines that reading produces. -/
inductive WellFormed : Line → Prop
  /-- Nothing but blanks. -/
  | blank (indented : Bool) : WellFormed { indented }
  /-- A comment and nothing else. -/
  | comment {c : Text} (indented : Bool) (htrim : c.trim = c) (hopens : opensComment c = true) :
      WellFormed { comment := c, indented }
  /-- A label that stands alone. -/
  | label {w c : Text} (hw : IsLabel w) (hc : IsRemark c) : WellFormed { label := w, comment := c }
  /-- An instruction behind a label. -/
  | labelled {w i c : Text} {args : List Text} (hw : IsLabel w) (hi : IsToken i)
      (hargs : ∀ a ∈ args, IsToken a) (hc : IsRemark c) :
      WellFormed { label := w, instruction := i, operands := joinWords args, comment := c }
  /-- An instruction without a label: the line is indented, or the instruction is known. -/
  | unlabelled {i c : Text} {args : List Text} {indented : Bool} (hi : IsToken i)
      (hstar : i.head? ≠ some '*') (hknown : (indented || (classify i).isKnown) = true)
      (hargs : ∀ a ∈ args, IsToken a) (hc : IsRemark c) :
      WellFormed { instruction := i, operands := joinWords args, comment := c, indented }

/-! ## Code and comment -/

@[simp] theorem codePart_append_commentPart (raw : Text) : codePart raw ++ commentPart raw = raw :=
  List.takeWhile_append_dropWhile

theorem ne_nil_of_opensComment {c : Text} (h : opensComment c = true) : c ≠ [] := by
  rintro rfl
  exact absurd h (by decide)

theorem semicolon_not_mem_codePart (raw : Text) : ';' ∉ codePart raw := by
  intro h
  have := List.all_eq_true.1 List.all_takeWhile ';' h
  simp at this

theorem codePart_append {k c : Text} (hk : ';' ∉ k) (hc : c = [] ∨ c.head? = some ';') :
    codePart (k ++ c) = k ∧ commentPart (k ++ c) = c := by
  have hall : ∀ d ∈ k, (d != ';') = true := by
    intro d hd
    rw [bne_iff_ne]
    rintro rfl
    exact hk hd
  rw [codePart, commentPart, List.takeWhile_append_of_pos hall, List.dropWhile_append_of_pos hall]
  cases c with
  | nil => exact ⟨List.append_nil k, rfl⟩
  | cons d c =>
    have hd : d = ';' := by simpa using hc
    rw [hd]
    exact ⟨List.append_nil k, rfl⟩

/-- The part behind the code is empty or opens as a comment. -/
theorem commentPart_eq_nil_or_cons (raw : Text) :
    commentPart raw = [] ∨ ∃ u, commentPart raw = ';' :: u := by
  cases h : commentPart raw with
  | nil => exact Or.inl rfl
  | cons c u =>
    have hc := List.head?_dropWhile_not (· != ';') raw
    have hhead : (raw.dropWhile (· != ';')).head? = some c := by
      rw [show raw.dropWhile (· != ';') = commentPart raw from rfl, h]
      rfl
    rw [hhead] at hc
    have hsemi : c = ';' := by simpa using hc
    exact Or.inr ⟨u, by rw [hsemi]⟩

theorem isRemark_trim_commentPart (raw : Text) : IsRemark (trim (commentPart raw)) := by
  refine ⟨trim_trim _, ?_⟩
  rcases commentPart_eq_nil_or_cons raw with h | ⟨u, h⟩
  · exact Or.inl (by rw [h]; rfl)
  · refine Or.inr ?_
    rw [h, trim_cons (by decide)]
    rfl

/-- Whether a line is a comment as a whole is told by its first visible character. -/
theorem opensComment_trim (raw : Text) : opensComment (trim raw) = opensComment (visible raw) := by
  rw [opensComment, opensComment, head?_trim]

theorem isToken_of_mem_words_codePart {raw w : Text} (hw : w ∈ words (codePart raw)) :
    IsToken w where
  toIsWord := isWord_of_mem_words hw
  no_semicolon hmem := semicolon_not_mem_codePart raw (mem_of_mem_words hw hmem)

/-- A text that opens with a word opens as the word does. -/
theorem head?_visible_of_words {t w : Text} {ws : List Text} (h : words t = w :: ws) (u : Text) :
    (visible (t ++ u)).head? = w.head? := by
  have hw : IsWord w := isWord_of_mem_words (by rw [h]; exact List.mem_cons_self)
  obtain ⟨c, v, rfl, -⟩ := hw.exists_cons
  rw [visible_append, ← flatten_words t, h]
  rfl

theorem codePart_ne_nil_of_words {raw w : Text} {ws : List Text}
    (h : words (codePart raw) = w :: ws) : codePart raw ≠ [] := by
  intro hnil
  rw [hnil] at h
  exact absurd h (by simp)

theorem startsBlank_codePart {raw : Text} (h : codePart raw ≠ []) :
    startsBlank (codePart raw) = startsBlank raw := by
  have hstarts := startsBlank_append_of_ne_nil h (commentPart raw)
  rw [codePart_append_commentPart] at hstarts
  exact hstarts.symm

/-- A comment part has no blanks in front. -/
theorem exists_commentPart_eq (raw : Text) :
    ∃ u : Text, (∀ c ∈ u, AsmFormat.isBlank c = true) ∧
      commentPart raw = trim (commentPart raw) ++ u := by
  rcases commentPart_eq_nil_or_cons raw with h | ⟨v, h⟩
  · refine ⟨[], by simp, ?_⟩
    rw [h]
    rfl
  · obtain ⟨u, hu, hv⟩ := exists_eq_trimEnd_append v
    refine ⟨u, hu, ?_⟩
    rw [h, trim_cons (by decide), List.cons_append, ← hv]

/-! ## The fields of words -/

/-- The comment and the indentation are no matter of the words. -/
theorem comment_indented_ofWords (indented : Bool) (c : Text) (ws : List Text) :
    (ofWords indented c ws).comment = c ∧ (ofWords indented c ws).indented = indented := by
  match ws with
  | [] => exact ⟨rfl, rfl⟩
  | w :: ws =>
    simp only [ofWords]
    split
    · exact ⟨rfl, rfl⟩
    · cases ws <;> exact ⟨rfl, rfl⟩

/-- The words are read alike whatever comment stands behind them. -/
theorem ofWords_comment (indented : Bool) (c : Text) (ws : List Text) :
    ofWords indented [] ws = { ofWords indented c ws with comment := [] } := by
  match ws with
  | [] => rfl
  | w :: ws =>
    simp only [ofWords]
    split
    · rfl
    · cases ws <;> rfl

theorem hasNoCode_ofWords {indented : Bool} {c w : Text} {ws : List Text} (hw : w ≠ []) :
    (ofWords indented c (w :: ws)).hasNoCode = false := by
  simp only [ofWords]
  split
  · simp [hasNoCode, hw]
  · cases ws <;> simp [hasNoCode, hw]

/-! ## The three ways to read a text -/

/-- A text of blanks is read as a line without fields. -/
theorem ofText_of_blanks {raw : Text} (h : ∀ c ∈ raw, AsmFormat.isBlank c = true) :
    ofText raw = { indented := startsBlank raw } := by
  have htrim : trim raw = [] := by
    have hnone := trim_blanks_append h []
    rwa [List.append_nil] at hnone
  have hsemi : ';' ∉ raw := by
    intro hmem
    exact absurd (h ';' hmem) (by decide)
  have hcode : codePart raw = raw ∧ commentPart raw = [] := by
    have hsplit := codePart_append hsemi (Or.inl rfl : ([] : Text) = [] ∨ _)
    rwa [List.append_nil] at hsplit
  have hwords : words raw = [] := words_eq_nil_iff.2 h
  simp only [ofText, htrim, hcode.1, hcode.2, hwords]
  rfl

/-- A text that opens as a comment is read as that comment. -/
theorem ofText_of_opensComment {raw : Text} (h : opensComment (trim raw) = true) :
    ofText raw = { comment := trim raw, indented := startsBlank raw } := by
  simp [ofText, h]

/-- Without words in front of its comment a text is a comment as a whole, or blank. -/
theorem forall_isBlank_of_words_eq_nil {raw : Text} (hopen : opensComment (trim raw) = false)
    (hwords : words (codePart raw) = []) : ∀ c ∈ raw, AsmFormat.isBlank c = true := by
  have hvisible : visible raw = visible (commentPart raw) := by
    have hsplit := visible_append (codePart raw) (commentPart raw)
    rwa [codePart_append_commentPart, visible_eq_nil_iff.2 (words_eq_nil_iff.1 hwords)] at hsplit
  rcases (isRemark_trim_commentPart raw).opens with hnil | hsemi
  · rw [← visible_eq_nil_iff, hvisible, ← visible_trim, hnil]
    rfl
  · -- the remark would be the first that is visible
    rw [opensComment_trim, hvisible, opensComment, ← head?_trim, hsemi] at hopen
    exact absurd hopen (by simp)

/-- A text is blank, or a comment as a whole, or code whose words are the fields. -/
theorem ofText_cases (raw : Text) :
    ((∀ c ∈ raw, AsmFormat.isBlank c = true) ∧ ofText raw = { indented := startsBlank raw }) ∨
      (opensComment (trim raw) = true ∧
        ofText raw = { comment := trim raw, indented := startsBlank raw }) ∨
      ∃ w ws, words (codePart raw) = w :: ws ∧ (∀ a ∈ w :: ws, IsToken a) ∧
        w.head? ≠ some '*' ∧
        ofText raw = ofWords (startsBlank raw) (trim (commentPart raw)) (w :: ws) := by
  cases hopen : opensComment (trim raw) with
  | true => exact Or.inr (Or.inl ⟨rfl, ofText_of_opensComment hopen⟩)
  | false =>
    cases hwords : words (codePart raw) with
    | nil =>
      have hblank := forall_isBlank_of_words_eq_nil hopen hwords
      exact Or.inl ⟨hblank, ofText_of_blanks hblank⟩
    | cons w ws =>
      refine Or.inr (Or.inr ⟨w, ws, rfl, ?_, ?_, ?_⟩)
      · intro a ha
        rw [← hwords] at ha
        exact isToken_of_mem_words_codePart ha
      · -- an asterisk here would be the first visible character of the line
        intro hstar
        have hvisible := head?_visible_of_words hwords (commentPart raw)
        rw [codePart_append_commentPart] at hvisible
        rw [opensComment_trim, opensComment, hvisible, hstar] at hopen
        exact absurd hopen (by simp)
      · simp [ofText, hopen, hwords]

/-! ## Reading gives well-formed lines -/

theorem ofWords_wellFormed {indented : Bool} {w c : Text} {ws : List Text}
    (hw : IsToken w) (hstar : w.head? ≠ some '*') (hws : ∀ a ∈ ws, IsToken a) (hc : IsRemark c) :
    (ofWords indented c (w :: ws)).WellFormed := by
  simp only [ofWords]
  split
  · next hknown => exact .unlabelled hw hstar hknown hws hc
  · next hknown =>
    simp only [Bool.or_eq_true, not_or, Bool.not_eq_true] at hknown
    obtain ⟨rfl, hunknown⟩ := hknown
    have hlabel : IsLabel w := ⟨hw, hstar, hunknown⟩
    cases ws with
    | nil => exact .label hlabel hc
    | cons i args =>
      rw [List.forall_mem_cons] at hws
      exact .labelled hlabel hws.1 hws.2 hc

/-- Every text is read as a well-formed line. -/
theorem ofText_wellFormed (raw : Text) : (ofText raw).WellFormed := by
  rcases ofText_cases raw with ⟨-, h⟩ | ⟨hopens, h⟩ | ⟨w, ws, -, htokens, hstar, h⟩
  · rw [h]
    exact .blank _
  · rw [h]
    exact .comment _ (trim_trim raw) hopens
  · rw [h]
    rw [List.forall_mem_cons] at htokens
    exact ofWords_wellFormed htokens.1 hstar htokens.2 (isRemark_trim_commentPart raw)

/-! ## Reading code with a remark behind it -/

/-- A text has no semicolon if its words have none. -/
theorem semicolon_not_mem_of_words {t : Text} (h : ∀ w ∈ words t, IsToken w) : ';' ∉ t := by
  intro hmem
  have hvis : ';' ∈ visible t := List.mem_filter.2 ⟨hmem, by decide⟩
  rw [← flatten_words] at hvis
  obtain ⟨w, hw, hsemi⟩ := List.mem_flatten.1 hvis
  exact (h w hw).no_semicolon hsemi

/-- A text that opens with a token is no comment as a whole, unless it opens with an asterisk. -/
theorem opensComment_trim_append {k w : Text} {ws : List Text} (hwords : words k = w :: ws)
    (hw : IsToken w) (hstar : w.head? ≠ some '*') (t : Text) :
    opensComment (trim (k ++ t)) = false := by
  obtain ⟨d, v, rfl, -⟩ := hw.exists_cons
  have hsemi : d ≠ ';' := by
    rintro rfl
    exact hw.no_semicolon List.mem_cons_self
  rw [opensComment_trim, opensComment, head?_visible_of_words hwords]
  simpa [hsemi] using hstar

/-- Code, a remark and blanks are parted into the words of the code and the remark. -/
theorem parts_append_blanks {k c u : Text} (hk : ';' ∉ k) (hc : IsRemark c)
    (hu : ∀ d ∈ u, AsmFormat.isBlank d = true) :
    words (codePart (k ++ c ++ u)) = words k ∧ trim (commentPart (k ++ c ++ u)) = c := by
  rcases hc.opens with rfl | hsemi
  · -- without a remark the blanks belong to the code
    have hcode : ';' ∉ k ++ u := by
      rw [List.mem_append, not_or]
      exact ⟨hk, fun h => absurd (hu ';' h) (by decide)⟩
    have hsplit := codePart_append hcode (Or.inl rfl : ([] : Text) = [] ∨ _)
    rw [List.append_nil] at hsplit ⊢
    rw [hsplit.1, hsplit.2, words_append_blanks k hu]
    exact ⟨rfl, rfl⟩
  · have hhead : (c ++ u).head? = some ';' := by
      rw [List.head?_append, hsemi]
      rfl
    have hsplit := codePart_append hk (Or.inr hhead)
    rw [List.append_assoc, hsplit.1, hsplit.2, trim_append_blanks_of_trim_eq hc.trim_eq hu]
    exact ⟨rfl, rfl⟩

/-- Code, then a remark, then blanks, are read as the words of the code and the remark. -/
theorem ofText_append_blanks {k c u w : Text} {ws : List Text} (hwords : words k = w :: ws)
    (htokens : ∀ a ∈ w :: ws, IsToken a) (hstar : w.head? ≠ some '*') (hc : IsRemark c)
    (hu : ∀ d ∈ u, AsmFormat.isBlank d = true) :
    ofText (k ++ c ++ u) = ofWords (startsBlank k) c (w :: ws) := by
  have hk : ';' ∉ k := semicolon_not_mem_of_words (by rw [hwords]; exact htokens)
  have hopen : opensComment (trim (k ++ c ++ u)) = false := by
    rw [List.append_assoc]
    exact opensComment_trim_append hwords (htokens w List.mem_cons_self) hstar _
  have hparts := parts_append_blanks hk hc hu
  have hstarts : startsBlank (k ++ c ++ u) = startsBlank k := by
    have hne : k ≠ [] := by
      rintro rfl
      exact absurd hwords (by simp)
    rw [List.append_assoc, startsBlank_append_of_ne_nil hne]
  simp only [ofText, hopen, hparts.1, hparts.2, hstarts, hwords]
  rfl

/-- Code, then spaces, then a remark, are read as the words of the code and the remark. -/
theorem ofText_append {k c w : Text} {ws : List Text} (hwords : words k = w :: ws)
    (htokens : ∀ a ∈ w :: ws, IsToken a) (hstar : w.head? ≠ some '*') (hc : IsRemark c) (n : Nat) :
    ofText (k ++ List.replicate n ' ' ++ c) = ofWords (startsBlank k) c (w :: ws) := by
  have hgap : words (k ++ List.replicate n ' ') = w :: ws := by
    rw [words_append_blanks k isBlank_of_mem_replicate, hwords]
  have hne : k ≠ [] := by
    rintro rfl
    exact absurd hwords (by simp)
  have hread := ofText_append_blanks (u := []) hgap htokens hstar hc (by simp)
  rwa [List.append_nil, startsBlank_append_of_ne_nil hne] at hread

/-- A comment alone is read whatever blanks stand around it. -/
theorem ofText_comment_alone {b c u : Text} (hb : ∀ d ∈ b, AsmFormat.isBlank d = true)
    (hu : ∀ d ∈ u, AsmFormat.isBlank d = true) (htrim : c.trim = c)
    (hopens : opensComment c = true) :
    ofText (b ++ c ++ u) = { comment := c, indented := !b.isEmpty } := by
  have hread : trim (b ++ c ++ u) = c := by
    rw [List.append_assoc, trim_blanks_append hb, trim_append_blanks_of_trim_eq htrim hu]
  have hstarts : startsBlank (b ++ c ++ u) = !b.isEmpty := by
    cases b with
    | nil =>
      rcases trim_eq_nil_or_cons c with h | ⟨d, v, h, hd, -⟩
      · rw [← htrim, h] at hopens
        exact absurd hopens (by decide)
      · rw [← htrim, h]
        exact hd
    | cons d b => exact hb d List.mem_cons_self
  rw [ofText_of_opensComment (by rw [hread]; exact hopens), hread, hstarts]

end Line

end AsmFormat
