import AsmFormat.Text.Blank

/-!
# Trimmed texts

What trimming does to a text put together from pieces. A piece of blanks at the end is dropped
(`trimEnd_append_blanks`), and a piece with a character that is not blank protects all that stands
before it (`trimEnd_append_of_ne_nil`).

`Text.visible` keeps the characters that are not blank. No trimming changes it (`visible_trim`), and
a trimmed text opens with the first of them (`head?_trim`).
-/

set_option autoImplicit false

namespace AsmFormat.Text

/-- The characters of a text that are not blank, in order. -/
def visible (t : Text) : Text :=
  t.filter fun c => !isBlank c

@[simp] theorem visible_nil : visible [] = [] := rfl

@[simp] theorem visible_append (t u : Text) : visible (t ++ u) = visible t ++ visible u :=
  List.filter_append t u

theorem visible_cons_of_blank {c : Char} (hc : isBlank c = true) (t : Text) :
    visible (c :: t) = visible t := by
  simp [visible, hc]

theorem visible_cons_of_not_blank {c : Char} (hc : isBlank c = false) (t : Text) :
    visible (c :: t) = c :: visible t := by
  simp [visible, hc]

theorem visible_eq_nil_iff {t : Text} : visible t = [] ↔ ∀ c ∈ t, isBlank c = true := by
  simp [visible]

theorem visible_eq_self {t : Text} (h : ∀ c ∈ t, isBlank c = false) : visible t = t := by
  rw [visible, List.filter_eq_self]
  intro c hc
  simp [h c hc]

theorem isBlank_of_mem_replicate {n : Nat} : ∀ c ∈ List.replicate n ' ', isBlank c = true := by
  intro c hc
  rw [List.eq_of_mem_replicate hc]
  rfl

/-! ## The end of a text -/

/-- Trimming leaves nothing exactly of a text of blanks. -/
theorem trimEnd_eq_nil_iff {t : Text} : t.trimEnd = [] ↔ ∀ c ∈ t, isBlank c = true := by
  induction t with
  | nil => simp
  | cons c t ih =>
    rw [trimEnd_cons, List.forall_mem_cons, ← ih]
    cases hc : isBlank c <;> cases ht : trimEnd t <;> simp

/-- A trimmed text lacks a run of blanks at its end and nothing else. -/
theorem exists_eq_trimEnd_append (t : Text) :
    ∃ u : Text, (∀ c ∈ u, isBlank c = true) ∧ t = t.trimEnd ++ u := by
  induction t with
  | nil => exact ⟨[], by simp, rfl⟩
  | cons c t ih =>
    obtain ⟨u, hu, ht⟩ := ih
    rw [trimEnd_cons]
    split
    · next h =>
      simp only [Bool.and_eq_true, List.isEmpty_iff] at h
      refine ⟨c :: t, ?_, rfl⟩
      exact List.forall_mem_cons.2 ⟨h.2, trimEnd_eq_nil_iff.1 h.1⟩
    · exact ⟨u, hu, congrArg (c :: ·) ht⟩

theorem trimEnd_append_of_ne_nil (t : Text) {u : Text} (hu : u.trimEnd ≠ []) :
    (t ++ u).trimEnd = t ++ u.trimEnd := by
  induction t with
  | nil => rfl
  | cons c t ih =>
    -- what stands behind `c` is not empty after trimming, so `c` stays even if it is blank
    have hne : (t ++ u.trimEnd).isEmpty = false := by simp [hu]
    rw [List.cons_append, trimEnd_cons, ih, hne]
    rfl

theorem trimEnd_append_blanks (t : Text) {u : Text} (hu : ∀ c ∈ u, isBlank c = true) :
    (t ++ u).trimEnd = t.trimEnd := by
  induction t with
  | nil => exact trimEnd_eq_nil_iff.2 hu
  | cons c t ih => rw [List.cons_append, trimEnd_cons, ih, trimEnd_cons]

@[simp] theorem trimEnd_trimEnd (t : Text) : t.trimEnd.trimEnd = t.trimEnd := by
  obtain ⟨u, hu, ht⟩ := exists_eq_trimEnd_append t
  have h := trimEnd_append_blanks t.trimEnd hu
  rw [← ht] at h
  exact h.symm

/-- A text that ends in no blank is not trimmed. -/
theorem trimEnd_concat {c : Char} (hc : isBlank c = false) (t : Text) :
    (t ++ [c]).trimEnd = t ++ [c] := by
  have h : trimEnd [c] = [c] := by simp [trimEnd_cons, hc]
  rw [trimEnd_append_of_ne_nil t (by simp [h]), h]

/-- A text without blanks is not trimmed. -/
theorem trimEnd_eq_self {t : Text} (h : ∀ c ∈ t, isBlank c = false) : t.trimEnd = t := by
  rcases List.eq_nil_or_concat t with rfl | ⟨u, c, rfl⟩
  · rfl
  · rw [List.concat_eq_append] at h ⊢
    exact trimEnd_concat (h c (by simp)) u

/-- A text that is not trimmed ends in no blank. -/
theorem isBlank_getLast_of_trimEnd_eq {t : Text} (ht : t.trimEnd = t) {c : Char}
    (hc : t.getLast? = some c) : isBlank c = false := by
  obtain ⟨u, rfl⟩ := List.getLast?_eq_some_iff.1 hc
  rw [← Bool.not_eq_true]
  intro hblank
  have hshort : trimEnd u = u ++ [c] := by
    rw [← trimEnd_append_blanks u (by simpa using hblank : ∀ d ∈ [c], isBlank d = true), ht]
  -- trimming `u` would make it longer
  obtain ⟨v, -, hv⟩ := exists_eq_trimEnd_append u
  have hlength := congrArg List.length hv
  rw [hshort] at hlength
  simp at hlength

theorem mem_of_mem_trimEnd {t : Text} {c : Char} (hc : c ∈ t.trimEnd) : c ∈ t := by
  obtain ⟨u, -, ht⟩ := exists_eq_trimEnd_append t
  rw [ht]
  exact List.mem_append_left u hc

@[simp] theorem visible_trimEnd (t : Text) : visible t.trimEnd = visible t := by
  obtain ⟨u, hu, ht⟩ := exists_eq_trimEnd_append t
  have h : visible t = visible (t.trimEnd ++ u) := congrArg visible ht
  rw [h, visible_append, visible_eq_nil_iff.2 hu, List.append_nil]

/-! ## Both ends -/

@[simp] theorem visible_trimStart (t : Text) : visible t.trimStart = visible t := by
  induction t with
  | nil => rfl
  | cons c t ih =>
    cases hc : isBlank c with
    | true =>
      have h : trimStart (c :: t) = trimStart t := by simp [trimStart, hc]
      rw [h, ih, visible_cons_of_blank hc]
    | false =>
      have h : trimStart (c :: t) = c :: t := by simp [trimStart, hc]
      rw [h]

@[simp] theorem visible_trim (t : Text) : visible t.trim = visible t := by
  rw [trim, visible_trimEnd, visible_trimStart]

theorem mem_of_mem_trim {t : Text} {c : Char} (hc : c ∈ t.trim) : c ∈ t :=
  (List.dropWhile_sublist _).subset (mem_of_mem_trimEnd hc)

/-- What is left at the start is empty or opens with a character that is not blank. -/
theorem trimStart_eq_nil_or_cons (t : Text) :
    t.trimStart = [] ∨ ∃ c u, t.trimStart = c :: u ∧ isBlank c = false := by
  induction t with
  | nil => exact Or.inl rfl
  | cons c t ih =>
    cases hc : isBlank c with
    | true =>
      have h : trimStart (c :: t) = trimStart t := by simp [trimStart, hc]
      rw [h]
      exact ih
    | false => exact Or.inr ⟨c, t, by simp [trimStart, hc], hc⟩

/-- A text that opens with a character that is not blank keeps its start. -/
theorem trim_cons {c : Char} (hc : isBlank c = false) (t : Text) :
    trim (c :: t) = c :: t.trimEnd := by
  simp [trim, trimStart, trimEnd_cons, hc]

/-- A trimmed text is empty or opens with a character that is not blank. -/
theorem trim_eq_nil_or_cons (t : Text) :
    t.trim = [] ∨ ∃ c u, t.trim = c :: u ∧ isBlank c = false ∧ trimEnd u = u := by
  rcases trimStart_eq_nil_or_cons t with h | ⟨c, u, h, hc⟩
  · exact Or.inl (by rw [trim, h]; rfl)
  · refine Or.inr ⟨c, trimEnd u, ?_, hc, trimEnd_trimEnd u⟩
    rw [trim, h, trimEnd_cons]
    simp [hc]

@[simp] theorem trim_trim (t : Text) : t.trim.trim = t.trim := by
  rcases trim_eq_nil_or_cons t with h | ⟨c, u, h, hc, hu⟩
  · rw [h]
    rfl
  · rw [h, trim_cons hc, hu]

/-- A trimmed text opens with the first visible character. -/
theorem head?_trim (t : Text) : t.trim.head? = t.visible.head? := by
  rw [← visible_trim t]
  rcases trim_eq_nil_or_cons t with h | ⟨c, u, h, hc, -⟩
  · rw [h]
    rfl
  · rw [h, visible_cons_of_not_blank hc]
    rfl

/-! ## Blanks around a text -/

/-- A run of blanks opens with a blank unless it is empty. -/
theorem startsBlank_iff_of_blanks {b : Text} (hb : ∀ c ∈ b, isBlank c = true) :
    startsBlank b = true ↔ b ≠ [] := by
  cases b with
  | nil => simp [startsBlank]
  | cons c b => simp [startsBlank, hb c List.mem_cons_self]

theorem startsBlank_append_of_ne_nil {t : Text} (ht : t ≠ []) (u : Text) :
    startsBlank (t ++ u) = startsBlank t := by
  cases t with
  | nil => exact absurd rfl ht
  | cons c t => rfl

theorem trimStart_blanks_append {b : Text} (hb : ∀ c ∈ b, isBlank c = true) (t : Text) :
    trimStart (b ++ t) = trimStart t :=
  List.dropWhile_append_of_pos hb

theorem trim_blanks_append {b : Text} (hb : ∀ c ∈ b, isBlank c = true) (t : Text) :
    trim (b ++ t) = trim t := by
  rw [trim, trimStart_blanks_append hb, trim]

/-- Blanks behind a trimmed text are trimmed away. -/
theorem trim_append_blanks_of_trim_eq {t u : Text} (ht : t.trim = t)
    (hu : ∀ c ∈ u, isBlank c = true) : trim (t ++ u) = t := by
  rcases trim_eq_nil_or_cons t with h | ⟨c, v, h, hc, hv⟩
  · rw [ht] at h
    subst h
    have hnone := trim_blanks_append hu []
    rwa [List.append_nil] at hnone
  · rw [ht] at h
    subst h
    rw [List.cons_append, trim_cons hc, trimEnd_append_blanks v hu, hv]

/-- A text is its trimmed form between two runs of blanks, the first of which is there exactly if the
text opens with a blank. -/
theorem exists_eq_append_trim_append (t : Text) :
    ∃ b u : Text, (∀ c ∈ b, isBlank c = true) ∧ (∀ c ∈ u, isBlank c = true) ∧
      (b ≠ [] ↔ startsBlank t = true) ∧ t = b ++ t.trim ++ u := by
  obtain ⟨u, hu, hend⟩ := exists_eq_trimEnd_append t.trimStart
  refine ⟨t.takeWhile isBlank, u, List.all_eq_true.1 List.all_takeWhile, hu, ?_, ?_⟩
  · cases t with
    | nil => simp [startsBlank]
    | cons c t =>
      cases hc : isBlank c with
      | true => simp [startsBlank, hc]
      | false => simp [startsBlank, hc]
  · rw [List.append_assoc, trim, ← hend, trimStart, List.takeWhile_append_dropWhile]

/-- A trimmed text protects all that stands before it. -/
theorem trimEnd_append_of_trim_eq (t : Text) {u : Text} (hu : u.trim = u) (hne : u ≠ []) :
    (t ++ u).trimEnd = t ++ u := by
  have h : u.trimEnd = u := by
    rw [← hu, trim, trimEnd_trimEnd]
  rw [trimEnd_append_of_ne_nil t (by rw [h]; exact hne), h]

end AsmFormat.Text
