import AsmFormat.Proofs.Text.Trimming
import AsmFormat.Text.Words

/-!
# The words of a text

Every fact about the words of a text follows from one equation: a blank ends a word
(`words_append_blank`). The words in a row are the visible characters of the text (`flatten_words`),
and words joined by single spaces are read back as they were (`words_joinWords`), as they are with
any other blanks between them (`words_weave`). Every text is a row of its words with some blanks
(`exists_eq_weave`).
-/

set_option autoImplicit false

namespace AsmFormat.Text

/-- A word: not empty, and without blanks. -/
structure IsWord (w : Text) : Prop where
  ne_nil : w ≠ []
  not_blank : ∀ c ∈ w, isBlank c = false

namespace IsWord

variable {w : Text}

theorem visible_eq (hw : IsWord w) : visible w = w :=
  visible_eq_self hw.not_blank

theorem trimEnd_eq (hw : IsWord w) : w.trimEnd = w :=
  trimEnd_eq_self hw.not_blank

theorem not_mem_of_blank (hw : IsWord w) {c : Char} (hc : isBlank c = true) : c ∉ w := by
  intro hmem
  rw [hw.not_blank c hmem] at hc
  exact Bool.noConfusion hc

/-- A word opens with a character that is not blank. -/
theorem exists_cons (hw : IsWord w) : ∃ c u, w = c :: u ∧ isBlank c = false := by
  cases w with
  | nil => exact absurd rfl hw.ne_nil
  | cons c u => exact ⟨c, u, rfl, hw.not_blank c List.mem_cons_self⟩

theorem startsBlank_append (hw : IsWord w) (t : Text) : startsBlank (w ++ t) = false := by
  obtain ⟨c, u, rfl, hc⟩ := hw.exists_cons
  exact hc

end IsWord

/-! ## Pieces of a text -/

/-- The pieces between separators hold none. -/
theorem not_mem_of_mem_splitOn {sep : Char} {t piece : Text} (h : piece ∈ t.splitOn sep) :
    sep ∉ piece := by
  induction t generalizing piece with
  | nil =>
    rw [List.splitOn_nil, List.mem_singleton] at h
    rw [h]
    exact List.not_mem_nil
  | cons c t ih =>
    rw [List.splitOn_cons_eq_if_modifyHead] at h
    by_cases hc : c = sep
    · rw [if_pos (beq_iff_eq.2 hc), List.mem_cons] at h
      rcases h with rfl | h
      · exact List.not_mem_nil
      · exact ih h
    · -- the character joins the first piece, and the others are pieces of the rest
      obtain ⟨u, us, hu⟩ := List.exists_cons_of_ne_nil (List.splitOn_ne_nil sep t)
      rw [if_neg (fun h => hc (beq_iff_eq.1 h)), hu, List.modifyHead_cons, List.mem_cons] at h
      rw [hu] at ih
      rcases h with rfl | h
      · have hrest := ih List.mem_cons_self
        simp [Ne.symm hc, hrest]
      · exact ih (List.mem_cons_of_mem u h)

/-! ## Reading words -/

/-- A blank ends a word. -/
theorem words_append_blank {b : Char} (hb : isBlank b = true) (t u : Text) :
    words (t ++ b :: u) = words t ++ words u := by
  unfold words
  rw [List.splitOnP_append_cons t u hb, List.filter_append]

theorem words_cons_blank {b : Char} (hb : isBlank b = true) (t : Text) :
    words (b :: t) = words t :=
  words_append_blank hb [] t

theorem words_blanks_append {b : Text} (hb : ∀ c ∈ b, isBlank c = true) (t : Text) :
    words (b ++ t) = words t := by
  induction b with
  | nil => rfl
  | cons c b ih =>
    rw [List.forall_mem_cons] at hb
    rw [List.cons_append, words_cons_blank hb.1, ih hb.2]

theorem words_append_blanks (t : Text) {b : Text} (hb : ∀ c ∈ b, isBlank c = true) :
    words (t ++ b) = words t := by
  cases b with
  | nil => rw [List.append_nil]
  | cons c b =>
    rw [List.forall_mem_cons] at hb
    have h : words b = [] := by
      have h := words_blanks_append hb.2 []
      rwa [List.append_nil] at h
    -- the first blank ends the last word, and the others hold none
    rw [words_append_blank hb.1, h, List.append_nil]

/-- The end that trimming drops holds no word. -/
@[simp] theorem words_trimEnd (t : Text) : words t.trimEnd = words t := by
  obtain ⟨u, hu, ht⟩ := exists_eq_trimEnd_append t
  have h : words t = words (t.trimEnd ++ u) := congrArg words ht
  rw [h, words_append_blanks _ hu]

theorem words_of_isWord {w : Text} (hw : IsWord w) : words w = [w] := by
  rw [words, List.splitOnP_eq_singleton hw.not_blank]
  simp [hw.ne_nil]

/-- The pieces between the blanks, in a row, are the visible characters. -/
theorem flatten_splitOnP_isBlank (t : Text) : (t.splitOnP isBlank).flatten = visible t := by
  induction t with
  | nil => rfl
  | cons c t ih =>
    rw [List.splitOnP_cons_eq_if_modifyHead]
    cases hc : isBlank c with
    | true => rw [visible_cons_of_blank hc, ← ih]; rfl
    | false =>
      -- the character joins the first piece, which is there even if it is empty
      obtain ⟨w, ws, hw⟩ := List.exists_cons_of_ne_nil (List.splitOnP_ne_nil isBlank t)
      rw [visible_cons_of_not_blank hc, ← ih, hw]
      rfl

/-- The words in a row are the visible characters of the text. -/
theorem flatten_words (t : Text) : (words t).flatten = visible t := by
  rw [← flatten_splitOnP_isBlank, words]
  exact List.flatten_filter_not_isEmpty

theorem mem_visible_of_mem_words {t w : Text} (hw : w ∈ words t) {c : Char} (hc : c ∈ w) :
    c ∈ visible t := by
  rw [← flatten_words]
  exact List.mem_flatten.2 ⟨w, hw, hc⟩

theorem mem_of_mem_words {t w : Text} (hw : w ∈ words t) {c : Char} (hc : c ∈ w) : c ∈ t :=
  (List.mem_filter.1 (mem_visible_of_mem_words hw hc)).1

theorem isWord_of_mem_words {t w : Text} (hw : w ∈ words t) : IsWord w := by
  constructor
  · simpa using (List.mem_filter.1 hw).2
  · intro c hc
    have h := mem_visible_of_mem_words hw hc
    simpa [visible] using (List.mem_filter.1 h).2

/-- Only a text of blanks has no word. -/
theorem words_eq_nil_iff {t : Text} : words t = [] ↔ ∀ c ∈ t, isBlank c = true := by
  rw [← visible_eq_nil_iff, ← flatten_words]
  constructor
  · intro h
    rw [h]
    rfl
  · intro h
    rw [List.flatten_eq_nil_iff] at h
    rw [List.eq_nil_iff_forall_not_mem]
    intro w hw
    exact (isWord_of_mem_words hw).ne_nil (h w hw)

/-! ## Writing words -/

@[simp] theorem joinWords_singleton (w : Text) : joinWords [w] = w :=
  List.intercalate_singleton

theorem joinWords_cons (w : Text) {ws : List Text} (h : ws ≠ []) :
    joinWords (w :: ws) = w ++ ' ' :: joinWords ws := by
  rw [joinWords, List.intercalate_cons_of_ne_nil h, List.append_assoc]
  rfl

theorem joinWords_append {ws vs : List Text} (hws : ws ≠ []) (hvs : vs ≠ []) :
    joinWords (ws ++ vs) = joinWords ws ++ ' ' :: joinWords vs := by
  induction ws with
  | nil => exact absurd rfl hws
  | cons w ws ih =>
    cases ws with
    | nil =>
      rw [joinWords_singleton]
      exact joinWords_cons w hvs
    | cons v ws =>
      have hne : v :: ws ≠ [] := List.cons_ne_nil v ws
      have hne' : v :: ws ++ vs ≠ [] := List.cons_ne_nil v (ws ++ vs)
      rw [List.cons_append, joinWords_cons w hne', ih hne, joinWords_cons w hne,
        List.append_assoc]
      rfl

/-- Words joined by single spaces are read back as they were. -/
theorem words_joinWords {ws : List Text} (h : ∀ w ∈ ws, IsWord w) : words (joinWords ws) = ws := by
  induction ws with
  | nil => rfl
  | cons w ws ih =>
    rw [List.forall_mem_cons] at h
    cases ws with
    | nil => rw [joinWords_singleton, words_of_isWord h.1]
    | cons v ws =>
      rw [joinWords_cons w (by simp), words_append_blank rfl, words_of_isWord h.1, ih h.2]
      rfl

theorem joinWords_eq_nil_iff {ws : List Text} (h : ∀ w ∈ ws, IsWord w) :
    joinWords ws = [] ↔ ws = [] := by
  constructor
  · intro hnil
    rw [← words_joinWords h, hnil, words_nil]
  · rintro rfl
    rfl

theorem visible_joinWords {ws : List Text} (h : ∀ w ∈ ws, IsWord w) :
    visible (joinWords ws) = ws.flatten := by
  rw [← flatten_words, words_joinWords h]

theorem joinWords_ne_nil {ws : List Text} (h : ∀ w ∈ ws, IsWord w) (hne : ws ≠ []) :
    joinWords ws ≠ [] := by
  rw [ne_eq, joinWords_eq_nil_iff h]
  exact hne

/-- Joined words open as the first of them does. -/
theorem exists_joinWords_eq_cons {w : Text} (hw : IsWord w) (ws : List Text) :
    ∃ c u, joinWords (w :: ws) = c :: u ∧ isBlank c = false := by
  obtain ⟨c, u, rfl, hc⟩ := hw.exists_cons
  exact ⟨c, joinWords (u :: ws), List.intercalate_cons_cons_left, hc⟩

/-- Joined words end in no blank. -/
theorem trimEnd_joinWords {ws : List Text} (h : ∀ w ∈ ws, IsWord w) :
    (joinWords ws).trimEnd = joinWords ws := by
  induction ws with
  | nil => rfl
  | cons w ws ih =>
    rw [List.forall_mem_cons] at h
    cases ws with
    | nil => rw [joinWords_singleton, h.1.trimEnd_eq]
    | cons v ws =>
      -- the rest is not empty, so it protects the word and the space before it
      have hrest : (joinWords (v :: ws)).trimEnd ≠ [] := by
        rw [ih h.2]
        exact joinWords_ne_nil h.2 (List.cons_ne_nil v ws)
      rw [joinWords_cons w (List.cons_ne_nil v ws), List.append_cons,
        trimEnd_append_of_ne_nil _ hrest, ih h.2]

/-- The blanks of words joined by single spaces are those spaces. -/
theorem eq_space_of_mem_joinWords {ws : List Text} (hws : ∀ w ∈ ws, IsWord w) {c : Char}
    (hc : c ∈ joinWords ws) (hblank : isBlank c = true) : c = ' ' := by
  induction ws with
  | nil => exact absurd hc List.not_mem_nil
  | cons w ws ih =>
    rw [List.forall_mem_cons] at hws
    have hword : c ∉ w := hws.1.not_mem_of_blank hblank
    cases ws with
    | nil =>
      rw [joinWords_singleton] at hc
      exact absurd hc hword
    | cons v vs =>
      rw [joinWords_cons w (List.cons_ne_nil v vs), List.mem_append, List.mem_cons] at hc
      rcases hc with hc | hc | hc
      · exact absurd hc hword
      · exact hc
      · exact ih hws.2 hc

/-! ## Words with any blanks between them -/

/-- The words with the given blanks between neighbours. -/
def weave (between : List Text) : List Text → Text
  | [] => []
  | w :: ws => w ++ (List.zipWith (· ++ ·) between ws).flatten

/-- The blanks of a row, none of which may be missing. -/
def AreGaps (between : List Text) : Prop :=
  ∀ b ∈ between, b ≠ [] ∧ ∀ c ∈ b, isBlank c = true

@[simp] theorem weave_nil (between : List Text) : weave between [] = [] := rfl

@[simp] theorem weave_singleton (between : List Text) (w : Text) : weave between [w] = w := by
  simp [weave]

theorem weave_cons_cons (b : Text) (between : List Text) (w v : Text) (ws : List Text) :
    weave (b :: between) (w :: v :: ws) = w ++ (b ++ weave between (v :: ws)) := by
  simp [weave]

/-- A run of blanks, even behind nothing, ends a word. -/
theorem words_append_gap {b : Text} (hne : b ≠ []) (hb : ∀ c ∈ b, isBlank c = true) (t u : Text) :
    words (t ++ (b ++ u)) = words t ++ words u := by
  cases b with
  | nil => exact absurd rfl hne
  | cons c b =>
    rw [List.forall_mem_cons] at hb
    rw [List.cons_append, words_append_blank hb.1, words_blanks_append hb.2]

/-- Words are read as they are whatever blanks stand between them. -/
theorem words_weave {between ws : List Text} (hbetween : AreGaps between)
    (hws : ∀ w ∈ ws, IsWord w) (hlength : between.length = ws.length - 1) :
    words (weave between ws) = ws := by
  induction ws generalizing between with
  | nil => rfl
  | cons w ws ih =>
    rw [List.forall_mem_cons] at hws
    cases ws with
    | nil => rw [weave_singleton, words_of_isWord hws.1]
    | cons v ws =>
      cases between with
      | nil => exact absurd hlength (by simp)
      | cons b between =>
        have hgap := hbetween b List.mem_cons_self
        have hrest : AreGaps between := fun d hd => hbetween d (List.mem_cons_of_mem b hd)
        rw [weave_cons_cons, words_append_gap hgap.1 hgap.2, words_of_isWord hws.1,
          ih hrest hws.2 (by simpa using hlength)]
        rfl

/-- A word behind blanks shows whether there are any. -/
theorem startsBlank_blanks_append {b w : Text} (hb : ∀ c ∈ b, isBlank c = true) (hw : IsWord w)
    (u : Text) : startsBlank (b ++ (w ++ u)) = true ↔ b ≠ [] := by
  cases b with
  | nil => simp [hw.startsBlank_append u]
  | cons c b => simp [startsBlank, hb c List.mem_cons_self]

/-- What stands behind a word, if it is empty or opens with a blank, is read on its own. -/
theorem words_word_append {w u : Text} (hw : IsWord w) (hu : u = [] ∨ startsBlank u = true) :
    words (w ++ u) = w :: words u := by
  cases u with
  | nil => rw [List.append_nil, words_of_isWord hw, words_nil]
  | cons c u =>
    have hc : isBlank c = true := hu.resolve_left (List.cons_ne_nil c u)
    rw [words_append_blank hc, words_cons_blank hc, words_of_isWord hw]
    rfl

/-- A text that does not open with a blank opens with a word, which runs to the next blank. -/
theorem exists_eq_word_append {c : Char} (hc : isBlank c = false) (t : Text) :
    ∃ w u : Text, IsWord w ∧ c :: t = w ++ u ∧ (u = [] ∨ startsBlank u = true) := by
  refine ⟨(c :: t).takeWhile (fun d => !isBlank d), (c :: t).dropWhile (fun d => !isBlank d),
    ?_, List.takeWhile_append_dropWhile.symm, ?_⟩
  · constructor
    · simp [hc]
    · intro d hd
      have hd := List.all_eq_true.1 List.all_takeWhile d hd
      simpa using hd
  · have hhead := List.head?_dropWhile_not (fun d => !isBlank d) (c :: t)
    cases hdrop : (c :: t).dropWhile (fun d => !isBlank d) with
    | nil => exact Or.inl rfl
    | cons d u =>
      rw [hdrop] at hhead
      have hd : isBlank d = true := by simpa using hhead
      exact Or.inr hd

/-- A text opens with blanks and its first word, and the other words stand in what follows. -/
theorem exists_eq_append_word_append {t w : Text} {ws : List Text} (h : words t = w :: ws) :
    ∃ b u : Text, (∀ c ∈ b, isBlank c = true) ∧ t = b ++ (w ++ u) ∧ words u = ws ∧
      (u = [] ∨ startsBlank u = true) := by
  obtain ⟨b, hb, ht⟩ : ∃ b : Text, (∀ c ∈ b, isBlank c = true) ∧ t = b ++ t.trimStart :=
    ⟨t.takeWhile isBlank, List.all_eq_true.1 List.all_takeWhile,
      List.takeWhile_append_dropWhile.symm⟩
  have hread : words t.trimStart = w :: ws := by
    rw [← h]
    exact (words_blanks_append hb _).symm.trans (congrArg words ht.symm)
  rcases trimStart_eq_nil_or_cons t with hnil | ⟨c, v, hcons, hc⟩
  · rw [hnil] at hread
    exact absurd hread (by simp)
  · obtain ⟨x, u, hx, hsplit, hu⟩ := exists_eq_word_append hc v
    rw [hcons] at ht hread
    rw [hsplit, words_word_append hx hu, List.cons.injEq] at hread
    obtain ⟨rfl, hws⟩ := hread
    exact ⟨b, u, hb, by rw [← hsplit]; exact ht, hws, hu⟩

/-- A text with words is these words with some blanks around them and between them. -/
theorem exists_eq_weave {t w : Text} {ws : List Text} (h : words t = w :: ws) :
    ∃ (lead : Text) (between : List Text) (gap : Text), (∀ c ∈ lead, isBlank c = true) ∧
      AreGaps between ∧ (∀ c ∈ gap, isBlank c = true) ∧ between.length = ws.length ∧
      t = lead ++ weave between (w :: ws) ++ gap := by
  induction ws generalizing t w with
  | nil =>
    obtain ⟨lead, u, hlead, ht, hu, -⟩ := exists_eq_append_word_append h
    refine ⟨lead, [], u, hlead, ?_, words_eq_nil_iff.1 hu, rfl, ?_⟩
    · intro b hb
      exact absurd hb List.not_mem_nil
    · rw [ht, weave_singleton, List.append_assoc]
  | cons v ws ih =>
    obtain ⟨lead, u, hlead, ht, hu, hopens⟩ := exists_eq_append_word_append h
    obtain ⟨first, between, gap, hfirst, hbetween, hgap, hlength, hweave⟩ := ih hu
    have hv : IsWord v := isWord_of_mem_words (by rw [hu]; exact List.mem_cons_self)
    -- the rest opens with a blank, so the first gap of the row is there
    have hne : first ≠ [] := by
      rcases hopens with hnil | hblank
      · rw [hnil] at hu
        exact absurd hu (by simp)
      · rw [hweave, weave, List.append_assoc, List.append_assoc] at hblank
        exact (startsBlank_blanks_append hfirst hv _).1 hblank
    refine ⟨lead, first :: between, gap, hlead, ?_, hgap, by simp [hlength], ?_⟩
    · intro b hb
      rcases List.mem_cons.1 hb with rfl | hb
      · exact ⟨hne, hfirst⟩
      · exact hbetween b hb
    · rw [ht, hweave, weave_cons_cons]
      simp only [List.append_assoc]

end AsmFormat.Text
