import AsmFormat.Line.Layout
import AsmFormat.Proofs.Text.Words

/-!
# Commas between words

Spacing the commas of words joined by single spaces cuts each word behind its commas and joins the
pieces by single spaces, up to the space behind a last comma
(`trimEnd_spaceCommas_joinWords`). The pieces of a word are its `clauses`. They make up the word
(`flatten_clauses`) and are not cut again (`clauses_of_mem_clauses`), so a second spacing finds
nothing to do. Such pieces have a comma at their end at most, so behind every comma stands one space
and the next piece (`commasSpaced_joinWords`).
-/

set_option autoImplicit false

namespace AsmFormat.Text

/-- The pieces of a word, each of which ends with the first comma in it or with the word. -/
def clauses : Text → List Text
  | [] => []
  | c :: rest =>
    if c = ',' then [c] :: clauses rest
    else
      match clauses rest with
      | [] => [[c]]
      | p :: ps => (c :: p) :: ps

theorem clauses_comma (w : Text) : clauses (',' :: w) = [','] :: clauses w := rfl

/-- A character other than a comma belongs to the first piece of what follows it. -/
theorem clauses_cons {c : Char} (hc : c ≠ ',') (w : Text) :
    (clauses w = [] ∧ clauses (c :: w) = [[c]]) ∨
      ∃ p ps, clauses w = p :: ps ∧ clauses (c :: w) = (c :: p) :: ps := by
  rw [clauses, if_neg hc]
  cases clauses w with
  | nil => exact Or.inl ⟨rfl, rfl⟩
  | cons p ps => exact Or.inr ⟨p, ps, rfl, rfl⟩

/-- The pieces make up the word. -/
theorem flatten_clauses (w : Text) : (clauses w).flatten = w := by
  induction w with
  | nil => rfl
  | cons c w ih =>
    by_cases hc : c = ','
    · subst hc
      rw [clauses_comma, List.flatten_cons, ih]
      rfl
    · rcases clauses_cons hc w with ⟨hw, h⟩ | ⟨p, ps, hw, h⟩
      · rw [hw] at ih
        rw [h, ← ih]
        rfl
      · rw [hw] at ih
        rw [h, ← ih]
        rfl

/-- Words cut behind their commas make up the words. -/
theorem flatten_flatMap_clauses (ws : List Text) : (ws.flatMap clauses).flatten = ws.flatten := by
  induction ws with
  | nil => rfl
  | cons w ws ih =>
    rw [List.flatMap_cons, List.flatten_append, flatten_clauses, ih, List.flatten_cons]

theorem clauses_ne_nil {w : Text} (hw : w ≠ []) : clauses w ≠ [] := by
  intro h
  apply hw
  rw [← flatten_clauses w, h]
  rfl

/-- A piece is not cut again. -/
theorem clauses_of_mem_clauses {w p : Text} (hp : p ∈ clauses w) : clauses p = [p] := by
  induction w generalizing p with
  | nil => exact absurd hp List.not_mem_nil
  | cons c w ih =>
    by_cases hc : c = ','
    · subst hc
      rw [clauses_comma, List.mem_cons] at hp
      rcases hp with rfl | hp
      · rfl
      · exact ih hp
    · rcases clauses_cons hc w with ⟨-, h⟩ | ⟨q, qs, hw, h⟩
      · rw [h, List.mem_singleton] at hp
        rw [hp, clauses, if_neg hc]
        rfl
      · rw [h, List.mem_cons] at hp
        rcases hp with rfl | hp
        · -- the first piece got longer by a character that is no comma
          have hq : clauses q = [q] := ih (by rw [hw]; exact List.mem_cons_self)
          rw [clauses, if_neg hc, hq]
        · exact ih (by rw [hw]; exact List.mem_cons_of_mem q hp)

theorem ne_nil_of_mem_clauses {w p : Text} (hp : p ∈ clauses w) : p ≠ [] := by
  rintro rfl
  have h := clauses_of_mem_clauses hp
  simp [clauses] at h

theorem mem_of_mem_clauses {w p : Text} (hp : p ∈ clauses w) {c : Char} (hc : c ∈ p) : c ∈ w := by
  rw [← flatten_clauses w]
  exact List.mem_flatten.2 ⟨p, hp, hc⟩

theorem isWord_of_mem_clauses {w p : Text} (hw : ∀ c ∈ w, isBlank c = false)
    (hp : p ∈ clauses w) : IsWord p where
  ne_nil := ne_nil_of_mem_clauses hp
  not_blank c hc := hw c (mem_of_mem_clauses hp hc)

/-- Pieces that are not cut stay as they are, all together. -/
theorem flatMap_clauses_eq_self {ps : List Text} (h : ∀ p ∈ ps, clauses p = [p]) :
    ps.flatMap clauses = ps := by
  induction ps with
  | nil => rfl
  | cons p ps ih =>
    rw [List.forall_mem_cons] at h
    rw [List.flatMap_cons, h.1, ih h.2]
    rfl

/-! ## Spacing the commas of words -/

/-- A character, with one space behind it if it is a comma. -/
def spacedChar (c : Char) : Text :=
  if c = ',' then [',', ' '] else [c]

theorem spaceCommasFrom_cons (b : Bool) {c : Char} (hc : c ≠ ' ') (t : Text) :
    spaceCommasFrom b (c :: t) = spacedChar c ++ spaceCommasFrom (c == ',') t := by
  by_cases hcomma : c = ','
  · subst hcomma
    simp [spaceCommasFrom, spacedChar]
  · have hfalse : (c == ',') = false := beq_eq_false_iff_ne.2 hcomma
    simp [spaceCommasFrom, spacedChar, hc, hcomma, hfalse]

/-- Where no space follows, it makes no difference whether a comma went before. -/
theorem spaceCommasFrom_eq {t : Text} (ht : t.head? ≠ some ' ') (b : Bool) :
    spaceCommasFrom b t = spaceCommas t := by
  cases t with
  | nil => rfl
  | cons c t =>
    have hc : c ≠ ' ' := by
      rintro rfl
      exact ht rfl
    rw [spaceCommas, spaceCommasFrom_cons b hc, spaceCommasFrom_cons false hc]

theorem ne_space_of_not_blank {c : Char} (hc : isBlank c = false) : c ≠ ' ' := by
  rintro rfl
  exact absurd hc (by decide)

/-- Spacing the commas of a word cuts it into its pieces. -/
theorem trimEnd_spaceCommasFrom_word (b : Bool) {w : Text} (hw : ∀ c ∈ w, isBlank c = false) :
    (spaceCommasFrom b w).trimEnd = joinWords (clauses w) := by
  induction w generalizing b with
  | nil => rfl
  | cons c w ih =>
    rw [List.forall_mem_cons] at hw
    have ih := ih (c == ',') hw.2
    have hword : ∀ p ∈ clauses w, IsWord p := fun p hp => isWord_of_mem_clauses hw.2 hp
    rw [spaceCommasFrom_cons b (ne_space_of_not_blank hw.1)]
    by_cases hc : c = ','
    · subst hc
      rw [clauses_comma]
      cases hp : clauses w with
      | nil =>
        -- the word ends in this comma, and the space behind it is trimmed
        rw [hp] at ih
        rw [trimEnd_append_blanks _ (trimEnd_eq_nil_iff.1 ih)]
        rfl
      | cons p ps =>
        rw [hp] at ih hword
        have hrest : (spaceCommasFrom (',' == ',') w).trimEnd ≠ [] := by
          rw [ih]
          exact joinWords_ne_nil hword (List.cons_ne_nil p ps)
        rw [trimEnd_append_of_ne_nil _ hrest, ih, joinWords_cons [','] (List.cons_ne_nil p ps)]
        rfl
    · have hlead : spacedChar c = [c] := if_neg hc
      rw [hlead, List.singleton_append, trimEnd_cons, ih, hw.1, Bool.and_false]
      rcases clauses_cons hc w with ⟨hnil, h⟩ | ⟨p, ps, hcons, h⟩
      · rw [hnil, h]
        rfl
      · rw [hcons, h]
        exact List.intercalate_cons_cons_left.symm

/-- A word and the space behind it are spaced on their own. -/
theorem spaceCommasFrom_append_space (b : Bool) {w t : Text} (hw : IsWord w)
    (ht : t.head? ≠ some ' ') :
    spaceCommasFrom b (w ++ ' ' :: t) = (spaceCommasFrom b w).trimEnd ++ ' ' :: spaceCommas t := by
  obtain ⟨hne, hblank⟩ := hw
  induction w generalizing b with
  | nil => exact absurd rfl hne
  | cons c w ih =>
    rw [List.forall_mem_cons] at hblank
    have hsp := ne_space_of_not_blank hblank.1
    rw [List.cons_append, spaceCommasFrom_cons b hsp, spaceCommasFrom_cons b hsp]
    cases w with
    | nil =>
      -- the space behind a comma is dropped, and the one that the comma brings takes its place
      by_cases hc : c = ','
      · subst hc
        have hskip : spaceCommasFrom true (' ' :: t) = spaceCommas t := by
          simp [spaceCommasFrom, spaceCommasFrom_eq ht]
        exact congrArg ([',', ' '] ++ ·) hskip
      · have hkeep : spaceCommasFrom (c == ',') (' ' :: t) = ' ' :: spaceCommas t := by
          simp [spaceCommas, spaceCommasFrom, hc]
        have hlead : spacedChar c = [c] := if_neg hc
        have htrim : trimEnd [c] = [c] := by simp [trimEnd_cons, hblank.1]
        rw [List.nil_append, hkeep, hlead, spaceCommasFrom, List.append_nil, htrim]
    | cons d w =>
      have hne : d :: w ≠ [] := List.cons_ne_nil d w
      have hrest : (spaceCommasFrom (c == ',') (d :: w)).trimEnd ≠ [] := by
        rw [trimEnd_spaceCommasFrom_word _ hblank.2]
        exact joinWords_ne_nil (fun p hp => isWord_of_mem_clauses hblank.2 hp) (clauses_ne_nil hne)
      rw [ih _ hne hblank.2, trimEnd_append_of_ne_nil _ hrest, List.append_assoc]

/-- Words joined by single spaces do not open with a space. -/
theorem head?_joinWords_ne_space {ws : List Text} (h : ∀ w ∈ ws, IsWord w) :
    (joinWords ws).head? ≠ some ' ' := by
  cases ws with
  | nil => simp
  | cons w ws =>
    obtain ⟨c, u, hjoin, hc⟩ := exists_joinWords_eq_cons (h w List.mem_cons_self) ws
    rw [hjoin, List.head?_cons]
    intro hsp
    exact ne_space_of_not_blank hc (Option.some.inj hsp)

/-- Spacing the commas of words joined by single spaces cuts every word into its pieces. -/
theorem trimEnd_spaceCommas_joinWords {ws : List Text} (h : ∀ w ∈ ws, IsWord w) :
    (spaceCommas (joinWords ws)).trimEnd = joinWords (ws.flatMap clauses) := by
  induction ws with
  | nil => rfl
  | cons w ws ih =>
    rw [List.forall_mem_cons] at h
    have hw := trimEnd_spaceCommasFrom_word false h.1.not_blank
    cases ws with
    | nil =>
      rw [joinWords_singleton, spaceCommas, hw, List.flatMap_cons, List.flatMap_nil,
        List.append_nil]
    | cons v ws =>
      have ih := ih h.2
      have hne : (v :: ws).flatMap clauses ≠ [] := by
        rw [List.flatMap_cons]
        intro hnil
        exact clauses_ne_nil (h.2 v List.mem_cons_self).ne_nil (List.append_eq_nil_iff.1 hnil).1
      have hpieces : ∀ p ∈ (v :: ws).flatMap clauses, IsWord p := by
        intro p hp
        obtain ⟨x, hx, hpx⟩ := List.mem_flatMap.1 hp
        exact isWord_of_mem_clauses (h.2 x hx).not_blank hpx
      have hrest : (spaceCommas (joinWords (v :: ws))).trimEnd ≠ [] := by
        rw [ih]
        exact joinWords_ne_nil hpieces hne
      have hhead := head?_joinWords_ne_space h.2
      -- the first word and the rest are spaced apart, and trimming reaches into the rest only
      rw [joinWords_cons w (List.cons_ne_nil v ws), spaceCommas,
        spaceCommasFrom_append_space false h.1 hhead, List.append_cons,
        trimEnd_append_of_ne_nil _ hrest, ih, hw, ← List.append_cons,
        ← joinWords_append (clauses_ne_nil h.1.ne_nil) hne]
      rfl

/-! ## Spaced commas -/

/-- Whether one space and a character that is not blank follow each comma, or nothing does. -/
def CommasSpaced (t : Text) : Prop :=
  ∀ u v, t = u ++ ',' :: v → v = [] ∨ ∃ c w, v = ' ' :: c :: w ∧ isBlank c = false

/-- A word that is not cut has no comma but at its end. -/
theorem eq_nil_of_clauses_eq_self {u v : Text} (h : clauses (u ++ ',' :: v) = [u ++ ',' :: v]) :
    v = [] := by
  induction u with
  | nil =>
    rw [List.nil_append, clauses_comma, List.cons.injEq] at h
    rw [← flatten_clauses v, h.2]
    rfl
  | cons c u ih =>
    rw [List.cons_append] at h
    by_cases hc : c = ','
    · -- a comma at the front would be cut off
      subst hc
      rw [clauses_comma, List.cons.injEq] at h
      exact absurd h.2 (clauses_ne_nil (by simp))
    · rcases clauses_cons hc (u ++ ',' :: v) with ⟨hnil, -⟩ | ⟨p, ps, hp, hcons⟩
      · exact absurd hnil (clauses_ne_nil (by simp))
      · rw [hcons, List.cons.injEq, List.cons.injEq] at h
        rw [h.1.2, h.2] at hp
        exact ih hp

/-- Words that are not cut, joined by single spaces, have their commas spaced. -/
theorem commasSpaced_joinWords {ws : List Text} (hws : ∀ w ∈ ws, IsWord w)
    (huncut : ∀ w ∈ ws, clauses w = [w]) : CommasSpaced (joinWords ws) := by
  induction ws with
  | nil =>
    intro u v h
    exact absurd h.symm (by simp)
  | cons w ws ih =>
    rw [List.forall_mem_cons] at hws huncut
    intro u v h
    cases ws with
    | nil =>
      rw [joinWords_singleton] at h
      exact Or.inl (eq_nil_of_clauses_eq_self (by rw [← h]; exact huncut.1))
    | cons x ws =>
      rw [joinWords_cons w (List.cons_ne_nil x ws)] at h
      rcases List.append_eq_append_iff.1 h with ⟨y, hu, hy⟩ | ⟨y, hw, hy⟩
      · -- the comma stands behind the word and the space
        cases y with
        | nil => exact absurd hy (by simp)
        | cons d y =>
          rw [List.cons_append, List.cons.injEq] at hy
          exact ih hws.2 huncut.2 y v hy.2
      · cases y with
        | nil => exact absurd hy (by simp)
        | cons d y =>
          rw [List.cons_append, List.cons.injEq] at hy
          obtain ⟨rfl, rfl⟩ := hy
          -- the comma ends the word, and the next word follows the space
          have hend : y = [] := eq_nil_of_clauses_eq_self (by rw [← hw]; exact huncut.1)
          obtain ⟨c, z, hopens, hc⟩ := exists_joinWords_eq_cons (hws.2 x List.mem_cons_self) ws
          refine Or.inr ⟨c, z, ?_, hc⟩
          rw [hend, hopens]
          rfl

end AsmFormat.Text
