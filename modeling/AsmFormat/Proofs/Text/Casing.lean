import AsmFormat.Text.CodeRange
import AsmFormat.Text.Blank
import AsmFormat.Text.Uppercase

/-!
# Upper case is settled

The characters of an upper case are their own upper case, so upper case taken twice is upper case
taken once (`upper_upper`). The blanks, dots, semicolons and asterisks of a text are the marks that
tell its fields apart. Upper case neither brings, loses nor moves one of them
(`filter_isMark_upper`), and it opens with one exactly if the text does (`head?_upper_iff`).

These facts are properties of the tables. They are checked range by range: the images of a range
lie in one interval, and that interval lies apart from everything it has to avoid.
-/

set_option autoImplicit false

namespace AsmFormat

/-- Blanks, and the characters that open a directive or a comment. -/
def isMark (c : Char) : Bool :=
  isBlank c || c == '.' || c == ';' || c == '*'

/-- The code points of the marks. -/
def markRanges : List CodeRange := [
  ⟨0x09, 0x0D⟩, ⟨0x20, 0x20⟩, ⟨0x2A, 0x2A⟩, ⟨0x2E, 0x2E⟩, ⟨0x3B, 0x3B⟩, ⟨0x85, 0x85⟩,
  ⟨0xA0, 0xA0⟩, ⟨0x1680, 0x1680⟩, ⟨0x2000, 0x200A⟩, ⟨0x2028, 0x2029⟩, ⟨0x202F, 0x202F⟩,
  ⟨0x205F, 0x205F⟩, ⟨0x3000, 0x3000⟩]

theorem exists_markRange_of_isMark {c : Char} (h : isMark c = true) :
    ∃ k ∈ markRanges, k.holds c.toNat = true := by
  have heq (d : Char) (hd : c = d) (k : CodeRange) (hk : k ∈ markRanges)
      (hholds : k.holds d.toNat = true) : ∃ k ∈ markRanges, k.holds c.toNat = true := by
    subst hd
    exact ⟨k, hk, hholds⟩
  simp only [isMark, Bool.or_eq_true, beq_iff_eq] at h
  rcases h with ((h | h) | h) | h
  · -- both sides are intervals of code points
    simp only [isBlank, Bool.or_eq_true, Bool.and_eq_true, decide_eq_true_eq, beq_iff_eq] at h
    simp only [markRanges, CodeRange.holds, List.mem_cons, List.not_mem_nil, or_false,
      exists_eq_or_imp, exists_eq_left, Bool.and_eq_true, decide_eq_true_eq]
    omega
  · exact heq '.' h ⟨0x2E, 0x2E⟩ (by decide) (by decide)
  · exact heq ';' h ⟨0x3B, 0x3B⟩ (by decide) (by decide)
  · exact heq '*' h ⟨0x2A, 0x2A⟩ (by decide) (by decide)

/-! ## The images of a range -/

namespace CaseRange

/-- The upper case of the greatest member. -/
def imageLast (r : CaseRange) : Nat :=
  r.upper + (r.last - r.first)

/-- Whether all images of the range lie apart from some code points. -/
def avoids (r : CaseRange) (k : CodeRange) : Bool :=
  -- `Nat.blt` and not `<`, since the kernel evaluates this for all pairs of ranges
  r.imageLast.blt k.first || k.last.blt r.upper

/-- Whether no image of the range is a member of another range: they lie apart, or both count in
twos and differ in parity. -/
def leaves (r s : CaseRange) : Bool :=
  r.avoids ⟨s.first, s.last⟩ ||
    ((r.step == 2 || r.first == r.last) && s.step == 2 && (r.upper + s.first) % 2 == 1)

/-- Whether all images of the range are characters. -/
def hasValidImages (r : CaseRange) : Bool :=
  r.imageLast < 0xD800 || (0xDFFF < r.upper && r.imageLast < 0x110000)

/-- Whether the images of the range are characters without an upper case of their own, and none of
them is a mark. -/
def isSettled (r : CaseRange) : Bool :=
  r.hasValidImages && caseRanges.all r.leaves &&
    caseExpansions.all (fun e => r.avoids ⟨e.1, e.1⟩) && markRanges.all r.avoids

theorem image_bounds {r : CaseRange} {n : Nat} (h : r.covers n = true) :
    r.upper ≤ r.image n ∧ r.image n ≤ r.imageLast := by
  simp only [covers, Bool.and_eq_true, decide_eq_true_eq] at h
  simp only [image, imageLast]
  omega

theorem holds_image_of_avoids {r : CaseRange} {n : Nat} (h : r.covers n = true) {k : CodeRange}
    (hk : r.avoids k = true) : k.holds (r.image n) = false := by
  obtain ⟨hlo, hhi⟩ := image_bounds h
  simp only [avoids, Bool.or_eq_true, Nat.blt_eq] at hk
  simp only [CodeRange.holds, Bool.and_eq_false_iff, decide_eq_false_iff_not]
  omega

theorem covers_image_of_leaves {r s : CaseRange} {n : Nat} (h : r.covers n = true)
    (hs : r.leaves s = true) : s.covers (r.image n) = false := by
  simp only [leaves, Bool.or_eq_true, Bool.and_eq_true, beq_iff_eq] at hs
  rcases hs with hs | ⟨⟨hr, hs2⟩, hodd⟩
  · have := holds_image_of_avoids h hs
    simp only [CodeRange.holds] at this
    simp only [covers, this, Bool.false_and]
  · simp only [covers, Bool.and_eq_true, decide_eq_true_eq, beq_iff_eq] at h
    -- the images keep the parity of the first one
    have heven : (n - r.first) % 2 = 0 := by
      rcases hr with hr | hr
      · rw [← hr]
        exact h.2
      · omega
    rw [Bool.eq_false_iff]
    intro hc
    simp only [covers, Bool.and_eq_true, decide_eq_true_eq, beq_iff_eq] at hc
    simp only [hs2, image] at hc
    omega

theorem isValidChar_image {r : CaseRange} {n : Nat} (h : r.covers n = true)
    (hr : r.hasValidImages = true) : (r.image n).isValidChar := by
  obtain ⟨hlo, hhi⟩ := image_bounds h
  simp only [hasValidImages, Bool.or_eq_true, Bool.and_eq_true, decide_eq_true_eq] at hr
  simp only [Nat.isValidChar]
  omega

end CaseRange

/-- The images of the ranges are settled. -/
theorem caseRanges_isSettled : ∀ r ∈ caseRanges, r.isSettled = true := by
  decide +kernel

/-! ## The characters of an upper case -/

/-- Whether a code point has an upper case other than itself. -/
def isCased (n : Nat) : Bool :=
  caseRanges.any (·.covers n) || caseExpansions.any (·.1 == n)

/-- Whether a code point is a character without an upper case of its own and no mark. -/
def isPlain (n : Nat) : Bool :=
  decide n.isValidChar && !isCased n && !markRanges.any (·.holds n)

theorem caseExpansions_isPlain : ∀ e ∈ caseExpansions, e.2 ≠ [] ∧ ∀ n ∈ e.2, isPlain n = true := by
  decide +kernel

theorem isPlain_image {r : CaseRange} (hr : r ∈ caseRanges) {n : Nat} (h : r.covers n = true) :
    isPlain (r.image n) = true := by
  have hset := caseRanges_isSettled r hr
  simp only [CaseRange.isSettled, Bool.and_eq_true, List.all_eq_true] at hset
  obtain ⟨⟨⟨hvalid, hranges⟩, hexp⟩, hmarks⟩ := hset
  simp only [isPlain, isCased, Bool.and_eq_true, decide_eq_true_eq, Bool.not_eq_true',
    Bool.or_eq_false_iff, List.any_eq_false, Bool.not_eq_true]
  refine ⟨⟨CaseRange.isValidChar_image h hvalid, ?_, ?_⟩, ?_⟩
  · intro s hs
    exact CaseRange.covers_image_of_leaves h (hranges s hs)
  · intro e he
    have hout := CaseRange.holds_image_of_avoids h (hexp e he)
    simp only [CodeRange.holds, Bool.and_eq_false_iff, decide_eq_false_iff_not] at hout
    rw [beq_eq_false_iff_ne]
    omega
  · intro k hk
    exact CaseRange.holds_image_of_avoids h (hmarks k hk)

/-- A character is its own upper case, or all characters of its upper case are plain. -/
theorem upperChar_eq_or_isPlain (c : Char) :
    (upperChar c = [c] ∧ isCased c.toNat = false) ∨
      (upperChar c ≠ [] ∧ ∃ ns : List Nat, upperChar c = ns.map Char.ofNat ∧
        ∀ n ∈ ns, isPlain n = true) := by
  unfold upperChar
  cases hr : caseRanges.find? (·.covers c.toNat) with
  | some r =>
    have hcov : r.covers c.toNat = true := by simpa using List.find?_some hr
    refine Or.inr ⟨by simp, [r.image c.toNat], rfl, ?_⟩
    intro n hn
    rw [List.mem_singleton] at hn
    rw [hn]
    exact isPlain_image (List.mem_of_find?_eq_some hr) hcov
  | none =>
    cases he : caseExpansions.find? (·.1 == c.toNat) with
    | some e =>
      obtain ⟨hne, hall⟩ := caseExpansions_isPlain e (List.mem_of_find?_eq_some he)
      exact Or.inr ⟨by simpa using hne, e.2, rfl, hall⟩
    | none =>
      refine Or.inl ⟨rfl, ?_⟩
      rw [List.find?_eq_none] at hr he
      simp only [isCased, Bool.or_eq_false_iff, List.any_eq_false]
      exact ⟨hr, he⟩

theorem upperChar_of_isCased_eq_false {c : Char} (h : isCased c.toNat = false) :
    upperChar c = [c] := by
  simp only [isCased, Bool.or_eq_false_iff, List.any_eq_false] at h
  have hr : caseRanges.find? (·.covers c.toNat) = none := List.find?_eq_none.2 h.1
  have he : caseExpansions.find? (·.1 == c.toNat) = none := List.find?_eq_none.2 h.2
  rw [upperChar, hr]
  simp only [he]

/-! ## The upper case of a text -/

/-- Whether no code point of the range has an upper case other than itself. -/
def CodeRange.isUncased (k : CodeRange) : Bool :=
  caseRanges.all (fun r => r.last.blt k.first || k.last.blt r.first) &&
    caseExpansions.all (fun e => !k.holds e.1)

/-- No mark has an upper case other than itself. -/
theorem markRanges_isUncased : ∀ k ∈ markRanges, k.isUncased = true := by
  decide +kernel

theorem isCased_of_isUncased {k : CodeRange} (hk : k.isUncased = true) {n : Nat}
    (hn : k.holds n = true) : isCased n = false := by
  simp only [CodeRange.isUncased, Bool.and_eq_true, List.all_eq_true, Bool.or_eq_true,
    Nat.blt_eq, Bool.not_eq_true'] at hk
  obtain ⟨hranges, hexp⟩ := hk
  simp only [isCased, Bool.or_eq_false_iff, List.any_eq_false, Bool.not_eq_true]
  constructor
  · -- a range of cased characters ends in front of the range or starts behind it
    intro r hr
    have hapart := hranges r hr
    simp only [CodeRange.holds, Bool.and_eq_true, decide_eq_true_eq] at hn
    rw [Bool.eq_false_iff]
    intro hcov
    simp only [CaseRange.covers, Bool.and_eq_true, decide_eq_true_eq] at hcov
    omega
  · intro e he
    rw [beq_eq_false_iff_ne]
    rintro rfl
    rw [hexp e he] at hn
    exact Bool.noConfusion hn

/-- A mark is its own upper case. -/
theorem upperChar_of_isMark {c : Char} (h : isMark c = true) : upperChar c = [c] := by
  obtain ⟨k, hk, hholds⟩ := exists_markRange_of_isMark h
  exact upperChar_of_isCased_eq_false (isCased_of_isUncased (markRanges_isUncased k hk) hholds)

theorem upperChar_ne_nil (c : Char) : upperChar c ≠ [] := by
  rcases upperChar_eq_or_isPlain c with ⟨h, -⟩ | ⟨h, -⟩
  · rw [h]
    simp
  · exact h

theorem isPlain_of_mem_map {ns : List Nat} (hns : ∀ n ∈ ns, isPlain n = true) {d : Char}
    (hd : d ∈ ns.map Char.ofNat) : isPlain d.toNat = true := by
  obtain ⟨n, hn, rfl⟩ := List.mem_map.1 hd
  have h := hns n hn
  have hvalid : n.isValidChar := by
    simp only [isPlain, Bool.and_eq_true, decide_eq_true_eq] at h
    exact h.1.1
  have hn : (Char.ofNat n).toNat = n := by
    rw [Char.ofNat, dif_pos hvalid]
    rfl
  rw [hn]
  exact h

/-- The characters of an upper case are their own upper case. -/
theorem upperChar_of_mem_upperChar {c d : Char} (hd : d ∈ upperChar c) : upperChar d = [d] := by
  rcases upperChar_eq_or_isPlain c with ⟨h, hc⟩ | ⟨-, ns, h, hns⟩
  · rw [h, List.mem_singleton] at hd
    rw [hd]
    exact upperChar_of_isCased_eq_false hc
  · rw [h] at hd
    have hplain := isPlain_of_mem_map hns hd
    simp only [isPlain, Bool.and_eq_true, Bool.not_eq_true'] at hplain
    exact upperChar_of_isCased_eq_false hplain.1.2

/-- A mark in an upper case is the character itself. -/
theorem eq_of_mem_upperChar_of_isMark {c d : Char} (hd : d ∈ upperChar c)
    (hmark : isMark d = true) : d = c := by
  rcases upperChar_eq_or_isPlain c with ⟨h, -⟩ | ⟨-, ns, h, hns⟩
  · rw [h, List.mem_singleton] at hd
    exact hd
  · -- a plain character is no mark
    rw [h] at hd
    have hplain := isPlain_of_mem_map hns hd
    obtain ⟨k, hk, hholds⟩ := exists_markRange_of_isMark hmark
    simp only [isPlain, Bool.and_eq_true, Bool.not_eq_true', List.any_eq_false] at hplain
    exact absurd hholds (hplain.2 k hk)

/-- The marks in the upper case of a character are the character itself, or none. -/
theorem filter_isMark_upperChar (c : Char) : (upperChar c).filter isMark = [c].filter isMark := by
  cases hc : isMark c with
  | true => rw [upperChar_of_isMark hc]
  | false =>
    have hnone : [c].filter isMark = [] := by simp [hc]
    rw [hnone, List.filter_eq_nil_iff]
    intro d hd hmark
    rw [eq_of_mem_upperChar_of_isMark hd hmark, hc] at hmark
    exact Bool.noConfusion hmark

namespace Text

/-- Upper case taken twice is upper case taken once. -/
@[simp] theorem upper_upper (t : Text) : t.upper.upper = t.upper := by
  have h : ∀ u : Text, (∀ d ∈ u, upperChar d = [d]) → u.upper = u := by
    intro u
    induction u with
    | nil => intro _; rfl
    | cons d u ih =>
      intro hu
      rw [List.forall_mem_cons] at hu
      rw [upper_cons, hu.1, ih hu.2]
      rfl
  apply h
  intro d hd
  obtain ⟨c, -, hc⟩ := List.mem_flatMap.1 hd
  exact upperChar_of_mem_upperChar hc

/-- Upper case neither brings, loses nor moves a mark. -/
theorem filter_isMark_upper (t : Text) : t.upper.filter isMark = t.filter isMark := by
  induction t with
  | nil => rfl
  | cons c t ih =>
    rw [upper_cons, List.filter_append, filter_isMark_upperChar, ih, ← List.filter_append,
      List.singleton_append]

/-- An upper case opens with a mark exactly if the text does. -/
theorem head?_upper_iff {t : Text} {d : Char} (hmark : isMark d = true) :
    t.upper.head? = some d ↔ t.head? = some d := by
  cases t with
  | nil => rfl
  | cons c t =>
    rw [upper_cons]
    constructor
    · intro hd
      obtain ⟨e, u, he⟩ := List.exists_cons_of_ne_nil (upperChar_ne_nil c)
      rw [he] at hd
      have hed : e = d := Option.some.inj hd
      have hmem : d ∈ upperChar c := by
        rw [he, hed]
        exact List.mem_cons_self
      rw [eq_of_mem_upperChar_of_isMark hmem hmark]
      rfl
    · intro hd
      have hcd : c = d := Option.some.inj hd
      rw [hcd, upperChar_of_isMark hmark]
      rfl

theorem upper_eq_nil_iff {t : Text} : t.upper = [] ↔ t = [] := by
  cases t with
  | nil => exact Iff.rfl
  | cons c t =>
    rw [upper_cons]
    constructor
    · intro h
      exact absurd (List.append_eq_nil_iff.1 h).1 (upperChar_ne_nil c)
    · intro h
      exact absurd h (List.cons_ne_nil c t)

end Text

end AsmFormat
