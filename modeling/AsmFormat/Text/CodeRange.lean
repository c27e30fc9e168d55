/-!
# Ranges of code points

A set of characters is a list of ranges that ascend and lie apart. The search for a code point ends
at the first range behind it, and `CodeRange.within_iff` says that nothing is missed by that.
-/

set_option autoImplicit false

namespace AsmFormat

/-- The code points from a first to a last one. -/
structure CodeRange where
  /-- The least code point of the range. -/
  first : Nat
  /-- The greatest code point of the range. -/
  last : Nat
deriving DecidableEq

namespace CodeRange

/-- The range of a single character. -/
def single (c : Char) : CodeRange := ⟨c.toNat, c.toNat⟩

/-- Whether the range holds the code point. -/
def holds (r : CodeRange) (n : Nat) : Bool :=
  r.first ≤ n && n ≤ r.last

/-- Whether every range holds a code point and ends before the next one starts. -/
def ascending : List CodeRange → Bool
  | [] => true
  | r :: rest =>
    r.first ≤ r.last && (rest.head?.all fun next => r.last < next.first) && ascending rest

/-- Whether one of the ranges, which ascend, holds the code point. -/
def within : List CodeRange → Nat → Bool
  | [], _ => false
  | r :: rest, n => r.first ≤ n && (n ≤ r.last || within rest n)

/-- The ranges behind one that precedes its successor do not reach back to it. -/
theorem last_lt_first_of_mem {r s : CodeRange} :
    ∀ {rest : List CodeRange}, ascending (r :: rest) = true → s ∈ rest → r.last < s.first
  | next :: rest, h, hs => by
    simp only [ascending, List.head?_cons, Option.all_some, Bool.and_eq_true,
      decide_eq_true_eq] at h
    obtain ⟨⟨_, hnext⟩, ⟨hself, hhead⟩, hrest⟩ := h
    rcases List.mem_cons.1 hs with rfl | hs
    · exact hnext
    · have := last_lt_first_of_mem (r := next)
        (by simp [ascending, hself, hhead, hrest]) hs
      omega

/-- The search finds the code points of all ranges. -/
theorem within_iff {n : Nat} :
    ∀ {ranges : List CodeRange}, ascending ranges = true →
      (within ranges n = true ↔ ∃ r ∈ ranges, r.first ≤ n ∧ n ≤ r.last)
  | [], _ => by simp [within]
  | r :: rest, h => by
    have hrest : ascending rest = true := by
      simp only [ascending, Bool.and_eq_true] at h
      exact h.2
    have hself : r.first ≤ r.last := by
      simp only [ascending, Bool.and_eq_true, decide_eq_true_eq] at h
      exact h.1.1
    have ih := within_iff (n := n) hrest
    simp only [within, Bool.and_eq_true, Bool.or_eq_true, decide_eq_true_eq, ih,
      List.mem_cons, exists_eq_or_imp]
    constructor
    · rintro ⟨hfirst, hlast | hs⟩
      · exact .inl ⟨hfirst, hlast⟩
      · exact .inr hs
    · rintro (⟨hfirst, hlast⟩ | ⟨s, hs, hfirst, hlast⟩)
      · exact ⟨hfirst, .inl hlast⟩
      · have := last_lt_first_of_mem h hs
        exact ⟨by omega, .inr ⟨s, hs, hfirst, hlast⟩⟩

end CodeRange

end AsmFormat
