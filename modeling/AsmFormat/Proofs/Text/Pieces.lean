import AsmFormat.Proofs.Text.Commas
import Mathlib.Data.List.DropRight

/-!
# Pieces between commas

`Text.spaceCommas` reads a text once from left to right and keeps in mind whether a comma went
before. `Text.respaced` says what comes of it: the pieces between the commas stay as they are, but
for the spaces that open them, and a comma and one space stand between neighbours
(`spaceCommas_eq_respaced`). The other properties follow from this description: a second spacing
finds its own pieces (`splitOn_respaced`), and what is dropped and added are spaces only
(`filter_respaced`).

Main statement: `spaceCommas_respaces`.
-/

set_option autoImplicit false

namespace AsmFormat.Text

/-- The text from its first character that is not a space. Other blanks are kept. -/
def dropSpaces (t : Text) : Text :=
  t.dropWhile (· == ' ')

/-- The first piece, and behind it each further piece without the spaces that open it, with a comma
and one space in front. -/
def respaced : List Text → Text
  | [] => []
  | first :: others => first ++ others.flatMap fun p => ", ".toList ++ p.dropSpaces

/-! ## One character after the other -/

theorem spaceCommasFrom_comma (afterComma : Bool) (t : Text) :
    spaceCommasFrom afterComma (',' :: t) = ", ".toList ++ spaceCommasFrom true t := by
  simp [spaceCommasFrom]

/-- A space behind a comma is dropped, and what follows still stands behind the comma. -/
theorem spaceCommasFrom_space (t : Text) :
    spaceCommasFrom true (' ' :: t) = spaceCommasFrom true t := by
  simp [spaceCommasFrom]

theorem spaceCommasFrom_other {afterComma : Bool} {c : Char} (hcomma : c ≠ ',')
    (hspace : ¬(afterComma = true ∧ c = ' ')) (t : Text) :
    spaceCommasFrom afterComma (c :: t) = c :: spaceCommasFrom false t := by
  simp [spaceCommasFrom, hcomma, hspace]

theorem dropSpaces_space (t : Text) : dropSpaces (' ' :: t) = dropSpaces t := rfl

theorem dropSpaces_cons {c : Char} (hc : c ≠ ' ') (t : Text) : dropSpaces (c :: t) = c :: t := by
  rw [dropSpaces, List.dropWhile_cons, if_neg]
  rw [beq_iff_eq]
  exact hc

theorem dropSpaces_dropSpaces (t : Text) : dropSpaces (dropSpaces t) = dropSpaces t :=
  List.dropWhile_idempotent _ t

/-- A comma starts a new piece. -/
theorem splitOn_comma (t : Text) : List.splitOn ',' (',' :: t) = [] :: t.splitOn ',' := by
  rw [List.splitOn_cons_eq_if_modifyHead, if_pos (beq_self_eq_true ',')]

/-- Any other character belongs to the first piece of what follows it. -/
theorem splitOn_cons_of_ne {c : Char} (hc : c ≠ ',') {t first : Text} {others : List Text}
    (ht : t.splitOn ',' = first :: others) :
    List.splitOn ',' (c :: t) = (c :: first) :: others := by
  rw [List.splitOn_cons_eq_if_modifyHead, if_neg (fun h => hc (beq_iff_eq.1 h)), ht,
    List.modifyHead_cons]

/-- The pieces of what follows, where `afterComma` tells whether spaces that open the first one are
dropped. -/
theorem spaceCommasFrom_eq_respaced {t first : Text} {others : List Text}
    (ht : t.splitOn ',' = first :: others) (afterComma : Bool) :
    spaceCommasFrom afterComma t =
      respaced ((if afterComma then dropSpaces first else first) :: others) := by
  induction t generalizing afterComma first others with
  | nil =>
    rw [List.splitOn_nil, List.cons.injEq] at ht
    obtain ⟨rfl, rfl⟩ := ht
    cases afterComma with
    | false => rfl
    | true => rfl
  | cons c t ih =>
    obtain ⟨p, ps, hp⟩ := List.exists_cons_of_ne_nil (List.splitOn_ne_nil ',' t)
    by_cases hcomma : c = ','
    · -- the piece ends here, and the next one is read behind a comma
      subst hcomma
      rw [splitOn_comma, hp, List.cons.injEq] at ht
      obtain ⟨rfl, rfl⟩ := ht
      have hrest := ih hp true
      rw [if_pos rfl] at hrest
      rw [spaceCommasFrom_comma, hrest]
      cases afterComma with
      | false => rfl
      | true => rfl
    · rw [splitOn_cons_of_ne hcomma hp, List.cons.injEq] at ht
      obtain ⟨rfl, rfl⟩ := ht
      by_cases hspace : afterComma = true ∧ c = ' '
      · -- one of the spaces behind a comma: the next one is dropped as well
        obtain ⟨rfl, rfl⟩ := hspace
        have hrest := ih hp true
        rw [if_pos rfl] at hrest ⊢
        rw [spaceCommasFrom_space, hrest, dropSpaces_space]
      · have hrest := ih hp false
        rw [if_neg (by decide)] at hrest
        have hkeep : (if afterComma = true then dropSpaces (c :: p) else c :: p) = c :: p := by
          split
          · next hafter => exact dropSpaces_cons (fun hc => hspace ⟨hafter, hc⟩) p
          · rfl
        rw [spaceCommasFrom_other hcomma hspace, hrest, hkeep]
        rfl

/-- Spacing the commas of a text is respacing its pieces. -/
theorem spaceCommas_eq_respaced (t : Text) : spaceCommas t = respaced (t.splitOn ',') := by
  obtain ⟨first, others, ht⟩ := List.exists_cons_of_ne_nil (List.splitOn_ne_nil ',' t)
  rw [spaceCommas, spaceCommasFrom_eq_respaced ht, ht, if_neg (by decide)]

/-! ## Pieces of a respaced text -/

theorem intercalate_cons (sep first : Text) (others : List Text) :
    sep.intercalate (first :: others) = first ++ others.flatMap fun p => sep ++ p := by
  induction others generalizing first with
  | nil => simp
  | cons p others ih =>
    rw [List.intercalate_cons_of_ne_nil (List.cons_ne_nil p others), ih, List.flatMap_cons]
    simp

/-- The pieces of a respaced text: those behind the first are opened by one space. -/
theorem respaced_cons (first : Text) (others : List Text) :
    respaced (first :: others) =
      [','].intercalate (first :: others.map fun p => ' ' :: dropSpaces p) := by
  rw [intercalate_cons, List.flatMap_map]
  rfl

/-- A respaced text has its pieces respaced. -/
theorem splitOn_respaced {first : Text} {others : List Text}
    (h : ∀ p ∈ first :: others, ',' ∉ p) :
    (respaced (first :: others)).splitOn ',' =
      first :: others.map fun p => ' ' :: dropSpaces p := by
  rw [List.forall_mem_cons] at h
  have hpieces : ∀ q ∈ first :: others.map (fun p => ' ' :: dropSpaces p), ',' ∉ q := by
    rw [List.forall_mem_cons]
    refine ⟨h.1, ?_⟩
    intro q hq hmem
    obtain ⟨p, hp, rfl⟩ := List.mem_map.1 hq
    have hdrop : ',' ∈ dropSpaces p := (List.mem_cons.1 hmem).resolve_left (by decide)
    exact h.2 p hp ((List.dropWhile_suffix _).subset hdrop)
  rw [respaced_cons, List.splitOn_intercalate ',' hpieces (List.cons_ne_nil _ _)]

/-- Pieces that have been respaced stay as they are. -/
theorem respaced_map_dropSpaces (first : Text) (others : List Text) :
    respaced (first :: others.map fun p => ' ' :: dropSpaces p) = respaced (first :: others) := by
  rw [respaced, respaced, List.flatMap_map]
  simp only [dropSpaces_space, dropSpaces_dropSpaces]

/-! ## Characters of a respaced text -/

theorem filter_dropSpaces (t : Text) :
    (dropSpaces t).filter (· != ' ') = t.filter (· != ' ') := by
  induction t with
  | nil => rfl
  | cons c t ih =>
    by_cases hc : c = ' '
    · rw [hc, dropSpaces_space, ih]
      rfl
    · rw [dropSpaces_cons hc]

/-- All that respacing adds and drops are spaces. -/
theorem filter_respaced (pieces : List Text) :
    (respaced pieces).filter (· != ' ') = ([','].intercalate pieces).filter (· != ' ') := by
  cases pieces with
  | nil => rfl
  | cons first others =>
    have hpiece : ∀ p : Text,
        (", ".toList ++ dropSpaces p).filter (· != ' ') = ([','] ++ p).filter (· != ' ') := by
      intro p
      rw [List.filter_append, List.filter_append, filter_dropSpaces]
      rfl
    rw [respaced, intercalate_cons, List.filter_append, List.filter_append, List.filter_flatMap,
      List.filter_flatMap]
    simp only [hpiece]

/-! ## Main statement -/

/-- Spacing the commas of a text keeps its first piece and drops from each further one the spaces
that open it, with a comma and one space between neighbours. So a second spacing changes nothing,
no character but a space is lost, added or moved, and words joined by single spaces become such
words again, once the space behind a last comma is trimmed. -/
theorem spaceCommas_respaces :
    (∀ t : Text, spaceCommas t = respaced (t.splitOn ',')) ∧
      (∀ t : Text, spaceCommas (spaceCommas t) = spaceCommas t) ∧
      (∀ t : Text, (spaceCommas t).filter (· != ' ') = t.filter (· != ' ')) ∧
      ∀ ws : List Text, (∀ w ∈ ws, IsWord w) →
        ∃ vs : List Text, (∀ v ∈ vs, IsWord v) ∧ vs.flatten = ws.flatten ∧
          (spaceCommas (joinWords ws)).trimEnd = joinWords vs := by
  refine ⟨spaceCommas_eq_respaced, ?_, ?_, ?_⟩
  · intro t
    obtain ⟨first, others, ht⟩ := List.exists_cons_of_ne_nil (List.splitOn_ne_nil ',' t)
    have hpieces : ∀ p ∈ first :: others, ',' ∉ p := by
      intro p hp
      rw [← ht] at hp
      exact not_mem_of_mem_splitOn hp
    rw [spaceCommas_eq_respaced, spaceCommas_eq_respaced, ht, splitOn_respaced hpieces,
      respaced_map_dropSpaces]
  · intro t
    rw [spaceCommas_eq_respaced, filter_respaced, List.intercalate_splitOn]
  · intro ws hws
    refine ⟨ws.flatMap clauses, ?_, ?_, trimEnd_spaceCommas_joinWords hws⟩
    · intro v hv
      obtain ⟨w, hw, hmem⟩ := List.mem_flatMap.1 hv
      exact isWord_of_mem_clauses (hws w hw).not_blank hmem
    · exact flatten_flatMap_clauses ws

/-- Commas in a row, behind spaces, in front of a tab and at the end. -/
theorem spaceCommas_respaces_commas :
    let ws : List Text := [",r1,,r2".toList, ",".toList, "x,".toList]
    (∀ w ∈ ws, IsWord w) ∧
      spaceCommas ", ,  a,\t b ,".toList = ", , a, \t b , ".toList ∧
      spaceCommas ", , a, \t b , ".toList = ", , a, \t b , ".toList ∧
      ∃ vs : List Text, (∀ v ∈ vs, IsWord v) ∧ vs.flatten = ws.flatten ∧
        (spaceCommas (joinWords ws)).trimEnd = joinWords vs := by
  intro ws
  have hws : ∀ w ∈ ws, IsWord w := by
    have hempty : (ws.any fun w => w.isEmpty) = false := by decide
    have hblank : (ws.any fun w => w.any isBlank) = false := by decide
    rw [List.any_eq_false] at hempty hblank
    intro w hw
    refine ⟨fun hnil => hempty w hw (List.isEmpty_iff.2 hnil), ?_⟩
    have hchars := hblank w hw
    rw [Bool.not_eq_true, List.any_eq_false] at hchars
    intro c hc
    exact eq_false_of_ne_true (hchars c hc)
  have hresult : spaceCommas ", ,  a,\t b ,".toList = ", , a, \t b , ".toList := by decide
  obtain ⟨-, hagain, -, hwords⟩ := spaceCommas_respaces
  refine ⟨hws, hresult, ?_, hwords ws hws⟩
  have hsame := hagain ", ,  a,\t b ,".toList
  rw [hresult] at hsame
  exact hsame

end AsmFormat.Text
