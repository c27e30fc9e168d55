import AsmFormat.Listing
import AsmFormat.Proofs.Document.Settled
import AsmFormat.Proofs.Text.Digits

/-!
# Listings as patches

A listing shows changes of lines: the number of a line, what it was and what it becomes.
`Change.ofListing?` reads the changes from a listing alone, without the file and its name, so a
listing says all that there is to say (`ofListing?_listing`). `Source.patched` carries the changes
out.

The listing of the edits of a pass is that of `Source.changes`. These are changes by rising line of
the file as it was read (`pairwise_changes`, `mem_changes`), and they lead to the formatted file
(`patched_changes`).
-/

set_option autoImplicit false

namespace AsmFormat

/-- The change of one line, by its number. Numbers count from one. -/
structure Change where
  number : Nat
  old : Text
  new : Text
deriving DecidableEq

namespace Change

/-! ## Listings -/

/-- The three rows that show a change. -/
def rows (name : Text) (c : Change) : List Text :=
  [name ++ ':' :: Nat.toDigits 10 c.number, "  - ".toList ++ c.old, "  + ".toList ++ c.new]

/-- The listing of changes to a file. -/
def listing (name : Text) (changes : List Change) : Text :=
  (changes.flatMap (rows name)).flatMap (· ++ ['\n'])

/-- The number behind the last colon. -/
def number? (row : Text) : Option Nat :=
  let digits := (row.reverse.takeWhile (· != ':')).reverse
  if digits.isEmpty || !digits.all Char.isDigit then none else some (Nat.ofDigitChars 10 digits 0)

/-- The change that three rows show. -/
def ofRows? (place old new : Text) : Option Change :=
  match old, new with
  | ' ' :: ' ' :: '-' :: ' ' :: old, ' ' :: ' ' :: '+' :: ' ' :: new =>
    (number? place).map fun number => ⟨number, old, new⟩
  | _, _ => none

/-- The changes that rows show, three rows for each. Behind the last line end there is nothing. -/
def readRows : List Text → Option (List Change)
  | [rest] => if rest.isEmpty then some [] else none
  | place :: old :: new :: rest => do
    let change ← ofRows? place old new
    let changes ← readRows rest
    return change :: changes
  | _ => none

/-- The changes that a listing shows. -/
def ofListing? (listing : Text) : Option (List Change) :=
  readRows (listing.splitOn '\n')

/-- Neither the old line nor the new one is two. -/
def OneLine (c : Change) : Prop :=
  '\n' ∉ c.old ∧ '\n' ∉ c.new

/-! ## Reading a listing -/

theorem number?_place (name : Text) (n : Nat) :
    number? (name ++ ':' :: Nat.toDigits 10 n) = some n := by
  have hdigit : ∀ c ∈ Nat.toDigits 10 n, c.isDigit = true := isDigit_of_mem_toDigits
  have hcolon : ∀ c ∈ (Nat.toDigits 10 n).reverse, (c != ':') = true := by
    intro c hc
    have hc := hdigit c (List.mem_reverse.1 hc)
    rw [bne_iff_ne]
    rintro rfl
    exact absurd hc (by decide)
  have hdigits : ((name ++ ':' :: Nat.toDigits 10 n).reverse.takeWhile (· != ':')).reverse =
      Nat.toDigits 10 n := by
    rw [List.reverse_append, List.reverse_cons, List.append_assoc,
      List.takeWhile_append_of_pos hcolon]
    simp
  rw [number?, hdigits]
  have hne : Nat.toDigits 10 n ≠ [] := Nat.toDigits_ne_nil
  simp [hne, List.all_eq_true.2 hdigit]

theorem readRows_rows (name : Text) (changes : List Change) :
    readRows (changes.flatMap (rows name) ++ [[]]) = some changes := by
  induction changes with
  | nil => rfl
  | cons c changes ih =>
    have hrows : (c :: changes).flatMap (rows name) ++ [[]] =
        (name ++ ':' :: Nat.toDigits 10 c.number) :: ("  - ".toList ++ c.old) ::
          ("  + ".toList ++ c.new) :: (changes.flatMap (rows name) ++ [[]]) := rfl
    have hchange : ofRows? (name ++ ':' :: Nat.toDigits 10 c.number) ("  - ".toList ++ c.old)
        ("  + ".toList ++ c.new) =
          (number? (name ++ ':' :: Nat.toDigits 10 c.number)).map fun n => ⟨n, c.old, c.new⟩ := rfl
    rw [hrows, readRows, hchange, number?_place, ih]
    rfl

/-- A listing is three rows with line ends for each change. -/
theorem splitOn_listing {name : Text} {changes : List Change} (hname : '\n' ∉ name)
    (hlines : ∀ c ∈ changes, c.OneLine) :
    (listing name changes).splitOn '\n' = changes.flatMap (rows name) ++ [[]] := by
  have hrow : ∀ row ∈ changes.flatMap (rows name) ++ [[]], '\n' ∉ row := by
    intro row hmem
    rw [List.mem_append, List.mem_singleton, List.mem_flatMap] at hmem
    rcases hmem with ⟨c, hc, hmem⟩ | rfl
    · obtain ⟨hold, hnew⟩ := hlines c hc
      simp only [rows, List.mem_cons, List.not_mem_nil, or_false] at hmem
      rcases hmem with rfl | rfl | rfl
      · simp [hname, not_mem_toDigits (c := '\n') rfl]
      · simp [hold]
      · simp [hnew]
    · exact List.not_mem_nil
  have hlisting : listing name changes =
      ['\n'].intercalate (changes.flatMap (rows name) ++ [[]]) := by
    have hrows := Source.intercalate_rows (changes.flatMap (rows name)) [] []
    simp only [List.append_nil, List.nil_append, List.map_id'] at hrows
    exact hrows.symm
  rw [hlisting, List.splitOn_intercalate '\n' hrow (by simp)]

/-- The changes are read back from a listing. -/
theorem ofListing?_listing {name : Text} {changes : List Change} (hname : '\n' ∉ name)
    (hlines : ∀ c ∈ changes, c.OneLine) : ofListing? (listing name changes) = some changes := by
  rw [ofListing?, splitOn_listing hname hlines, readRows_rows]

example : ofListing? "a:b.asm:12\n  - x  \n  + x\n".toList =
    some [⟨12, "x  ".toList, "x".toList⟩] := by decide +kernel

/-- No listing shows two lists of changes, whatever the names of the files. -/
theorem eq_of_listing_eq {name name' : Text} {changes changes' : List Change}
    (hname : '\n' ∉ name) (hname' : '\n' ∉ name') (hlines : ∀ c ∈ changes, c.OneLine)
    (hlines' : ∀ c ∈ changes', c.OneLine) (h : listing name changes = listing name' changes') :
    changes = changes' := by
  have hread := ofListing?_listing hname hlines
  rw [h, ofListing?_listing hname' hlines'] at hread
  exact (Option.some.inj hread).symm

end Change

/-! ## The changes of a pass -/

namespace Source

variable {s : Settings} {r : LineRange} {f : Source}

/-- The changes that a pass over a range of a file makes. -/
def changes (s : Settings) (r : LineRange) (f : Source) : List Change :=
  (f.edits s r).map fun e => ⟨e.line + 1, f.lines[e.line]?.getD [], e.replacement⟩

/-- The file with changes carried out, each to the line that it numbers. -/
def patched (f : Source) (changes : List Change) : Source :=
  { f with lines := changes.foldl (fun lines c => lines.set (c.number - 1) c.new) f.lines }

theorem flatten_listing (s : Settings) (r : LineRange) (f : Source) (name : Text) :
    (f.listing name (f.edits s r)).flatten = Change.listing name (f.changes s r) := by
  rw [listing_eq, Change.listing, changes]
  generalize f.edits s r = edits
  induction edits with
  | nil => rfl
  | cons e edits ih =>
    rw [List.flatMap_cons, List.flatten_append, ih, List.map_cons, List.flatMap_cons,
      List.flatMap_append]
    rfl

/-- The changes lead to the formatted file. -/
theorem patched_changes (s : Settings) (r : LineRange) (f : Source) :
    f.patched (f.changes s r) = f.formatted s r := by
  have hlines : (f.patched (f.changes s r)).lines = (f.formatted s r).lines := by
    rw [formatted, lines_apply]
    simp only [patched, changes, List.foldl_map, Nat.add_sub_cancel]
  simp only [patched, formatted, apply] at hlines ⊢
  rw [hlines]

/-- The changes come by rising line. -/
theorem pairwise_changes (s : Settings) (r : LineRange) (f : Source) :
    (f.changes s r).Pairwise (·.number < ·.number) := by
  rw [changes, List.pairwise_map]
  exact (pairwise_edits s f.lines r).imp Nat.succ_lt_succ

/-- A change is that of a line of the file, and it is one. -/
theorem mem_changes {c : Change} (hc : c ∈ f.changes s r) :
    0 < c.number ∧ f.lines[c.number - 1]? = some c.old ∧ c.new = formatLine s c.old ∧
      c.old ≠ c.new := by
  obtain ⟨e, he, rfl⟩ := List.mem_map.1 hc
  obtain ⟨-, line, hline, hreplacement, hchange⟩ := mem_edits_iff.1 he
  have hold : f.lines[e.line]?.getD [] = line := by rw [hline, Option.getD_some]
  refine ⟨Nat.succ_pos e.line, ?_, ?_, ?_⟩
  · rw [Nat.add_sub_cancel, hold, hline]
  · rw [hold, hreplacement]
  · rw [hold, hreplacement]
    exact hchange.symm

/-- No change of a file that was read makes two lines of one. -/
theorem oneLine_of_mem_changes {body : Text} :
    ∀ c ∈ (ofText body).changes s r, c.OneLine := by
  intro c hc
  obtain ⟨-, hline, hnew, -⟩ := mem_changes hc
  have hold : '\n' ∉ c.old :=
    lineFeed_not_mem_of_mem_lines_ofText (List.mem_of_getElem? hline)
  refine ⟨hold, ?_⟩
  rw [hnew]
  exact lineFeed_not_mem_formatLine s hold

end Source

end AsmFormat
