import AsmFormat.Proofs.Document.Cancellation
import AsmFormat.Proofs.Document.Listing
import AsmFormat.Proofs.Document.Rereading
import AsmFormat.Proofs.Job.Run
import Mathlib.Data.List.Sort

/-!
# Line numbers

The user counts lines from one and may leave out either end of a range, a pass counts from zero, and
a listing counts from one again. `Asked` says which numbers the user means, and `LineRange.Numbered`
that a range holds the lines with these numbers, with nothing lost at either end of 64 bits
(`holds_iff_asked`).

Of the lines of a file, `Source.asked` has the numbers of those that the user asks for, and
`Source.due` of those among them that formatting changes. Lists of rising numbers are told by their
members, so these are the numbers that a pass looks at (`asked_eq_range'`) and that a listing shows
(`map_number_changes`).

Main statement: `formatFile_line_numbers`. The numbers also tell the bytes that a job leaves in a file
apart from those before: in a file without stray carriage returns, the lines that are read again
differ exactly where a line is due (`reread_of_granted`).
-/

set_option autoImplicit false

namespace AsmFormat

variable {first? last? : Option UInt64} {r : LineRange} {s : Settings} {f : Source}

/-! ## Numbers of the user -/

/-- The user asks for the line with the number. Without a first line that is from line one on, and
without a last line up to the largest number of 64 bits. -/
def Asked (first? last? : Option UInt64) (n : Nat) : Prop :=
  (first?.getD 1).toNat ≤ n ∧ n ≤ (last?.getD LineRange.whole.last).toNat

instance (first? last? : Option UInt64) (n : Nat) : Decidable (Asked first? last? n) :=
  inferInstanceAs (Decidable (_ ∧ _))

namespace LineRange

/-- The range has the ends that the user gave, counted from zero. -/
structure Numbered (r : LineRange) (first? last? : Option UInt64) : Prop where
  first : r.first.toNat + 1 = (first?.getD 1).toNat
  last : ∀ n, last? = some n → r.last.toNat + 1 = n.toNat
  last_of_none : last? = none → r.last = whole.last

/-- A number that is not given is not zero. -/
theorem getD_eq_zero_iff {number? : Option UInt64} {missing : UInt64} (h : missing ≠ 0) :
    number?.getD missing = 0 ↔ number? = some 0 := by
  cases number? with
  | none => exact iff_of_false h (Option.some_ne_none 0).symm
  | some n => rw [Option.getD_some, Option.some.injEq]

theorem names_zero_iff : first?.getD 1 = 0 ∨ last?.getD whole.last = 0 ↔
    first? = some 0 ∨ last? = some 0 :=
  or_congr (getD_eq_zero_iff (by decide)) (getD_eq_zero_iff (by decide))

/-- Why numbers are refused, and with which failure. -/
theorem ofNumbers_eq_error_iff {failure : Failure} :
    ofNumbers first? last? = .error failure ↔
      (first? = some 0 ∨ last? = some 0 ∨ last?.getD whole.last < first?.getD 1) ∧
        failure = .badLineRange (first?.getD 1) (last?.getD whole.last) := by
  rw [← or_assoc, ← names_zero_iff, or_assoc, ofNumbers]
  split
  · next hbad =>
    constructor
    · intro h
      exact ⟨hbad, (Except.error.inj h).symm⟩
    · rintro ⟨-, rfl⟩
      rfl
  · next hgood =>
    constructor
    · intro h
      cases h
    · rintro ⟨hbad, -⟩
      exact absurd hbad hgood

/-- One is taken from a number only if it is not zero. -/
theorem toNat_sub_one {n : UInt64} (hn : n ≠ 0) : (n - 1).toNat + 1 = n.toNat := by
  have hpos : 0 < n.toNat := Nat.pos_of_ne_zero fun h => hn (UInt64.toNat_inj.1 h)
  have hone : (1 : UInt64) ≤ n := UInt64.le_iff_toNat_le.2 hpos
  have hsub : (n - 1).toNat = n.toNat - 1 := UInt64.toNat_sub_of_le n 1 hone
  omega

theorem numbered_of_ofNumbers (h : ofNumbers first? last? = .ok r) : r.Numbered first? last? := by
  rw [ofNumbers] at h
  split at h
  · cases h
  · next hgood =>
    obtain ⟨hfirst, hlast, -⟩ : _ ∧ _ ∧ _ := by
      rw [not_or, not_or] at hgood
      exact hgood
    cases h
    refine ⟨toNat_sub_one hfirst, ?_, ?_⟩
    · rintro n rfl
      exact toNat_sub_one hlast
    · rintro rfl
      rfl

/-- The range holds the lines that the user asks for. -/
theorem holds_iff_asked (h : r.Numbered first? last?) {i : Nat} (hi : i + 1 < UInt64.size) :
    r.Holds i ↔ Asked first? last? (i + 1) := by
  have hfirst := h.first
  rw [Holds, Asked]
  cases last? with
  | none =>
    -- the last index of 64 bits has no number of 64 bits, and no line
    have hwhole : (whole.last : UInt64).toNat = UInt64.size - 1 := rfl
    rw [h.last_of_none rfl, Option.getD_none]
    omega
  | some n =>
    have hlast := h.last n rfl
    rw [Option.getD_some]
    omega

end LineRange

/-- The message says that the range includes zero exactly if it does. -/
theorem Failure.includes_zero_iff (first last : UInt64) :
    "includes 0".toList <:+: (Failure.badLineRange first last).message ↔
      first = 0 ∨ last = 0 := by
  rw [message.eq_def]
  dsimp only
  split
  · next hzero =>
    refine iff_of_true ?_ hzero
    have hend : "includes 0".toList <:+ " includes 0".toList := by decide
    apply List.IsSuffix.isInfix
    apply hend.trans
    exact List.suffix_append _ _
  · next hnonzero =>
    refine iff_of_false ?_ hnonzero
    intro hinfix
    -- the other message has no letter "u"
    have hletter : 'u' ∈ "includes 0".toList := by decide
    have hmem := hinfix.subset hletter
    have hfirst := not_mem_toDigits (c := 'u') rfl first.toNat
    have hlast := not_mem_toDigits (c := 'u') rfl last.toNat
    simp [hfirst, hlast] at hmem

/-! ## Numbers of lines -/

namespace Source

/-- The line with a number. -/
def line? (f : Source) (n : Nat) : Option Text :=
  if n = 0 then none else f.lines[n - 1]?

/-- The numbers of the lines. -/
def numbers (f : Source) : List Nat :=
  List.range' 1 f.lines.length

/-- Formatting changes the line with the number. -/
def Unformatted (s : Settings) (f : Source) (n : Nat) : Prop :=
  ∃ line ∈ f.line? n, formatLine s line ≠ line

instance (s : Settings) (f : Source) (n : Nat) : Decidable (f.Unformatted s n) :=
  inferInstanceAs (Decidable (∃ line ∈ f.line? n, _))

/-- The numbers of the lines that the user asks for. -/
def asked (f : Source) (first? last? : Option UInt64) : List Nat :=
  f.numbers.filter fun n => Asked first? last? n

/-- The numbers of the lines that the user asks for and formatting changes. -/
def due (s : Settings) (f : Source) (first? last? : Option UInt64) : List Nat :=
  (f.asked first? last?).filter fun n => f.Unformatted s n

theorem mem_asked_iff {n : Nat} :
    n ∈ f.asked first? last? ↔ (1 ≤ n ∧ n ≤ f.lines.length) ∧ Asked first? last? n := by
  rw [asked, List.mem_filter, decide_eq_true_iff, numbers, List.mem_range'_1]
  apply and_congr_left
  intro _
  omega

theorem mem_due_iff {n : Nat} : n ∈ f.due s first? last? ↔
    n ∈ f.asked first? last? ∧ f.Unformatted s n := by
  rw [due, List.mem_filter, decide_eq_true_iff]

theorem rising_asked : (f.asked first? last?).Pairwise (· < ·) :=
  List.Pairwise.filter _ List.pairwise_lt_range'

theorem rising_due : (f.due s first? last?).Pairwise (· < ·) :=
  rising_asked.filter _

variable (h : r.Numbered first? last?) (hlines : f.lines.length < UInt64.size)

include h hlines

/-- The lines with these numbers are those of the range. -/
theorem succ_mem_asked_iff {i : Nat} :
    i + 1 ∈ f.asked first? last? ↔ i < f.lines.length ∧ r.Holds i := by
  rw [mem_asked_iff]
  constructor
  · rintro ⟨⟨-, hi⟩, hasked⟩
    exact ⟨hi, (LineRange.holds_iff_asked h (by omega)).2 hasked⟩
  · rintro ⟨hi, hholds⟩
    exact ⟨⟨by omega, hi⟩, (LineRange.holds_iff_asked h (by omega)).1 hholds⟩

theorem asked_eq_range' :
    f.asked first? last? = List.range' (r.first.toNat + 1) (r.count f.lines.length) := by
  apply List.Pairwise.eq_of_mem_iff rising_asked List.pairwise_lt_range'
  intro n
  cases n with
  | zero => simp [mem_asked_iff]
  | succ i =>
    rw [succ_mem_asked_iff h hlines, LineRange.Holds, LineRange.count, List.mem_range'_1]
    omega

theorem length_asked : (f.asked first? last?).length = r.count f.lines.length := by
  rw [asked_eq_range' h hlines, List.length_range']

theorem succ_mem_due_iff {i : Nat} : i + 1 ∈ f.due s first? last? ↔
    r.Holds i ∧ ∃ line, f.lines[i]? = some line ∧ formatLine s line ≠ line := by
  have hline : f.line? (i + 1) = f.lines[i]? := rfl
  rw [mem_due_iff, succ_mem_asked_iff h hlines, Unformatted, hline]
  constructor
  · rintro ⟨⟨-, hholds⟩, hchange⟩
    exact ⟨hholds, hchange⟩
  · rintro ⟨hholds, line, hsome, hchange⟩
    exact ⟨⟨(List.getElem?_eq_some_iff.1 hsome).1, hholds⟩, line, hsome, hchange⟩

/-- The formatted file differs in the lines that are due. -/
theorem line?_formatted_ne_iff (n : Nat) :
    (f.formatted s r).line? n ≠ f.line? n ↔ n ∈ f.due s first? last? := by
  cases n with
  | zero =>
    have hzero : (0 : Nat) ∉ f.due s first? last? := by
      rw [mem_due_iff, mem_asked_iff]
      omega
    exact iff_of_false (fun hne => hne rfl) hzero
  | succ i =>
    have hline : f.line? (i + 1) = f.lines[i]? := rfl
    have hformatted : (f.formatted s r).line? (i + 1) = (f.formatted s r).lines[i]? := rfl
    rw [succ_mem_due_iff h hlines, hline, hformatted, getElem?_lines_formatted]
    cases f.lines[i]? with
    | none => simp
    | some line =>
      -- outside the range the line is as it was, and inside it is formatted
      by_cases hholds : r.Holds i
      · simp [hholds]
      · simp [hholds]

/-- The changes have the numbers of the lines that are due. -/
theorem map_number_changes : (f.changes s r).map Change.number = f.due s first? last? := by
  have hrising : ((f.changes s r).map Change.number).Pairwise (· < ·) :=
    List.pairwise_map.2 (f.pairwise_changes s r)
  apply hrising.eq_of_mem_iff rising_due
  intro n
  rw [changes, List.map_map, List.mem_map]
  constructor
  · rintro ⟨e, he, rfl⟩
    obtain ⟨hholds, line, hline, -, hchange⟩ := mem_edits_iff.1 he
    exact (succ_mem_due_iff h hlines).2 ⟨hholds, line, hline, hchange⟩
  · intro hn
    cases n with
    | zero =>
      rw [mem_due_iff, mem_asked_iff] at hn
      omega
    | succ i =>
      obtain ⟨hholds, line, hline, hchange⟩ := (succ_mem_due_iff h hlines).1 hn
      exact ⟨⟨i, formatLine s line⟩, mem_edits_iff.2 ⟨hholds, line, hline, rfl, hchange⟩, rfl⟩

end Source

/-! ## Numbers of what is read again -/

/-- A file without stray carriage returns that was formatted and written is read again with other
lines exactly where a line is due. -/
theorem Source.line?_reread_ne_iff {body : Text} (h : r.Numbered first? last?)
    (hlines : (ofText body).lines.length < UInt64.size) (hstray : ¬(ofText body).StrayReturn)
    (n : Nat) :
    (ofText ((ofText body).formatted s r).written).line? n ≠ (ofText body).line? n ↔
      n ∈ (ofText body).due s first? last? := by
  rw [← line?_formatted_ne_iff h hlines]
  cases n with
  | zero => exact Iff.rfl
  | succ i =>
    have hnone : ¬(ofText body).StrayAt i :=
      fun hi => hstray (strayReturn_iff_exists.2 ⟨i, hi⟩)
    exact (getElem?_lines_reread_ne_iff s r body i).trans (or_iff_left hnone)

/-! ## Main statement -/

namespace World

/-- A job reports how many lines are asked for and how many of them are due. -/
theorem outcome_eq (job : Job) (h : job.range.Numbered first? last?)
    (hlines : f.lines.length < UInt64.size) :
    job.outcome f = ⟨(f.asked first? last?).length, (f.due job.settings first? last?).length⟩ := by
  have hdue : (f.due job.settings first? last?).length = (job.edits f).length := by
    rw [← Source.map_number_changes h hlines, List.length_map, Source.changes, List.length_map]
    rfl
  rw [Job.outcome, Source.length_asked h hlines, hdue]

/-- A file has no edits exactly if no line is due. -/
theorem edits_eq_nil_iff (job : Job) (h : job.range.Numbered first? last?)
    (hlines : f.lines.length < UInt64.size) :
    job.edits f = [] ↔ f.due job.settings first? last? = [] := by
  rw [← Source.map_number_changes h hlines, List.map_eq_nil_iff, Source.changes,
    List.map_eq_nil_iff]
  rfl

/-- The file that a job writes holds a text with other lines exactly where a line was due. -/
theorem reread_of_granted {job : Job} {body : Text} {w : World} {path : Path}
    (h : job.range.Numbered first? last?) (hlines : (Source.ofText body).lines.length < UInt64.size)
    (hstray : ¬(Source.ofText body).StrayReturn) (hgranted : job.Granted body w)
    (hpath : job.mode = .file path ∨ job.mode = .inPlace ∧ job.input = path) :
    ∃ (w' : World) (text : Text),
      formatFile World.host job w = (.ok (job.outcome (.ofText body)), w') ∧
        w'.storage.contents path = .ok text.utf8 ∧
        ∀ n, (Source.ofText text).line? n ≠ (Source.ofText body).line? n ↔
          n ∈ (Source.ofText body).due job.settings first? last? := by
  obtain ⟨w', hrun, hdone⟩ := formatFile_of_granted discreet_report hgranted
  have hreread := Source.line?_reread_ne_iff (s := job.settings) h hlines hstray
  -- the text is the result, unless the file is left alone
  rcases hpath with hmode | ⟨hmode, rfl⟩
  · rw [Job.delivery, hmode] at hdone
    exact ⟨w', (job.result (.ofText body)).written, hrun, hdone.2, hreread⟩
  · by_cases hedits : job.edits (.ofText body) = []
    · rw [Job.delivery_inPlace_of_eq_nil hmode hedits] at hdone
      have hsame : w'.storage = w.storage := hdone
      refine ⟨w', body, hrun, ?_, ?_⟩
      · rw [hsame]
        exact contents_of_read hgranted.read
      · intro n
        rw [(edits_eq_nil_iff job h hlines).1 hedits]
        exact iff_of_false (fun hne => hne rfl) List.not_mem_nil
    · rw [Job.delivery_inPlace_of_ne_nil hmode hedits] at hdone
      exact ⟨w', (job.result (.ofText body)).written, hrun, hdone.2, hreread⟩

/-- A range is refused exactly if one of its numbers is zero or the first one comes behind the last
one, and the message says which of the two. Otherwise no number wraps around, and the numbers of the
lines that a job changes, and that its listing shows, are those that are due. The job examines as
many lines as are asked for, and a pass polls as often. -/
theorem formatFile_line_numbers (first? last? : Option UInt64) :
    ((∃ failure, LineRange.ofNumbers first? last? = .error failure) ↔
        first? = some 0 ∨ last? = some 0 ∨ last?.getD LineRange.whole.last < first?.getD 1) ∧
      (∀ failure, LineRange.ofNumbers first? last? = .error failure →
        ("includes 0".toList <:+: failure.message ↔ first? = some 0 ∨ last? = some 0)) ∧
      ∀ r, LineRange.ofNumbers first? last? = .ok r →
        r.Numbered first? last? ∧
        ∀ (s : Settings) (f : Source), f.lines.length < UInt64.size →
          let asked := f.asked first? last?
          let due := f.due s first? last?
          (∀ n, (f.formatted s r).line? n ≠ f.line? n ↔ n ∈ due) ∧
          (f.changes s r).map Change.number = due ∧
          r.count f.lines.length = asked.length ∧
          (formatRange s f.lines r neverCancelled).polls = asked.length ∧
          due.length ≤ asked.length ∧
          ∀ (input : Path) (mode : Mode) (body : Text) (w : World), f = .ofText body →
            Job.Granted ⟨input, s, r, mode⟩ body w →
            ∃ w', formatFile World.host ⟨input, s, r, mode⟩ w =
                (.ok ⟨asked.length, due.length⟩, w') ∧
              match mode with
              | .check =>
                w'.output.delivered =
                  w.output.delivered ++ Text.utf8 (Change.listing input (f.changes s r))
              | .standardOutput =>
                w'.output.delivered = w.output.delivered ++ (f.formatted s r).written.utf8
              | .file path => w'.storage.contents path = .ok (f.formatted s r).written.utf8
              | .inPlace =>
                if due = [] then w'.storage = w.storage
                else w'.storage.contents input = .ok (f.formatted s r).written.utf8 := by
  refine ⟨?_, ?_, ?_⟩
  · constructor
    · rintro ⟨failure, hfailure⟩
      exact (LineRange.ofNumbers_eq_error_iff.1 hfailure).1
    · intro hrefused
      exact ⟨_, LineRange.ofNumbers_eq_error_iff.2 ⟨hrefused, rfl⟩⟩
  · intro failure hfailure
    obtain ⟨-, rfl⟩ := LineRange.ofNumbers_eq_error_iff.1 hfailure
    rw [Failure.includes_zero_iff, LineRange.names_zero_iff]
  · intro r hr
    have hnumbered := LineRange.numbered_of_ofNumbers hr
    refine ⟨hnumbered, ?_⟩
    intro s f hlines asked due
    have hasked : asked.length = r.count f.lines.length := Source.length_asked hnumbered hlines
    refine ⟨Source.line?_formatted_ne_iff hnumbered hlines,
      Source.map_number_changes hnumbered hlines, hasked.symm, ?_, List.length_filter_le _ _, ?_⟩
    · rw [hasked]
      exact polls_formatRange s f.lines r
    · rintro input mode body w rfl hgranted
      obtain ⟨w', hrun, hdone⟩ := formatFile_of_granted discreet_report hgranted
      have houtcome := outcome_eq ⟨input, s, r, mode⟩ hnumbered hlines
      have hnone := edits_eq_nil_iff ⟨input, s, r, mode⟩ hnumbered hlines
      rw [houtcome] at hrun
      refine ⟨w', hrun, ?_⟩
      cases mode with
      | check =>
        obtain ⟨-, hdelivered⟩ := hdone
        rw [← Source.flatten_listing]
        exact hdelivered
      | standardOutput => exact hdone.2
      | file path => exact hdone.2
      | inPlace =>
        dsimp only
        split
        · next hdue =>
          rw [Job.delivery_inPlace_of_eq_nil rfl (hnone.2 hdue)] at hdone
          exact hdone
        · next hdue =>
          rw [Job.delivery_inPlace_of_ne_nil rfl fun hedits => hdue (hnone.1 hedits)] at hdone
          exact hdone.2

/-- A check from line two on finds two of three lines to change and prints their numbers. A range
that starts with line zero is refused. -/
theorem formatFile_line_numbers_of_missing_last :
    let body : Text := " rt\n rt\n;x\n rt\n".toList
    let f := Source.ofText body
    let r : LineRange := { first := 1 }
    let job : Job := ⟨"a.asm".toList, {}, r, .check⟩
    let w := World.holding "a.asm".toList body.utf8
    LineRange.ofNumbers (some 2) none = .ok r ∧ f.lines.length < UInt64.size ∧
      job.Granted body w ∧
      (∃ w', formatFile World.host job w = (.ok ⟨3, 2⟩, w') ∧
        w'.output.delivered = Text.utf8
          "a.asm:2\n  -  rt\n  +          RT\na.asm:4\n  -  rt\n  +          RT\n".toList) ∧
      ∃ failure, LineRange.ofNumbers (some 0) none = .error failure ∧
        "includes 0".toList <:+: failure.message := by
  intro body f r job w
  have hrange : LineRange.ofNumbers (some 2) none = .ok r := by decide
  have hlines : f.lines.length < UInt64.size := by decide +kernel
  have hgranted : job.Granted body w :=
    Job.granted_holding body {} r fun _ hmode => Mode.noConfusion hmode
  obtain ⟨-, -, hruns⟩ := formatFile_line_numbers (some 2) none
  obtain ⟨-, hfile⟩ := hruns r hrange
  obtain ⟨-, -, -, -, -, hjob⟩ := hfile {} f hlines
  obtain ⟨w', hrun, hdelivered⟩ := hjob "a.asm".toList .check body w rfl hgranted
  have hasked : (f.asked (some 2) none).length = 3 := by decide +kernel
  have hdue : (f.due {} (some 2) none).length = 2 := by decide +kernel
  rw [hasked, hdue] at hrun
  refine ⟨hrange, hlines, hgranted, ⟨w', hrun, ?_⟩, ?_⟩
  · exact hdelivered.trans (by decide +kernel)
  · obtain ⟨hrefused, hmessage, -⟩ := formatFile_line_numbers (some 0) none
    obtain ⟨failure, hfailure⟩ := hrefused.2 (Or.inl rfl)
    exact ⟨failure, hfailure, (hmessage failure hfailure).2 (Or.inl rfl)⟩

end World

end AsmFormat
