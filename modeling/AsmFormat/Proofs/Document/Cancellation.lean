import AsmFormat.Job
import AsmFormat.Proofs.Document.Edits

/-!
# Passes that are told to stop

A pass asks before each line whether it shall stop, and any sequence of answers may come. `Pass.reach`
is the number of lines that it looks at: the answers up to the first yes. One step of the pass takes
one answer and one line (`Pass.scan_eq`), so what the pass finds is what a pass without interruption
finds in these lines.

Main statement: the polls, the edits and the events of a pass are those of the lines up to the first
yes, and a pass over the lines behind them finds the edits that are missing
(`formatRange_cancelled`).
-/

set_option autoImplicit false

namespace AsmFormat

variable {s : Settings} {lines : List Text} {r : LineRange} {cancel : Nat → Bool}

/-! ## Edits of consecutive lines -/

/-- The edits of lines, the first of which has the given index. -/
def editsFrom (s : Settings) (index : Nat) (lines : List Text) : List Edit :=
  (lines.zipIdx index).filterMap fun p => editOf? s p.2 p.1

theorem editsFrom_append (s : Settings) (index : Nat) (xs ys : List Text) :
    editsFrom s index (xs ++ ys) = editsFrom s index xs ++ editsFrom s (index + xs.length) ys := by
  rw [editsFrom, List.zipIdx_append, List.filterMap_append]
  rfl

/-- The edits name the lines that they are the edits of. -/
theorem line_of_mem_editsFrom {index : Nat} {e : Edit} (he : e ∈ editsFrom s index lines) :
    index ≤ e.line ∧ e.line < index + lines.length := by
  obtain ⟨⟨line, i⟩, hmem, hedit⟩ := List.mem_filterMap.1 he
  obtain ⟨rfl, -, -⟩ := editOf?_eq_some_iff.1 hedit
  rw [List.mk_mem_zipIdx_iff_le_and_getElem?_sub] at hmem
  obtain ⟨hle, hline⟩ := hmem
  have hlt := (List.getElem?_eq_some_iff.1 hline).1
  exact ⟨hle, by omega⟩

/-- The edits of the first lines are those that name one of them. -/
theorem editsFrom_take (s : Settings) (index k : Nat) (lines : List Text) :
    editsFrom s index (lines.take k) =
      (editsFrom s index lines).filter fun e => e.line < index + k := by
  conv => rhs; rw [← List.take_append_drop k lines, editsFrom_append, List.filter_append]
  have hbefore : (editsFrom s index (lines.take k)).filter (fun e => e.line < index + k) =
      editsFrom s index (lines.take k) := by
    rw [List.filter_eq_self]
    intro e he
    have hline := (line_of_mem_editsFrom he).2
    rw [List.length_take] at hline
    rw [decide_eq_true_iff]
    omega
  have hbehind : (editsFrom s (index + (lines.take k).length) (lines.drop k)).filter
      (fun e => e.line < index + k) = [] := by
    rw [List.filter_eq_nil_iff]
    intro e he
    obtain ⟨hle, hlt⟩ := line_of_mem_editsFrom he
    rw [List.length_take] at hle hlt
    rw [List.length_drop] at hlt
    rw [decide_eq_true_iff]
    omega
  rw [hbefore, hbehind, List.append_nil]

/-! ## One step and the whole pass -/

namespace Pass

/-- How many of a number of lines a pass looks at: it stops before the first one at which the answer
is yes. -/
def reach (cancel : Nat → Bool) (lineCount : Nat) : Nat :=
  (List.range lineCount).findIdx cancel

theorem reach_le (cancel : Nat → Bool) (m : Nat) : reach cancel m ≤ m := by
  have h : (List.range m).findIdx cancel ≤ (List.range m).length := List.findIdx_le_length
  rw [List.length_range] at h
  exact h

/-- The answers before the stop are no. -/
theorem answer_of_lt_reach {m j : Nat} (hj : j < reach cancel m) : cancel j = false := by
  have h := List.not_of_lt_findIdx hj
  rw [List.getElem_range] at h
  simpa using h

/-- The answer at the stop is yes. -/
theorem answer_reach {m : Nat} (h : reach cancel m < m) : cancel (reach cancel m) = true := by
  have hlt : (List.range m).findIdx cancel < (List.range m).length := by
    rw [List.length_range]
    exact h
  have hyes := List.findIdx_getElem (w := hlt)
  rw [List.getElem_range] at hyes
  exact hyes

/-- The pass stops where the answers say. It holds the edits of the lines before, and it has asked
once for each of them and once more if it stops. -/
theorem scan_eq (s : Settings) (cancel : Nat → Bool) (found : List Edit) (index polls : Nat)
    (lines : List Text) :
    let k := (List.range' polls lines.length).findIdx cancel
    scan s cancel found index polls lines =
      ⟨found.reverse ++ editsFrom s index (lines.take k), polls + min (k + 1) lines.length,
        if k < lines.length then some (index + k) else none⟩ := by
  induction lines generalizing found index polls with
  | nil => simp [scan, editsFrom]
  | cons line rest ih =>
    rw [scan, List.length_cons, List.range'_succ, List.findIdx_cons]
    cases hanswer : cancel polls with
    | true => simp [editsFrom]
    | false =>
      have hpolls : ∀ k, polls + 1 + min (k + 1) rest.length =
          polls + min (k + 1 + 1) (rest.length + 1) := by
        intro k
        omega
      cases hedit : editOf? s index line with
      | none =>
        simp [ih, editsFrom, List.zipIdx_cons, hedit, hpolls, Nat.add_assoc, Nat.add_comm 1]
      | some edit =>
        simp [ih, editsFrom, List.zipIdx_cons, hedit, hpolls, Nat.add_assoc, Nat.add_comm 1]

end Pass

/-! ## Ranges -/

theorem length_window (r : LineRange) (lines : List Text) :
    (r.window lines).length = r.count lines.length := by
  rw [LineRange.window, LineRange.count, List.length_drop, List.length_take, Nat.min_comm]

/-- A range holds no line of a document exactly if it ends before it starts or starts behind the
document. -/
theorem count_eq_zero_iff (r : LineRange) (n : Nat) :
    r.count n = 0 ↔ r.last < r.first ∨ n ≤ r.first.toNat := by
  rw [LineRange.count, UInt64.lt_iff_toNat_lt]
  omega

/-- What a pass finds, asks and is told. -/
theorem formatRange_eq (s : Settings) (lines : List Text) (r : LineRange) (cancel : Nat → Bool) :
    let k := Pass.reach cancel (r.count lines.length)
    formatRange s lines r cancel =
      ⟨editsFrom s r.first.toNat ((r.window lines).take k), min (k + 1) (r.count lines.length),
        if k < r.count lines.length then some (r.first.toNat + k) else none⟩ := by
  intro k
  have h := Pass.scan_eq s cancel [] r.first.toNat 0 (r.window lines)
  simp only [length_window, ← List.range_eq_range', Nat.zero_add] at h
  exact h

theorem edits_formatRange_eq_editsFrom (s : Settings) (lines : List Text) (r : LineRange) :
    (formatRange s lines r neverCancelled).edits = editsFrom s r.first.toNat (r.window lines) :=
  edits_formatRange s lines r

/-- A pass that is never told to stop asks once for each line of the range. -/
theorem polls_formatRange (s : Settings) (lines : List Text) (r : LineRange) :
    (formatRange s lines r neverCancelled).polls = r.count lines.length := by
  have hreach : ¬Pass.reach neverCancelled (r.count lines.length) < r.count lines.length := by
    intro hstop
    have hanswer := Pass.answer_reach hstop
    cases hanswer
  rw [formatRange_eq]
  dsimp only
  omega

/-- The lines behind the first lines of a range are a range. -/
theorem window_eq_drop {rest : LineRange} {k : Nat} (hfirst : rest.first.toNat = r.first.toNat + k)
    (hlast : rest.last = r.last) (lines : List Text) :
    rest.window lines = (r.window lines).drop k := by
  rw [LineRange.window, LineRange.window, List.drop_drop, hfirst, hlast]

/-- The events of a pass: one for each edit, in order, and one for the stop. -/
theorem map_events (r : LineRange) (n : Nat) (p : Pass) :
    (p.events r n).map (fun event => (event.level, event.message)) =
      p.edits.map (fun e => (Level.debug, "line ".toList ++ Nat.toDigits 10 (e.line + 1) ++
          " changes to ".toList ++ Text.quoted e.replacement)) ++
        p.stoppedBefore.toList.map fun index =>
          (Level.info, "formatting cancelled before line ".toList ++ Nat.toDigits 10 (index + 1) ++
            "; keeping ".toList ++ Nat.toDigits 10 p.edits.length ++ " edits".toList) := by
  simp only [Pass.events, List.map_append, List.map_map]
  rfl

/-! ## Main statement -/

/-- Let a pass be told to stop at the first yes among the answers to its polls, so that it looks at
`k` of the `m` lines of the range. It polls once for each of these lines and once more if it stops.
Its edits are those edits of a pass without interruption that name one of these lines. Its events are
one for each edit and one for the stop. A pass over the rest of the range finds the edits that are
missing. -/
theorem formatRange_cancelled (s : Settings) (lines : List Text) (r : LineRange)
    (cancel : Nat → Bool) :
    let m := r.count lines.length
    let k := Pass.reach cancel m
    let pass := formatRange s lines r cancel
    let whole := (formatRange s lines r neverCancelled).edits
    (m = 0 ↔ r.last < r.first ∨ lines.length ≤ r.first.toNat) ∧
      (k ≤ m ∧ (∀ j < k, cancel j = false) ∧ (k < m → cancel k = true)) ∧
      pass.polls = min (k + 1) m ∧
      pass.edits = whole.filter (fun e => e.line < r.first.toNat + k) ∧
      (pass.events r lines.length).map (fun event => (event.level, event.message)) =
        pass.edits.map (fun e => (.debug, "line ".toList ++ Nat.toDigits 10 (e.line + 1) ++
            " changes to ".toList ++ Text.quoted e.replacement)) ++
          (if k < m then
            [(.info, "formatting cancelled before line ".toList ++
              Nat.toDigits 10 (r.first.toNat + k + 1) ++ "; keeping ".toList ++
              Nat.toDigits 10 pass.edits.length ++ " edits".toList)]
          else []) ∧
      ∀ rest : LineRange, rest.first.toNat = r.first.toNat + k → rest.last = r.last →
        pass.edits ++ (formatRange s lines rest neverCancelled).edits = whole := by
  intro m k pass whole
  have hpass : pass = ⟨editsFrom s r.first.toNat ((r.window lines).take k), min (k + 1) m,
      if k < m then some (r.first.toNat + k) else none⟩ := formatRange_eq s lines r cancel
  have hwhole : whole = editsFrom s r.first.toNat (r.window lines) :=
    edits_formatRange_eq_editsFrom s lines r
  refine ⟨count_eq_zero_iff r lines.length,
    ⟨Pass.reach_le cancel m, fun j => Pass.answer_of_lt_reach, Pass.answer_reach⟩,
    by rw [hpass], by rw [hpass, hwhole, editsFrom_take], ?_, ?_⟩
  · have hstop : pass.stoppedBefore = if k < m then some (r.first.toNat + k) else none := by
      rw [hpass]
    rw [map_events, hstop]
    split
    · rfl
    · rfl
  · intro rest hfirst hlast
    have hlength : ((r.window lines).take k).length = k := by
      rw [List.length_take, length_window, Nat.min_eq_left (Pass.reach_le cancel m)]
    have hrest : (formatRange s lines rest neverCancelled).edits =
        editsFrom s (r.first.toNat + k) ((r.window lines).drop k) := by
      rw [edits_formatRange_eq_editsFrom, hfirst, window_eq_drop hfirst hlast]
    have happend := editsFrom_append s r.first.toNat ((r.window lines).take k)
      ((r.window lines).drop k)
    rw [List.take_append_drop, hlength] at happend
    rw [hrest, hpass, hwhole, happend]

/-- Of three lines the last two are to be formatted, and the second poll is answered with yes. One
edit is kept, and the pass over the rest of the range finds the other. -/
theorem formatRange_cancelled_before_third :
    let lines : List Text := [" mov r1,r2".toList, " inc r1".toList, " dec r1".toList]
    let r : LineRange := ⟨1, 2⟩
    let rest : LineRange := ⟨2, 2⟩
    let pass := formatRange {} lines r fun j => j == 1
    rest.first.toNat = r.first.toNat + Pass.reach (fun j => j == 1) (r.count lines.length) ∧
      rest.last = r.last ∧ pass.polls = 2 ∧ pass.stoppedBefore = some 2 ∧
      pass.edits = [⟨1, "         INC r1".toList⟩] ∧
      pass.edits ++ (formatRange {} lines rest neverCancelled).edits =
        (formatRange {} lines r neverCancelled).edits := by
  intro lines r rest pass
  have hfirst : rest.first.toNat =
      r.first.toNat + Pass.reach (fun j => j == 1) (r.count lines.length) := by decide +kernel
  have hlast : rest.last = r.last := rfl
  obtain ⟨-, -, -, -, -, hrest⟩ := formatRange_cancelled {} lines r fun j => j == 1
  exact ⟨hfirst, hlast, by decide +kernel, by decide +kernel, by decide +kernel,
    hrest rest hfirst hlast⟩

end AsmFormat
