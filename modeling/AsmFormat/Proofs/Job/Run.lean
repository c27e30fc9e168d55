import AsmFormat.Job
import AsmFormat.Proofs.Document.Settled
import AsmFormat.Proofs.World.Requests

/-!
# Runs of a job

A job reads its input and makes one delivery: it prints, it replaces a file, or it writes nothing.
`Job.delivery` is the delivery of a job once the input is read, `Delivery.Taken` says that a world
takes it, and `Delivery.Done` what the world is afterwards.

Main statement: a job fails and the storage is as it was, or the delivery is done and the outcome is
that of the input (`formatFile_cases`). It fails only if the input cannot be read as text or the
delivery is not taken (`formatFile_of_granted`). How events are reported makes no difference, as long
as it touches no file.
-/

set_option autoImplicit false

namespace AsmFormat

/-- What a job asks to be written. -/
inductive Delivery where
  | nothing
  | print (pieces : List Text)
  | replace (path : Path) (contents : Text)

namespace Delivery

/-- The world takes the delivery. -/
def Taken (d : Delivery) (w : World) : Prop :=
  match d with
  | nothing => True
  | print pieces => (World.print (pieces.map Text.utf8) w).1 = .ok ()
  | replace path contents => (World.host.replaceFile path contents.utf8 w).1 = .ok ()

/-- What the world is after the delivery. -/
def Done (d : Delivery) (w w' : World) : Prop :=
  match d with
  | nothing => w'.storage = w.storage
  | print pieces =>
    w'.storage = w.storage ∧
      w'.output.delivered = w.output.delivered ++ Text.utf8 pieces.flatten
  | replace path contents =>
    w'.storage = w.storage.set (w.storage.locate path) (.file contents.utf8) ∧
      w'.storage.contents path = .ok contents.utf8

theorem taken_iff {d : Delivery} {w w' : World} (h : World.SameFiles w w') :
    d.Taken w' ↔ d.Taken w := by
  cases d with
  | nothing => exact Iff.rfl
  | print pieces => rw [Taken, Taken, (World.Respects.print _ w w' h).1]
  | replace path contents => rw [Taken, Taken, (World.Respects.replaceFile _ _ w w' h).1]

theorem Done.of_sameFiles {d : Delivery} {w w₁ w' : World} (h : World.SameFiles w w₁)
    (hd : d.Done w₁ w') : d.Done w w' := by
  cases d with
  | nothing =>
    rw [Done, h.storage] at hd
    exact hd
  | print pieces =>
    rw [Done, h.storage, h.output] at hd
    exact hd
  | replace path contents =>
    rw [Done, h.storage] at hd
    exact hd

end Delivery

namespace Job

/-- The edits of a job for a file. -/
def edits (job : Job) (source : Source) : List Edit :=
  source.edits job.settings job.range

/-- The file as a job leaves it. -/
def result (job : Job) (source : Source) : Source :=
  source.formatted job.settings job.range

/-- What a job reports on a file. -/
def outcome (job : Job) (source : Source) : Outcome :=
  ⟨job.range.count source.lines.length, (job.edits source).length⟩

/-- What a job asks to be written for a file. -/
def delivery (job : Job) (source : Source) : Delivery :=
  match job.mode with
  | .check => .print (source.listing job.input (job.edits source))
  | .standardOutput => .print (job.result source).pieces
  | .file path => .replace path (job.result source).written
  | .inPlace =>
    if (job.edits source).isEmpty then .nothing
    else .replace job.input (job.result source).written

/-- In place, a file without edits is left alone. -/
theorem delivery_inPlace_of_eq_nil {job : Job} {source : Source} (hmode : job.mode = .inPlace)
    (h : job.edits source = []) : job.delivery source = .nothing := by
  rw [delivery, hmode, h]
  rfl

/-- In place, a file with edits is replaced. -/
theorem delivery_inPlace_of_ne_nil {job : Job} {source : Source} (hmode : job.mode = .inPlace)
    (h : job.edits source ≠ []) :
    job.delivery source = .replace job.input (job.result source).written := by
  rw [delivery, hmode]
  exact if_neg fun hempty => h (List.isEmpty_iff.1 hempty)

/-- The input is read as the text, and the world takes what the job writes. -/
structure Granted (job : Job) (body : Text) (w : World) : Prop where
  read : (World.read job.input w).1 = .ok body.utf8
  taken : (job.delivery (.ofText body)).Taken w

end Job

namespace World

/-- The host of a world with another way to report events. -/
abbrev hostReporting (report : Event → StateM World Unit) : Host (StateM World) :=
  { host with report }

/-- A way to report events that touches no file. -/
def Discreet (report : Event → StateM World Unit) : Prop :=
  ∀ event w, SameFiles w (report event w).2

theorem discreet_report : Discreet World.report :=
  fun _ _ => ⟨rfl, rfl, rfl⟩

section Run

variable {report : Event → StateM World Unit} {job : Job} {w : World}

theorem sameFiles_reportAll (hreport : Discreet report) (events : List Event) (w : World) :
    SameFiles w (reportAll (hostReporting report) events w).2 := by
  induction events generalizing w with
  | nil => exact .refl w
  | cons event rest ih => exact (hreport event w).trans (ih _)

/-- The input is read as a text, or it is not and the job fails. -/
theorem readSource_cases (report : Event → StateM World Unit) (path : Path) (w : World) :
    (∃ failure, readSource (hostReporting report) path w = (.error failure, w) ∧
        ∀ body : Text, (World.read path w).1 ≠ .ok body.utf8) ∨
      ∃ body : Text, (World.read path w).1 = .ok body.utf8 ∧
        readSource (hostReporting report) path w = (.ok (.ofText body), w) := by
  obtain ⟨result, hread⟩ := exists_read_eq path w
  rw [hread]
  cases result with
  | error e =>
    refine Or.inl ⟨.access .read (.file path) e, ?_, by simp⟩
    simp only [readSource, bind, StateT.bind, host, hread]
    rfl
  | ok bytes =>
    cases htext : bytes.text? with
    | none =>
      refine Or.inl ⟨.notUnicode path, ?_, ?_⟩
      · simp only [readSource, bind, StateT.bind, host, hread, htext]
        rfl
      · -- the bytes of a text would have been read
        intro body hbody
        cases hbody
        rw [Bytes.text?_utf8] at htext
        cases htext
    | some body =>
      obtain rfl := Bytes.eq_utf8_of_text? htext
      refine Or.inr ⟨body, rfl, ?_⟩
      simp only [readSource, bind, StateT.bind, host, hread, htext]
      rfl

/-- To print is to offer the pieces to the standard output and to say so if it refuses one. -/
theorem printPieces_of_print {pieces : List Text} {result : Except AccessError Unit} {w' : World}
    (hprint : World.print (pieces.map Text.utf8) w = (result, w')) :
    printPieces (hostReporting report) pieces w =
      (result.mapError (.access .write .standardOutput), w') := by
  simp only [printPieces, bind_apply, host, hprint]
  cases result with
  | error e => rfl
  | ok _ => rfl

theorem printPieces_cases (pieces : List Text) (w : World) :
    (∃ failure w', printPieces (hostReporting report) pieces w = (.error failure, w') ∧
        w'.storage = w.storage ∧ ¬(Delivery.print pieces).Taken w) ∨
      ∃ w', printPieces (hostReporting report) pieces w = (.ok (), w') ∧
        (Delivery.print pieces).Done w w' := by
  cases hprint : World.print (pieces.map Text.utf8) w with
  | mk result next =>
    have hstorage : next.storage = w.storage := by
      rw [← storage_print (pieces.map Text.utf8) w, hprint]
    cases result with
    | error e =>
      refine Or.inl ⟨_, next, printPieces_of_print hprint, hstorage, ?_⟩
      simp [Delivery.Taken, hprint]
    | ok _ =>
      refine Or.inr ⟨next, printPieces_of_print hprint, hstorage, ?_⟩
      have hdelivered := delivered_print (pieces.map Text.utf8) (congrArg Prod.fst hprint)
      rw [hprint, Text.flatten_map_utf8] at hdelivered
      exact hdelivered

/-- The report that a file is written. -/
def writingEvent (path : Path) : Event where
  level := .debug
  target := "formatter::driver::output"
  message := "writing ".toList ++ path

/-- Events have no part in the replacement of a file. -/
theorem replaceFile_hostReporting (path : Path) (contents : Bytes) :
    (hostReporting report).replaceFile path contents = World.host.replaceFile path contents := by
  unfold Host.replaceFile Host.fill
  refine bind_congr fun created => ?_
  cases created with
  | error e => rfl
  | ok temporary =>
    refine bind_congr fun filled => ?_
    cases filled with
    | error e => rfl
    | ok _ => rfl

/-- Behind its report, to write a file is to replace it. -/
theorem writeSource_of_replaceFile {path : Path} {source : Source}
    {result : Except AccessError Unit} {w' : World}
    (hreplace : World.host.replaceFile path source.written.utf8 (report (writingEvent path) w).2 =
      (result, w')) :
    writeSource (hostReporting report) path source w =
      (result.mapError (.access .write (.file path)), w') := by
  rw [writingEvent] at hreplace
  simp only [writeSource, bind_apply, replaceFile_hostReporting, hreplace]
  cases result with
  | error e => rfl
  | ok _ => rfl

theorem writeSource_cases (hreport : Discreet report) (path : Path) (source : Source)
    (w : World) :
    (∃ failure w', writeSource (hostReporting report) path source w = (.error failure, w') ∧
        w'.storage = w.storage ∧ ¬(Delivery.replace path source.written).Taken w) ∨
      ∃ w', writeSource (hostReporting report) path source w = (.ok (), w') ∧
        (Delivery.replace path source.written).Done w w' := by
  -- the report comes first, and it touches no file
  have hfiles := hreport (writingEvent path) w
  rcases replaceFile_cases path source.written.utf8 (report (writingEvent path) w).2 with
    ⟨e, w', hreplace, hw'⟩ | ⟨w', hreplace, hw', hcontents⟩
  · refine Or.inl ⟨_, w', writeSource_of_replaceFile hreplace, hw'.trans hfiles.storage, ?_⟩
    rw [← Delivery.taken_iff hfiles, Delivery.Taken, hreplace]
    intro htaken
    cases htaken
  · exact Or.inr ⟨w', writeSource_of_replaceFile hreplace,
      .of_sameFiles hfiles ⟨hw', hcontents⟩⟩

/-- The delivery is done, or it is not taken and the storage is as it was. -/
theorem deliver_cases (hreport : Discreet report) (job : Job) (source : Source) (w : World) :
    (∃ failure w', deliver (hostReporting report) job source (job.edits source) w =
          (.error failure, w') ∧
        w'.storage = w.storage ∧ ¬(job.delivery source).Taken w) ∨
      ∃ w', deliver (hostReporting report) job source (job.edits source) w = (.ok (), w') ∧
        (job.delivery source).Done w w' := by
  cases hmode : job.mode with
  | check =>
    simp only [deliver, Job.delivery, hmode]
    exact printPieces_cases _ w
  | standardOutput =>
    simp only [deliver, Job.delivery, hmode]
    exact printPieces_cases _ w
  | file path =>
    simp only [deliver, Job.delivery, hmode]
    exact writeSource_cases hreport path _ w
  | inPlace =>
    simp only [deliver, Job.delivery, hmode]
    split
    · refine Or.inr ⟨_, rfl, ?_⟩
      exact (hreport _ w).storage
    · exact writeSource_cases hreport job.input _ w

/-- The world when everything is reported on a file and nothing is written yet. -/
def reported (report : Event → StateM World Unit) (job : Job) (source : Source) (w : World) :
    World :=
  let pass := formatRange job.settings source.lines job.range neverCancelled
  (report (job.outcome source).event
    (reportAll (hostReporting report) (pass.events job.range source.lines.length) w).2).2

theorem sameFiles_reported (hreport : Discreet report) (job : Job) (source : Source) (w : World) :
    SameFiles w (reported report job source w) :=
  (sameFiles_reportAll hreport _ w).trans (hreport _ _)

/-- Behind its reports, a job is its delivery. -/
theorem formatFile_of_deliver {body : Text} {result : Except Failure Unit} {w' : World}
    (hread : readSource (hostReporting report) job.input w = (.ok (.ofText body), w))
    (hdeliver : deliver (hostReporting report) job (.ofText body) (job.edits (.ofText body))
      (reported report job (.ofText body) w) = (result, w')) :
    formatFile (hostReporting report) job w =
      (result.map fun _ => job.outcome (.ofText body), w') := by
  simp only [reported, Job.edits, Source.edits, Job.outcome] at hdeliver
  simp only [formatFile, bind_apply, hread, hdeliver]
  cases result with
  | error failure => rfl
  | ok _ => rfl

/-- A job fails and the storage is as it was, or it does its delivery and reports the outcome. -/
theorem formatFile_cases (hreport : Discreet report) (job : Job) (w : World) :
    (∃ failure w', formatFile (hostReporting report) job w = (.error failure, w') ∧
        w'.storage = w.storage ∧ ∀ body, ¬job.Granted body w) ∨
      ∃ body w', formatFile (hostReporting report) job w =
          (.ok (job.outcome (.ofText body)), w') ∧
        (World.read job.input w).1 = .ok body.utf8 ∧
        (job.delivery (.ofText body)).Done w w' := by
  rcases readSource_cases report job.input w with
    ⟨failure, hread, hnot⟩ | ⟨body, hbody, hread⟩
  · refine Or.inl ⟨failure, w, ?_, rfl, fun body hgranted => hnot body hgranted.read⟩
    rw [formatFile, bind_apply, hread]
    rfl
  · have hfiles := sameFiles_reported hreport job (.ofText body) w
    rcases deliver_cases hreport job (.ofText body) (reported report job (.ofText body) w) with
      ⟨failure, w', hdeliver, hw', hnot⟩ | ⟨w', hdeliver, hdone⟩
    · refine Or.inl ⟨failure, w', formatFile_of_deliver hread hdeliver,
        hw'.trans hfiles.storage, ?_⟩
      intro other hgranted
      obtain rfl : other = body :=
        Text.utf8_inj.1 (Except.ok.inj (hgranted.read.symm.trans hbody))
      exact hnot ((Delivery.taken_iff hfiles).2 hgranted.taken)
    · exact Or.inr ⟨body, w', formatFile_of_deliver hread hdeliver, hbody,
        .of_sameFiles hfiles hdone⟩

/-- A job that is granted what it asks for does its delivery and reports the outcome. -/
theorem formatFile_of_granted (hreport : Discreet report) {body : Text}
    (h : job.Granted body w) :
    ∃ w', formatFile (hostReporting report) job w = (.ok (job.outcome (.ofText body)), w') ∧
      (job.delivery (.ofText body)).Done w w' := by
  rcases formatFile_cases hreport job w with
    ⟨failure, w', -, -, hnot⟩ | ⟨other, w', hrun, hread, hdone⟩
  · exact absurd h (hnot body)
  · obtain rfl : other = body := Text.utf8_inj.1 (Except.ok.inj (hread.symm.trans h.read))
    exact ⟨w', hrun, hdone⟩

end Run

/-- A world with one file, where no request fails without need. -/
def holding (name : Text) (contents : Bytes) : World :=
  { storage := { entries := [([name], .file contents)] } }

end World

/-- In a world with the input alone, a job is granted what it asks for. -/
theorem Job.granted_holding (body : Text) (s : Settings) (r : LineRange) {mode : Mode}
    (hmode : ∀ path, mode = .file path → path = "b.asm".toList) :
    Job.Granted ⟨"a.asm".toList, s, r, mode⟩ body (.holding "a.asm".toList body.utf8) := by
  refine ⟨rfl, ?_⟩
  rw [delivery]
  cases mode with
  | check => exact (Sink.writeAll_of_unlimited rfl _).1
  | standardOutput => exact (Sink.writeAll_of_unlimited rfl _).1
  | file path =>
    obtain rfl := hmode path rfl
    rfl
  | inPlace =>
    dsimp only
    split
    · trivial
    · rfl

end AsmFormat
