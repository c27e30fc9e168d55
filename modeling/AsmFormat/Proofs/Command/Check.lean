import AsmFormat.Command.Run
import AsmFormat.Proofs.Job.Run

/-!
# Checks and changes in place

A check says whether formatting in place would change the file. Both report the same outcome, and
they find a line to change exactly if the file is left with other bytes
(`check_agrees_with_inPlace`). The exit status of the command tells the same, however the trace is
shown.

A file without an edit is not written in place, and a file with one is not written as it was
(`Source.written_formatted_ne`), even if its line ends do not agree.
-/

set_option autoImplicit false

namespace AsmFormat

namespace World

variable {report : Event → StateM World Unit}

/-! ## Commands and reports -/

/-- A trace on the standard error touches no file. -/
theorem discreet_showing (filter : Filter) (span : Span) :
    Discreet (World.host.showing filter span).report := by
  intro event w
  simp only [Host.showing]
  cases (event.within span).line? filter with
  | none => exact .refl w
  | some line => exact ⟨rfl, rfl, rfl⟩

/-- What a settings file holds does not depend on how events are reported, and reading it touches no
file. -/
theorem loadSettings_hostReporting (hreport : Discreet report) (path : Path) (w : World) :
    (loadSettings (hostReporting report) path w).1 = (loadSettings World.host path w).1 ∧
      SameFiles w (loadSettings (hostReporting report) path w).2 := by
  obtain ⟨result, hread⟩ := exists_read_eq path w
  simp only [loadSettings, bind, StateT.bind, host, hread]
  cases result with
  | error e => exact ⟨rfl, .refl w⟩
  | ok bytes =>
    cases htext : bytes.text? with
    | none =>
      simp only [htext]
      exact ⟨trivial, .refl w⟩
    | some body =>
      cases hsettings : Settings.read bytes with
      | error fault =>
        simp only [htext, hsettings]
        exact ⟨trivial, .refl w⟩
      | ok settings =>
        simp only [htext, hsettings]
        exact ⟨rfl, hreport _ w⟩

/-- The same holds of the settings that a request asks for. -/
theorem settings_hostReporting (hreport : Discreet report) (o : Options) (w : World) :
    (o.settings (hostReporting report) w).1 = (o.settings World.host w).1 ∧
      SameFiles w (o.settings (hostReporting report) w).2 := by
  cases hconfig : o.config with
  | none =>
    simp only [Options.settings, hconfig]
    exact ⟨trivial, .refl w⟩
  | some path =>
    obtain ⟨hresult, hfiles⟩ := loadSettings_hostReporting hreport path w
    simp only [Options.settings, hconfig, bind_apply, hresult]
    cases (loadSettings World.host path w).1 with
    | error failure => exact ⟨rfl, hfiles⟩
    | ok settings => exact ⟨rfl, hfiles⟩

/-- What is granted does not depend on complaints and events. -/
theorem granted_of_sameFiles {w w' : World} {job : Job} {body : Text} (h : SameFiles w w')
    (hgranted : job.Granted body w) : job.Granted body w' := by
  refine ⟨?_, (Delivery.taken_iff h).2 hgranted.taken⟩
  rw [(Respects.read job.input w w' h).1]
  exact hgranted.read

/-- The arguments ask for a job, in a world where its settings are found. -/
def Asks (arguments : List Text) (job : Job) (w : World) : Prop :=
  ∃ o : Options, Request.ofArguments arguments = .ok (.format job.input o) ∧
    o.mode = job.mode ∧ LineRange.ofNumbers o.firstLine o.lastLine = .ok job.range ∧
    (o.settings World.host w).1 = .ok job.settings

/-- A request whose job is granted succeeds, and lines need to change if it is a check that finds
some. -/
theorem runFormat_of_granted (hreport : Discreet report) {job : Job} {o : Options} {body : Text}
    {w : World} (hmode : o.mode = job.mode)
    (hrange : LineRange.ofNumbers o.firstLine o.lastLine = .ok job.range)
    (hsettings : (o.settings World.host w).1 = .ok job.settings)
    (hgranted : job.Granted body w) :
    (runFormat (hostReporting report) job.input o w).1 =
      .ok (job.mode = .check && (job.outcome (.ofText body)).changed != 0) := by
  obtain ⟨hresult, hfiles⟩ := settings_hostReporting hreport o w
  -- the settings are found and reported before the job runs, and neither touches a file
  have hsame := hfiles.trans
    (hreport (commandEvent .debug ("settings: ".toList ++ job.settings.detail)) _)
  obtain ⟨w', hrun, -⟩ := formatFile_of_granted hreport (granted_of_sameFiles hsame hgranted)
  have hjob : (⟨job.input, job.settings, job.range, o.mode⟩ : Job) = job := by rw [hmode]
  simp only [runFormat, bind_apply, hresult, hsettings, hrange, hjob, hrun]
  rw [hmode]
  rfl

/-- A command whose job is granted exits with one if the job is a check that finds a line to change,
and with zero otherwise. -/
theorem runCommand_of_granted {arguments : List Text} {job : Job} {body : Text} {w : World}
    (filter : Filter) (hasks : Asks arguments job w) (hgranted : job.Granted body w) :
    (runCommand World.host filter arguments w).1 =
      if job.mode = .check ∧ 0 < (job.outcome (.ofText body)).changed then 1 else 0 := by
  obtain ⟨o, hrequest, hmode, hrange, hsettings⟩ := hasks
  have hrun := runFormat_of_granted (discreet_showing filter (runSpan job.input)) hmode hrange
    hsettings hgranted
  have hhost : hostReporting (World.host.showing filter (runSpan job.input)).report =
      World.host.showing filter (runSpan job.input) := rfl
  rw [hhost] at hrun
  have hneeded : (decide (job.mode = .check) && (job.outcome (.ofText body)).changed != 0) = true ↔
      job.mode = .check ∧ 0 < (job.outcome (.ofText body)).changed := by
    simp [Nat.pos_iff_ne_zero]
  simp only [runCommand, hrequest, bind_apply, hrun, hneeded]
  rfl

/-! ## Agreement -/

/-- A check and a run in place report the same outcome. A line is found to change exactly if the run
in place leaves the file with other bytes, and exactly then a check on the command line exits with
one. -/
theorem check_agrees_with_inPlace (job : Job) (body : Text) (w : World)
    (hcheck : { job with mode := .check }.Granted body w)
    (hinPlace : { job with mode := .inPlace }.Granted body w) :
    ∃ outcome w₁ w₂ after,
      formatFile World.host { job with mode := .check } w = (.ok outcome, w₁) ∧
        formatFile World.host { job with mode := .inPlace } w = (.ok outcome, w₂) ∧
        w.storage.contents job.input = .ok body.utf8 ∧
        w₂.storage.contents job.input = .ok after ∧
        (0 < outcome.changed ↔ after ≠ body.utf8) ∧
        ∀ filter arguments, Asks arguments { job with mode := .check } w →
          (runCommand World.host filter arguments w).1 = if 0 < outcome.changed then 1 else 0 := by
  obtain ⟨w₁, hrunCheck, -⟩ := formatFile_of_granted discreet_report hcheck
  obtain ⟨w₂, hrunInPlace, hdone⟩ := formatFile_of_granted discreet_report hinPlace
  have hbefore : w.storage.contents job.input = .ok body.utf8 := contents_of_read hcheck.read
  have hstatus : ∀ filter arguments, Asks arguments { job with mode := .check } w →
      (runCommand World.host filter arguments w).1 =
        if 0 < (job.outcome (.ofText body)).changed then 1 else 0 := by
    intro filter arguments hasks
    rw [runCommand_of_granted filter hasks hcheck]
    simp only [true_and]
    rfl
  by_cases hedits : Job.edits { job with mode := .inPlace } (.ofText body) = []
  · rw [Job.delivery_inPlace_of_eq_nil rfl hedits] at hdone
    have hsame : w₂.storage = w.storage := hdone
    refine ⟨_, w₁, w₂, body.utf8, hrunCheck, hrunInPlace, hbefore, ?_, ?_, hstatus⟩
    · rw [hsame, hbefore]
    · have hchanged : (job.outcome (.ofText body)).changed = 0 := congrArg List.length hedits
      exact iff_of_false (Nat.not_lt.2 (Nat.le_of_eq hchanged)) (fun hne => hne rfl)
  · rw [Job.delivery_inPlace_of_ne_nil rfl hedits] at hdone
    refine ⟨_, w₁, w₂, _, hrunCheck, hrunInPlace, hbefore, hdone.2, ?_, hstatus⟩
    have hother : (job.result (.ofText body)).written ≠ body := Source.written_formatted_ne hedits
    exact iff_of_true (List.length_pos_iff.2 hedits) fun hsame => hother (Text.utf8_inj.1 hsame)

/-- A check of a file with line ends of two kinds finds both lines to change, and a run in place
changes the file. -/
theorem check_moves_agrees_with_inPlace :
    let body : Text := "l1 mov r1,r2\r\n inc r1\n".toList
    let job : Job := { input := "a.asm".toList }
    let w := World.holding "a.asm".toList body.utf8
    { job with mode := .check }.Granted body w ∧ { job with mode := .inPlace }.Granted body w ∧
      Asks ["--check".toList, "a.asm".toList] { job with mode := .check } w ∧
      (runCommand World.host .usual ["--check".toList, "a.asm".toList] w).1 = 1 ∧
      ∃ w' after, formatFile World.host { job with mode := .inPlace } w = (.ok ⟨2, 2⟩, w') ∧
        w'.storage.contents job.input = .ok after ∧ after ≠ body.utf8 := by
  intro body job w
  have hcheck : { job with mode := .check }.Granted body w :=
    Job.granted_holding body {} .whole fun _ hmode => Mode.noConfusion hmode
  have hinPlace : { job with mode := .inPlace }.Granted body w :=
    Job.granted_holding body {} .whole fun _ hmode => Mode.noConfusion hmode
  have hasks : Asks ["--check".toList, "a.asm".toList] { job with mode := .check } w :=
    ⟨{ input := some "a.asm".toList, switches := [.check] }, rfl, rfl, rfl, rfl⟩
  obtain ⟨outcome, w₁, w₂, after, -, hrun, -, hafter, hchanged, hstatus⟩ :=
    check_agrees_with_inPlace job body w hcheck hinPlace
  -- the outcome is that of the file
  obtain ⟨w', hrun', -⟩ := formatFile_of_granted discreet_report hinPlace
  have houtcome : job.outcome (.ofText body) = ⟨2, 2⟩ := by decide +kernel
  obtain ⟨hsame, -⟩ := Prod.mk.inj (hrun'.symm.trans hrun)
  obtain rfl : ⟨2, 2⟩ = outcome := houtcome.symm.trans (Except.ok.inj hsame)
  refine ⟨hcheck, hinPlace, hasks, hstatus .usual _ hasks, w₂, after, hrun, hafter, ?_⟩
  exact hchanged.1 (by decide)

end World

end AsmFormat
