import AsmFormat.Proofs.Document.Listing
import AsmFormat.Proofs.Job.Run

/-!
# What a job leaves behind

A job that fails leaves the storage as it was, with no temporary file in it, and one that succeeds
changes at most the file that its mode names (`formatFile_all_or_nothing`). Nothing is assumed of
the world: any request may fail, after any part of its bytes.

What a job writes is what another run reads. A file that is formatted as a whole is reproduced in
each mode (`formatted_stays_formatted`), and the listing of a check is a patch that leads to what
the other modes write (`listing_is_patch`).
-/

set_option autoImplicit false

namespace AsmFormat

/-- The path whose file a job replaces, if it replaces one. -/
def Job.target? (job : Job) (source : Source) : Option Path :=
  match job.mode with
  | .check => none
  | .standardOutput => none
  | .file path => some path
  | .inPlace => if (job.edits source).isEmpty then none else some job.input

/-- What a job asks for, by the file that it replaces. -/
theorem Job.delivery_cases (job : Job) (source : Source) :
    (job.target? source = none ∧
        (job.delivery source = .nothing ∨ ∃ pieces, job.delivery source = .print pieces)) ∨
      ∃ path, job.target? source = some path ∧
        job.delivery source = .replace path (job.result source).written := by
  rw [target?, delivery]
  cases job.mode with
  | check => exact Or.inl ⟨rfl, Or.inr ⟨_, rfl⟩⟩
  | standardOutput => exact Or.inl ⟨rfl, Or.inr ⟨_, rfl⟩⟩
  | file path => exact Or.inr ⟨path, rfl, rfl⟩
  | inPlace =>
    by_cases hedits : (job.edits source).isEmpty
    · simp [hedits]
    · simp [hedits]

namespace World

/-- A job fails only if a request is not granted, and leaves the storage as it was. A job that
succeeds has read a text and changes at most the file that its mode names, which then holds the
formatted text as a whole. -/
theorem formatFile_all_or_nothing (job : Job) (w : World) :
    match formatFile World.host job w with
    | (.error _, w') => w'.storage = w.storage ∧ ∀ body, ¬job.Granted body w
    | (.ok outcome, w') =>
      ∃ body : Text, w.storage.contents job.input = .ok body.utf8 ∧
        outcome = job.outcome (.ofText body) ∧
        match job.target? (.ofText body) with
        | none => w'.storage = w.storage
        | some path =>
          w'.storage.contents path = .ok (job.result (.ofText body)).written.utf8 ∧
            ∀ at' ≠ w.storage.locate path, w'.storage.get? at' = w.storage.get? at' := by
  rcases formatFile_cases discreet_report job w with
    ⟨failure, w', hrun, hstorage, hnot⟩ | ⟨body, w', hrun, hread, hdone⟩
  · have hhost : formatFile World.host job w = (.error failure, w') := hrun
    rw [hhost]
    exact ⟨hstorage, hnot⟩
  · have hhost : formatFile World.host job w = (.ok (job.outcome (.ofText body)), w') := hrun
    rw [hhost]
    refine ⟨body, contents_of_read hread, rfl, ?_⟩
    rcases job.delivery_cases (.ofText body) with
      ⟨htarget, hnothing | ⟨pieces, hprint⟩⟩ | ⟨path, htarget, hreplace⟩
    -- without a file to replace, nothing is written or the standard output is
    · rw [hnothing] at hdone
      rw [htarget]
      exact hdone
    · rw [hprint] at hdone
      rw [htarget]
      exact hdone.1
    · rw [hreplace] at hdone
      rw [htarget]
      obtain ⟨hset, hcontents⟩ := hdone
      refine ⟨hcontents, ?_⟩
      intro at' hother
      rw [hset, Storage.get?_set_of_ne _ hother]

/-! ## Runs over a formatted file -/

/-- Without edits the result is the file itself. -/
theorem result_of_edits_eq_nil {job : Job} {source : Source} (h : job.edits source = []) :
    job.result source = source := by
  have hresult : job.result source = source.apply (job.edits source) := rfl
  rw [hresult, h]
  rfl

/-- A formatted file stays formatted: a pass over the same range finds no edits. If the range holds
every line, then the file is also written as it was, and any further run reproduces it. -/
theorem formatted_stays_formatted (s : Settings) (r : LineRange)
    (hcolumn : 1 ≤ s.instructionColumn) (body : Text) :
    let text := ((Source.ofText body).formatted s r).written
    (Source.ofText text).edits s r = [] ∧
      ((∀ i < (Source.ofText body).lines.length, r.Holds i) →
        (Source.ofText text).written = text ∧
          ∀ (input : Path) (mode : Mode) (w : World), Job.Granted ⟨input, s, r, mode⟩ text w →
            ∃ w', formatFile World.host ⟨input, s, r, mode⟩ w =
                (.ok ⟨r.count (Source.ofText text).lines.length, 0⟩, w') ∧
              match mode with
              | .check => w'.storage = w.storage ∧ w'.output.delivered = w.output.delivered
              | .standardOutput =>
                w'.storage = w.storage ∧
                  w'.output.delivered = w.output.delivered ++ Text.utf8 text
              | .file path => w'.storage.contents path = .ok (Text.utf8 text)
              | .inPlace =>
                w'.storage = w.storage ∧ w'.storage.contents input = .ok (Text.utf8 text)) := by
  intro text
  have hedits : (Source.ofText text).edits s r = [] := Source.edits_reread_eq_nil hcolumn body r
  refine ⟨hedits, ?_⟩
  intro hwhole
  have hwritten : (Source.ofText text).written = text := Source.written_reread_eq hwhole
  refine ⟨hwritten, ?_⟩
  intro input mode w hgranted
  obtain ⟨w', hrun, hdone⟩ := formatFile_of_granted discreet_report hgranted
  have hnone : Job.edits ⟨input, s, r, mode⟩ (.ofText text) = [] := hedits
  have hresult := result_of_edits_eq_nil hnone
  have houtcome : Job.outcome ⟨input, s, r, mode⟩ (.ofText text) =
      ⟨r.count (Source.ofText text).lines.length, 0⟩ := by
    rw [Job.outcome, hnone]
    rfl
  rw [houtcome] at hrun
  refine ⟨w', hrun, ?_⟩
  cases mode with
  | check =>
    -- the listing is empty
    simp only [Job.delivery, hnone, Delivery.Done, Source.listing_eq, List.flatMap_nil,
      List.flatten_nil] at hdone
    obtain ⟨hstorage, hdelivered⟩ := hdone
    refine ⟨hstorage, hdelivered.trans ?_⟩
    exact List.append_nil _
  | standardOutput =>
    simp only [Job.delivery, hresult, Delivery.Done] at hdone
    obtain ⟨hstorage, hdelivered⟩ := hdone
    rw [← Source.written, hwritten] at hdelivered
    exact ⟨hstorage, hdelivered⟩
  | file path =>
    simp only [Job.delivery, hresult, Delivery.Done, hwritten] at hdone
    exact hdone.2
  | inPlace =>
    rw [Job.delivery_inPlace_of_eq_nil rfl hnone] at hdone
    have hsame : w'.storage = w.storage := hdone
    refine ⟨hsame, ?_⟩
    rw [hsame]
    exact contents_of_read hgranted.read

/-- A file with two kinds of line ends that is formatted twice. -/
theorem formatted_moves_stay_formatted :
    let body : Text := "l1 mov r1,r2\r\n inc r1\n\nx".toList
    let text := ((Source.ofText body).formatted {} .whole).written
    1 ≤ ({} : Settings).instructionColumn ∧
      (∀ i < (Source.ofText body).lines.length, LineRange.whole.Holds i) ∧
      text ≠ body ∧ (Source.ofText text).edits {} .whole = [] ∧
      (Source.ofText text).written = text ∧
      ∃ w', formatFile World.host ⟨"a.asm".toList, {}, .whole, .file "b.asm".toList⟩
            (.holding "a.asm".toList (Text.utf8 text)) =
          (.ok ⟨LineRange.whole.count (Source.ofText text).lines.length, 0⟩, w') ∧
        w'.storage.contents "b.asm".toList = .ok (Text.utf8 text) := by
  intro body text
  have hcolumn : 1 ≤ ({} : Settings).instructionColumn := by decide
  have hwhole : ∀ i < (Source.ofText body).lines.length, LineRange.whole.Holds i := by
    decide +kernel
  have hne : text ≠ body := by decide +kernel
  have hgranted := Job.granted_holding text {} .whole
    (fun _ hmode => (Mode.file.inj hmode).symm : ∀ path, Mode.file "b.asm".toList = .file path → _)
  obtain ⟨hedits, hrest⟩ := formatted_stays_formatted {} .whole hcolumn body
  obtain ⟨hwritten, hruns⟩ := hrest hwhole
  exact ⟨hcolumn, hwhole, hne, hedits, hwritten, hruns _ _ _ hgranted⟩

/-! ## Listings and what is written -/

/-- The listing of a check is a patch. It shows three rows for each edit, and from it alone the
changes are read back, in no other way. They are changes by rising line of the file as it was read,
and the file with the changes carried out is what every writing mode writes, in place only if there
is a change. -/
theorem listing_is_patch (s : Settings) (r : LineRange) (name : Path) (hname : '\n' ∉ name)
    (body : Text) :
    let source := Source.ofText body
    let listing : Text := (source.listing name (source.edits s r)).flatten
    ∃ changes : List Change,
      Change.ofListing? listing = some changes ∧
        (∀ name' changes', '\n' ∉ name' → (∀ c ∈ changes', c.OneLine) →
          Change.listing name' changes' = listing → changes' = changes) ∧
        listing.splitOn '\n' = changes.flatMap (Change.rows name) ++ [[]] ∧
        changes.length = (source.edits s r).length ∧
        changes.Pairwise (·.number < ·.number) ∧
        (∀ c ∈ changes, 0 < c.number ∧ source.lines[c.number - 1]? = some c.old ∧
          c.old ≠ c.new) ∧
        ∀ (mode : Mode) (w : World), Job.Granted ⟨name, s, r, mode⟩ body w →
          ∃ w', formatFile World.host ⟨name, s, r, mode⟩ w =
              (.ok ⟨r.count source.lines.length, changes.length⟩, w') ∧
            match mode with
            | .check => w'.output.delivered = w.output.delivered ++ listing.utf8
            | .standardOutput =>
              w'.output.delivered = w.output.delivered ++ (source.patched changes).written.utf8
            | .file path =>
              w'.storage.contents path = .ok (source.patched changes).written.utf8
            | .inPlace =>
              changes ≠ [] →
                w'.storage.contents name = .ok (source.patched changes).written.utf8 := by
  intro source listing
  have hlisting : listing = Change.listing name (source.changes s r) :=
    source.flatten_listing s r name
  have hlines : ∀ c ∈ source.changes s r, c.OneLine := Source.oneLine_of_mem_changes
  have hlength : (source.changes s r).length = (source.edits s r).length := List.length_map _
  refine ⟨source.changes s r, ?_, ?_, ?_, hlength, source.pairwise_changes s r, ?_, ?_⟩
  · rw [hlisting]
    exact Change.ofListing?_listing hname hlines
  · intro name' changes' hname' hlines' hsame
    exact Change.eq_of_listing_eq hname' hname hlines' hlines (hsame.trans hlisting)
  · rw [hlisting]
    exact Change.splitOn_listing hname hlines
  · intro c hc
    obtain ⟨hpos, hline, -, hchange⟩ := Source.mem_changes hc
    exact ⟨hpos, hline, hchange⟩
  · intro mode w hgranted
    obtain ⟨w', hrun, hdone⟩ := formatFile_of_granted discreet_report hgranted
    have hresult : Job.result ⟨name, s, r, mode⟩ source = source.patched (source.changes s r) :=
      (source.patched_changes s r).symm
    have houtcome : Job.outcome ⟨name, s, r, mode⟩ source =
        ⟨r.count source.lines.length, (source.changes s r).length⟩ := by
      rw [hlength]
      rfl
    rw [houtcome] at hrun
    refine ⟨w', hrun, ?_⟩
    rw [← hresult]
    cases mode with
    | check => exact hdone.2
    | standardOutput => exact hdone.2
    | file path => exact hdone.2
    | inPlace =>
      intro hsome
      have hedits : Job.edits ⟨name, s, r, .inPlace⟩ source ≠ [] :=
        fun hnil => hsome (List.map_eq_nil_iff.2 hnil)
      rw [Job.delivery_inPlace_of_ne_nil rfl hedits] at hdone
      exact hdone.2

/-- The listing of a file with line ends of two kinds shows two changes, and a run in place writes
them. -/
theorem listing_of_moves_is_patch :
    let body : Text := "l1 mov r1,r2\r\n inc r1\n".toList
    let source := Source.ofText body
    '\n' ∉ "a.asm".toList ∧
      Job.Granted ⟨"a.asm".toList, {}, .whole, .inPlace⟩ body (.holding "a.asm".toList body.utf8) ∧
      ∃ changes w',
        Change.ofListing? (source.listing "a.asm".toList (source.edits {} .whole)).flatten =
            some changes ∧
          changes.length = 2 ∧
          formatFile World.host ⟨"a.asm".toList, {}, .whole, .inPlace⟩
            (.holding "a.asm".toList body.utf8) = (.ok ⟨2, 2⟩, w') ∧
          w'.storage.contents "a.asm".toList = .ok (source.patched changes).written.utf8 := by
  intro body source
  have hname : '\n' ∉ "a.asm".toList := by decide
  have hgranted : Job.Granted ⟨"a.asm".toList, {}, .whole, .inPlace⟩ body
      (.holding "a.asm".toList body.utf8) :=
    Job.granted_holding body {} .whole fun _ hmode => Mode.noConfusion hmode
  obtain ⟨changes, hread, -, -, hlength, -, -, hruns⟩ :=
    listing_is_patch {} .whole "a.asm".toList hname body
  have htwo : changes.length = 2 := hlength.trans (by decide +kernel)
  have hlines : LineRange.whole.count (Source.ofText body).lines.length = 2 := by decide +kernel
  have hsome : changes ≠ [] := by
    rintro rfl
    exact absurd htwo (by decide)
  obtain ⟨w', hrun, hwritten⟩ := hruns .inPlace _ hgranted
  rw [hlines, htwo] at hrun
  exact ⟨hname, hgranted, changes, w', hread, htwo, hrun, hwritten hsome⟩

end World

end AsmFormat
