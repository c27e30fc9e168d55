import AsmFormat.Proofs.Job.Run

/-!
# Output without room

Files and listings are written in many pieces, and a sink may run out of room in any of them, even
inside a character. What the sink has then are the first bytes of the whole output, and the run
fails exactly if bytes are missing.

The pieces themselves play no part (`Sink.writeAll_of_limited`), so a job that prints is told by the
text that it prints and by the room of the standard output (`formatFile_of_print`).

Main statement: `delivered_of_limited`.
-/

set_option autoImplicit false

namespace AsmFormat

/-- The pieces of a file make up its text. -/
theorem Source.flatten_map_pieces (f : Source) :
    (f.pieces.map Text.utf8).flatten = f.written.utf8 :=
  Text.flatten_map_utf8 f.pieces

namespace World

variable {report : Event → StateM World Unit} {job : Job} {w : World} {limit : Nat}

/-- A text that is read is the one that the job goes on with. -/
theorem readSource_of_read {path : Path} {body : Text}
    (hread : (World.read path w).1 = .ok body.utf8) :
    readSource (hostReporting report) path w = (.ok (.ofText body), w) := by
  rcases readSource_cases report path w with ⟨failure, -, hnot⟩ | ⟨other, hother, hsource⟩
  · exact absurd hread (hnot body)
  · obtain rfl : other = body := Text.utf8_inj.1 (Except.ok.inj (hother.symm.trans hread))
    exact hsource

/-- What the standard output has room for is printed, and a failure says that there was more. -/
theorem print_of_limited (hroom : w.output.room = some limit) (pieces : List Text) :
    (World.print (pieces.map Text.utf8) w).1 =
        (if limit < (Text.utf8 pieces.flatten).length then .error w.output.refusal else .ok ()) ∧
      (World.print (pieces.map Text.utf8) w).2.output.delivered =
        w.output.delivered ++ (Text.utf8 pieces.flatten).take limit := by
  have hsink := Sink.writeAll_of_limited hroom (pieces.map Text.utf8)
  rw [Text.flatten_map_utf8] at hsink
  exact hsink

/-- A job whose delivery is printed prints it. -/
theorem deliver_of_print (report : Event → StateM World Unit) {source : Source}
    {pieces : List Text} (h : job.delivery source = .print pieces) (w : World) :
    deliver (hostReporting report) job source (job.edits source) w =
      printPieces (hostReporting report) pieces w := by
  rw [Job.delivery] at h
  cases hmode : job.mode with
  | check =>
    rw [hmode] at h
    cases h
    simp only [deliver, hmode]
  | standardOutput =>
    rw [hmode] at h
    cases h
    simp only [deliver, hmode]
    rfl
  | file path =>
    rw [hmode] at h
    cases h
  | inPlace =>
    rw [hmode] at h
    dsimp only at h
    split at h
    · cases h
    · cases h

/-- A job that prints has printed what there is room for, and fails if there was more. -/
theorem formatFile_of_print (hreport : Discreet report) {body : Text} {pieces : List Text}
    (hread : (World.read job.input w).1 = .ok body.utf8)
    (hdelivery : job.delivery (.ofText body) = .print pieces)
    (hroom : w.output.room = some limit) :
    (formatFile (hostReporting report) job w).1 =
        (if limit < (Text.utf8 pieces.flatten).length then
          .error (.access .write .standardOutput w.output.refusal)
        else .ok (job.outcome (.ofText body))) ∧
      (formatFile (hostReporting report) job w).2.output.delivered =
        w.output.delivered ++ (Text.utf8 pieces.flatten).take limit := by
  -- nothing is printed before the delivery, so the room is still there
  have hfiles := sameFiles_reported hreport job (.ofText body) w
  have hlimited := print_of_limited (hfiles.output ▸ hroom) pieces
  rw [hfiles.output] at hlimited
  cases hprint : World.print (pieces.map Text.utf8) (reported report job (.ofText body) w) with
  | mk result next =>
    rw [hprint] at hlimited
    obtain ⟨hresult, hdelivered⟩ := hlimited
    have hdeliver := deliver_of_print report hdelivery (reported report job (.ofText body) w)
    rw [printPieces_of_print hprint] at hdeliver
    rw [formatFile_of_deliver (readSource_of_read hread) hdeliver]
    refine ⟨?_, hdelivered⟩
    dsimp only at hresult ⊢
    rw [hresult]
    split
    · rfl
    · rfl

/-! ## Main statement -/

/-- A sink that has room for a number of bytes and takes no more has received the first bytes of the
whole output, and the failure is reported exactly if bytes are missing. This holds of a file that is
written, whatever edits have been applied to it, and of the listing of a check. An empty listing
needs no room. -/
theorem delivered_of_limited (limit : Nat) :
    (∀ (f : Source) (sink : Sink), sink.room = some limit →
      (sink.writeAll (f.pieces.map Text.utf8)).1 =
          (if limit < f.written.utf8.length then .error sink.refusal else .ok ()) ∧
        (sink.writeAll (f.pieces.map Text.utf8)).2.delivered =
          sink.delivered ++ f.written.utf8.take limit) ∧
      ∀ (job : Job) (body : Text) (w : World), job.mode = .check →
        (World.read job.input w).1 = .ok body.utf8 → w.output.room = some limit →
        let source := Source.ofText body
        let listing : Bytes :=
          Text.utf8 (source.listing job.input (source.edits job.settings job.range)).flatten
        (formatFile World.host job w).1 =
            (if limit < listing.length then
              .error (.access .write .standardOutput w.output.refusal)
            else .ok (job.outcome source)) ∧
          (formatFile World.host job w).2.output.delivered =
            w.output.delivered ++ listing.take limit ∧
          (listing = [] → (formatFile World.host job w).1 = .ok (job.outcome source)) := by
  refine ⟨?_, ?_⟩
  · intro f sink hroom
    have hsink := Sink.writeAll_of_limited hroom (f.pieces.map Text.utf8)
    rw [f.flatten_map_pieces] at hsink
    exact hsink
  · intro job body w hmode hread hroom source listing
    have hdelivery : job.delivery source =
        .print (source.listing job.input (source.edits job.settings job.range)) := by
      rw [Job.delivery, hmode]
      rfl
    obtain ⟨hresult, hdelivered⟩ := formatFile_of_print discreet_report hread hdelivery hroom
    refine ⟨hresult, hdelivered, ?_⟩
    intro hempty
    have hfits : ¬limit < listing.length := by
      rw [hempty]
      exact Nat.not_lt_zero limit
    exact hresult.trans (if_neg hfits)

/-- The room of the standard output ends inside a character of the listing, and the run fails with
half of the character printed. An empty line behind the last byte that fits is no failure. -/
theorem delivered_of_limited_inside_character :
    let body : Text := "é rt\n".toList
    let job : Job := ⟨"a.asm".toList, { instructionColumn := 2 }, .whole, .check⟩
    let w : World :=
      { World.holding "a.asm".toList body.utf8 with output := { room := some 13 } }
    let f : Source := ⟨["a".toList, []], .lineFeed, false⟩
    let sink : Sink := { room := some 2 }
    job.mode = .check ∧ (World.read job.input w).1 = .ok body.utf8 ∧ w.output.room = some 13 ∧
      (formatFile World.host job w).1 =
        .error (.access .write .standardOutput (.system .noSpace)) ∧
      (formatFile World.host job w).2.output.delivered =
        Text.utf8 "a.asm:1\n  - ".toList ++ [0xC3] ∧
      sink.room = some 2 ∧ (sink.writeAll (f.pieces.map Text.utf8)).1 = .ok () := by
  intro body job w f sink
  have hread : (World.read job.input w).1 = .ok body.utf8 := rfl
  obtain ⟨hresult, hdelivered, -⟩ := (delivered_of_limited 13).2 job body w rfl hread rfl
  obtain ⟨hwrite, -⟩ := (delivered_of_limited 2).1 f sink rfl
  refine ⟨rfl, hread, rfl, ?_, ?_, rfl, ?_⟩
  · rw [hresult]
    decide +kernel
  · rw [hdelivered]
    decide +kernel
  · rw [hwrite]
    decide

end World

end AsmFormat
