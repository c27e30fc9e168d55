import AsmFormat.Text.Utf8
import AsmFormat.Failure

/-!
# Sinks with limited room

A sink accepts bytes until its room is used up. The piece that does not fit is accepted up to the
limit and refused, and nothing is offered after a refusal. An empty piece always fits.
-/

set_option autoImplicit false

namespace AsmFormat

/-- A place where output goes. -/
structure Sink where
  /-- What was accepted, the latest piece first. -/
  accepted : List Bytes := []
  /-- How many bytes are still accepted; without a number there is no limit. -/
  room : Option Nat := none
  /-- Why a piece that does not fit is refused. -/
  refusal : AccessError := .system .noSpace

namespace Sink

/-- Everything that was accepted, in order. -/
def delivered (s : Sink) : Bytes :=
  s.accepted.reverse.flatten

/-- Offer one piece. -/
def write (s : Sink) (piece : Bytes) : Except AccessError Unit × Sink :=
  match s.room with
  | none => (.ok (), { s with accepted := piece :: s.accepted })
  | some n =>
    if piece.length ≤ n then
      (.ok (), { s with accepted := piece :: s.accepted, room := some (n - piece.length) })
    else
      (.error s.refusal, { s with accepted := piece.take n :: s.accepted, room := some 0 })

/-- A sink without a limit takes every piece. -/
theorem delivered_write_of_unlimited {s : Sink} (h : s.room = none) (piece : Bytes) :
    (s.write piece).2.delivered = s.delivered ++ piece := by
  simp [write, h, delivered]

/-- A sink takes as much of a piece as it has room for. -/
theorem delivered_write_of_limited {s : Sink} {n : Nat} (h : s.room = some n) (piece : Bytes) :
    (s.write piece).2.delivered = s.delivered ++ piece.take n := by
  by_cases hfits : piece.length ≤ n
  · simp [write, h, hfits, delivered, List.take_of_length_le hfits]
  · simp [write, h, hfits, delivered]

/-- Offer the pieces in order, up to the first refusal. -/
def writeAll (s : Sink) : List Bytes → Except AccessError Unit × Sink
  | [] => (.ok (), s)
  | piece :: rest =>
    match s.write piece with
    | (.ok (), s) => s.writeAll rest
    | (.error e, s) => (.error e, s)

end Sink

end AsmFormat
