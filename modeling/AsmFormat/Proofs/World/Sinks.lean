import AsmFormat.Sink

/-!
# What a sink accepts

A sink takes pieces until its room is used up. What one piece hands to the next is the room that is
left (`write_of_le`, `write_of_lt`). By induction on the pieces, a sink with limited room accepts
the first bytes of everything that it is offered, and refuses exactly if that does not fit, wherever
the bytes are cut into pieces (`writeAll_of_limited`). A sink without a limit accepts everything
(`writeAll_of_unlimited`).
-/

set_option autoImplicit false

namespace AsmFormat.Sink

variable {sink : Sink} {n : Nat}

/-! ## One piece -/

theorem write_of_unlimited (h : sink.room = none) (piece : Bytes) :
    sink.write piece = (.ok (), { sink with accepted := piece :: sink.accepted }) := by
  rw [write, h]

/-- A piece that fits uses up room. -/
theorem write_of_le {piece : Bytes} (h : sink.room = some n) (hle : piece.length ≤ n) :
    sink.write piece = (.ok (), { sink with
      accepted := piece :: sink.accepted, room := some (n - piece.length) }) := by
  rw [write, h]
  exact if_pos hle

/-- A piece that does not fit is refused. -/
theorem write_of_lt {piece : Bytes} (h : sink.room = some n) (hlt : n < piece.length) :
    sink.write piece = (.error sink.refusal, { sink with
      accepted := piece.take n :: sink.accepted, room := some 0 }) := by
  rw [write, h]
  exact if_neg (Nat.not_le.2 hlt)

/-! ## All pieces -/

/-- A sink without a limit takes all pieces. -/
theorem writeAll_of_unlimited (h : sink.room = none) (pieces : List Bytes) :
    (sink.writeAll pieces).1 = .ok () ∧
      (sink.writeAll pieces).2.delivered = sink.delivered ++ pieces.flatten := by
  induction pieces generalizing sink with
  | nil => simp [writeAll]
  | cons piece rest ih =>
    have hdelivered := delivered_write_of_unlimited h piece
    rw [write_of_unlimited h] at hdelivered
    rw [writeAll, write_of_unlimited h]
    have hnext : { sink with accepted := piece :: sink.accepted }.room = none := h
    obtain ⟨hresult, hrest⟩ := ih hnext
    refine ⟨hresult, ?_⟩
    dsimp only at hdelivered ⊢
    rw [hrest, hdelivered, List.flatten_cons, List.append_assoc]

/-- A sink with limited room takes the first bytes of what it is offered. It refuses if there are
more, and empty pieces behind the last byte are no reason to. -/
theorem writeAll_of_limited (h : sink.room = some n) (pieces : List Bytes) :
    (sink.writeAll pieces).1 =
        (if n < pieces.flatten.length then .error sink.refusal else .ok ()) ∧
      (sink.writeAll pieces).2.delivered = sink.delivered ++ pieces.flatten.take n := by
  -- the room that is left is what changes from piece to piece
  induction pieces generalizing sink n with
  | nil => simp [writeAll]
  | cons piece rest ih =>
    have hdelivered := delivered_write_of_limited h piece
    rw [writeAll, List.flatten_cons, List.length_append]
    rcases Nat.lt_or_ge n piece.length with hlt | hle
    · rw [write_of_lt h hlt] at hdelivered ⊢
      refine ⟨?_, ?_⟩
      · rw [if_pos (by omega)]
      · rw [List.take_append_of_le_length (Nat.le_of_lt hlt)]
        exact hdelivered
    · rw [write_of_le h hle] at hdelivered ⊢
      have hnext : { sink with
          accepted := piece :: sink.accepted, room := some (n - piece.length) }.room =
            some (n - piece.length) := rfl
      obtain ⟨hresult, hrest⟩ := ih hnext
      have hroom : n < piece.length + rest.flatten.length ↔
          n - piece.length < rest.flatten.length := by omega
      dsimp only at hdelivered ⊢
      refine ⟨?_, ?_⟩
      · rw [hresult]
        simp only [hroom]
      · rw [hrest, hdelivered, List.append_assoc, List.take_of_length_le hle, List.take_append,
          List.take_of_length_le hle]

/-- A sink that takes all pieces has them behind what it had. -/
theorem delivered_writeAll {pieces : List Bytes} (h : (sink.writeAll pieces).1 = .ok ()) :
    (sink.writeAll pieces).2.delivered = sink.delivered ++ pieces.flatten := by
  cases hroom : sink.room with
  | none => exact (writeAll_of_unlimited hroom pieces).2
  | some n =>
    obtain ⟨hresult, hdelivered⟩ := writeAll_of_limited hroom pieces
    rw [h] at hresult
    split at hresult
    · cases hresult
    · next hfits => rw [hdelivered, List.take_of_length_le (Nat.not_lt.1 hfits)]

end AsmFormat.Sink
