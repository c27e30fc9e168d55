import AsmFormat.Text.Blank

/-!
# The bytes of a text

The contents of a file are bytes. `Text.utf8` encodes a text and `Bytes.text?` decodes bytes that
are an encoding. Main statement: the bytes that decode to `t` are exactly `t.utf8`
(`Bytes.text?_eq_some_iff`), so nothing is lost between the two.
-/

set_option autoImplicit false

namespace AsmFormat

/-- The contents of a file. -/
abbrev Bytes := List UInt8

/-- The UTF-8 encoding of a text. -/
def Text.utf8 (t : Text) : Bytes :=
  t.flatMap String.utf8EncodeChar

/-- The text whose UTF-8 encoding the bytes are, if there is one. -/
def Bytes.text? (bs : Bytes) : Option Text :=
  (List.toByteArray bs).utf8Decode?.map Array.toList

/-- Every encoding decodes to the text it came from. -/
theorem Bytes.text?_utf8 (t : Text) : Bytes.text? t.utf8 = some t := by
  have h := @List.utf8Decode?_utf8Encode t
  rw [List.utf8Encode] at h
  simp [Bytes.text?, Text.utf8, h]

/-- Bytes that decode to a text are its encoding. -/
theorem Bytes.eq_utf8_of_text? {bs : Bytes} {t : Text} (h : Bytes.text? bs = some t) :
    bs = t.utf8 := by
  obtain ⟨chars, hchars, rfl⟩ := Option.map_eq_some_iff.1 h
  have hsome : (List.toByteArray bs).utf8Decode?.isSome := by simp [hchars]
  have hget : (List.toByteArray bs).utf8Decode?.get hsome = chars := by simp [hchars]
  have hb := @ByteArray.utf8Encode_get_utf8Decode? (List.toByteArray bs) hsome
  rw [hget] at hb
  have hl := congrArg (fun b => b.data.toList) hb
  simpa [Text.utf8, List.utf8Encode] using hl.symm

/-- Decoding is the inverse of encoding. -/
theorem Bytes.text?_eq_some_iff {bs : Bytes} {t : Text} :
    Bytes.text? bs = some t ↔ bs = t.utf8 :=
  ⟨Bytes.eq_utf8_of_text?, fun h => h ▸ Bytes.text?_utf8 t⟩

/-- Different texts have different bytes. -/
theorem Text.utf8_inj {t u : Text} : t.utf8 = u.utf8 ↔ t = u := by
  constructor
  · intro h
    have ht := Bytes.text?_utf8 t
    rw [h, Bytes.text?_utf8] at ht
    exact (Option.some.inj ht).symm
  · rintro rfl
    rfl

@[simp] theorem Text.utf8_append (t u : Text) : Text.utf8 (t ++ u) = t.utf8 ++ u.utf8 :=
  List.flatMap_append

/-- Pieces are encoded one after the other. -/
theorem Text.flatten_map_utf8 (pieces : List Text) :
    (pieces.map Text.utf8).flatten = Text.utf8 pieces.flatten := by
  induction pieces with
  | nil => rfl
  | cons t ts ih => rw [List.map_cons, List.flatten_cons, ih, List.flatten_cons, utf8_append]

end AsmFormat
