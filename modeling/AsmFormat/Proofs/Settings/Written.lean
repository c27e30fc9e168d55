import AsmFormat.Proofs.Settings.Layers
import AsmFormat.Proofs.Text.Digits
import AsmFormat.Proofs.Text.Pieces

/-!
# Settings that were written

The text that settings are written to is an object without blanks, with one member for each setting
(`utf8_json`). A column is written in digits, and only zero is written with a zero in front, so the
reader takes the text for the natural number that it is, up to the largest of 64 bits. Every value
fits its setting and says what was written (`fits_valueText`, `valueOf_valueText`).

Main statement: settings are read from the text that they were written to (`read_json`).
-/

set_option autoImplicit false

namespace AsmFormat

open Json

/-! ## Digits -/

section Digits

variable {c : Char} {t : Text}

theorem Byte.isDigit_toUInt8 (h : c.isDigit = true) : Byte.isDigit c.toUInt8 = true := by
  rw [Byte.isDigit, Bool.and_eq_true, decide_eq_true_iff, decide_eq_true_iff,
    UInt8.le_iff_toNat_le, UInt8.le_iff_toNat_le, toNat_toUInt8_of_isDigit h]
  exact Char.isDigit_iff_toNat.1 h

theorem areDigits_map_toUInt8 (h : ∀ c ∈ t, c.isDigit = true) :
    AreDigits (t.map Char.toUInt8) := by
  intro b hb
  obtain ⟨c, hc, rfl⟩ := List.mem_map.1 hb
  exact Byte.isDigit_toUInt8 (h c hc)

/-- The bytes say the same number as the characters. -/
theorem digitsValue_map_toUInt8 (h : ∀ c ∈ t, c.isDigit = true) (value : Nat) :
    digitsValue value (t.map Char.toUInt8) = Nat.ofDigitChars 10 t value := by
  induction t generalizing value with
  | nil => rfl
  | cons c t ih =>
    rw [List.forall_mem_cons] at h
    have hdigit : Byte.digit c.toUInt8 = c.toNat - '0'.toNat := by
      rw [Byte.digit, toNat_toUInt8_of_isDigit h.1]
      rfl
    rw [Nat.ofDigitChars_cons, ← ih h.2, Nat.mul_comm 10, ← hdigit]
    rfl

end Digits

/-! ## Numbers in digits -/

theorem naturalValue_toDigits (n : Nat) : naturalValue (Text.utf8 (Nat.toDigits 10 n)) = n := by
  rw [utf8_of_isDigit isDigit_of_mem_toDigits, naturalValue,
    digitsValue_map_toUInt8 isDigit_of_mem_toDigits]
  exact Nat.ofDigitChars_toDigits (by decide) (by decide)

theorem isNatural_toDigits (n : Nat) : IsNatural (Text.utf8 (Nat.toDigits 10 n)) := by
  rcases Nat.eq_zero_or_pos n with rfl | hpos
  · exact .zero
  · have hdigits := isDigit_of_mem_toDigits (n := n)
    have hhead := head?_toDigits_ne_zero hpos
    rw [utf8_of_isDigit hdigits]
    obtain ⟨c, ds, hcons⟩ := List.exists_cons_of_ne_nil (Nat.toDigits_ne_nil (n := n) (b := 10))
    rw [hcons, List.forall_mem_cons] at hdigits
    rw [hcons, List.head?_cons] at hhead
    rw [hcons, List.map_cons]
    refine .digits (Byte.isDigit_toUInt8 hdigits.1) ?_ (areDigits_map_toUInt8 hdigits.2)
    -- the byte for zero would be the encoding of the character for zero
    intro hzero
    have hnumber := toNat_toUInt8_of_isDigit hdigits.1
    rw [hzero] at hnumber
    exact hhead (congrArg some (Char.toNat_inj.1 hnumber.symm))

/-! ## Values that were written -/

namespace Settings

variable (x : Settings) (s : Setting)

theorem isValue_valueText : IsValue (Text.utf8 (x.valueText s)) := by
  cases s with
  | column c =>
    have hnatural := isNatural_toDigits (x.column c).toNat
    have hunsigned : IsUnsigned (Text.utf8 (x.valueText (.column c))) := by
      refine ⟨Text.utf8 (x.valueText (.column c)), [], [], hnatural, .nil, .nil, ?_⟩
      rw [List.append_nil, List.append_nil]
    exact .number (.unsigned hunsigned)
  | flag f =>
    rw [valueText]
    cases x.flag f with
    | false => exact .false
    | true => exact .true

/-- What is written for a setting fits the setting. -/
theorem fits_valueText : s.Fits (Text.utf8 (x.valueText s)) := by
  cases s with
  | column c =>
    refine ⟨isNatural_toDigits _, ?_⟩
    rw [valueText, naturalValue_toDigits]
    exact (x.column c).toNat_lt
  | flag f => exact ⟨x.flag f, rfl⟩

/-- What is written for a setting says the value that the setting has. -/
theorem valueOf_valueText : s.valueOf (Text.utf8 (x.valueText s)) = x.value s := by
  cases s with
  | column c =>
    rw [Setting.valueOf, valueText, naturalValue_toDigits, UInt64.ofNat_toNat]
    rfl
  | flag f => exact flagText_beq_true (x.flag f)

/-! ## The object that is written -/

theorem spells_name : Spells (Text.utf8 s.name.toList) (Text.utf8 s.name.toList) := by
  apply spells_self
  rcases s with (_ | _ | _ | _) | (_ | _ | _) <;> decide

/-- The member that is written for a setting. -/
def member : Member :=
  bareMember (Text.utf8 s.name.toList) (Text.utf8 (x.valueText s)) (spells_name s)
    (isValue_valueText x s)

/-- The object that settings are written to. -/
def object : ObjectText :=
  bareObject (Setting.all.map x.member)

theorem text_member : (x.member s).text = Text.utf8 (x.memberText s) := by
  have hquote : String.utf8EncodeChar '"' = [Byte.quote] := rfl
  have hcolon : Text.utf8 ['"', ':'] = [Byte.quote, Byte.colon] := rfl
  have hmember : Text.utf8 (x.memberText s) =
      [Byte.quote] ++ (Text.utf8 s.name.toList ++ [Byte.quote, Byte.colon] ++
        Text.utf8 (x.valueText s)) := by
    rw [memberText, ← hquote, ← hcolon, ← Text.utf8_append, ← Text.utf8_append]
    rfl
  rw [hmember, List.append_assoc, Member.text, Member.body, member, bareMember, List.append_nil]
  rfl

/-- Members that are written one after the other, with a comma between neighbours. -/
theorem utf8_intercalate_memberText (others : List Setting) :
    Text.utf8 ([','].intercalate ((s :: others).map x.memberText)) =
      Member.joined ((s :: others).map x.member) := by
  have hfurther : Text.utf8 ((others.map x.memberText).flatMap fun t => [','] ++ t) =
      Member.further (others.map x.member) := by
    rw [Text.utf8, List.flatMap_assoc, List.flatMap_map, Member.further, List.flatMap_map]
    apply List.flatMap_congr
    intro t _
    rw [text_member]
    rfl
  rw [List.map_cons, Text.intercalate_cons, Text.utf8_append, hfurther, ← text_member]
  rfl

/-- The text that settings are written to is an object. -/
theorem utf8_json : Text.utf8 x.json = x.object.text := by
  have hmembers : Text.utf8 ([','].intercalate (Setting.all.map x.memberText)) =
      Member.joined (Setting.all.map x.member) := utf8_intercalate_memberText x _ _
  calc Text.utf8 x.json
      = Byte.openObject :: Text.utf8 ([','].intercalate (Setting.all.map x.memberText)) ++
          [Byte.closeObject] := Text.utf8_append _ _
    _ = x.object.text := by
      rw [hmembers]
      rfl

/-- All settings are given, with the values that were written. -/
theorem given_object :
    x.object.given = Setting.all.map fun s => (s, Text.utf8 (x.valueText s)) := by
  have hmember : ∀ s, (x.member s).setting? = some (s, Text.utf8 (x.valueText s)) := by
    intro s
    exact Member.setting?_eq_some_iff.2 ⟨rfl, rfl⟩
  rw [ObjectText.given, object, bareObject, List.filterMap_map, ← List.filterMap_eq_map]
  apply List.filterMap_congr
  intro s _
  exact hmember s

/-- The reader accepts everything that was written: no setting is given twice. -/
theorem accepts_object : Accepts Overrides.none x.object.given := by
  rw [given_object, accepts_iff, List.map_map]
  refine ⟨?_, ?_, ?_⟩
  · intro p _
    rw [Overrides.gives_eq, Overrides.value_none]
    rfl
  · have hfst : Setting.all.map (Prod.fst ∘ fun s => (s, Text.utf8 (x.valueText s))) =
        Setting.all := List.map_id Setting.all
    rw [hfst]
    decide
  · intro p hp
    obtain ⟨s, -, rfl⟩ := List.mem_map.1 hp
    exact fits_valueText x s

/-! ## Main statement -/

/-- Settings are read from the text that they were written to, whatever their columns and flags. -/
theorem read_json : Settings.read (Text.utf8 x.json) = .ok x := by
  rw [utf8_json, read_eq_ok_iff]
  refine ⟨accepts_object x, ?_⟩
  have hnodup : (x.object.given.map Prod.fst).Nodup := (accepts_iff.1 (accepts_object x)).2.1
  apply eq_of_value_eq
  intro s
  have hmem : (s, Text.utf8 (x.valueText s)) ∈ x.object.given := by
    rw [given_object]
    exact List.mem_map.2 ⟨s, Setting.mem_all s, rfl⟩
  rw [Overrides.value_applyTo, value_gather_of_mem hnodup hmem, Option.getD_some,
    valueOf_valueText]

end Settings

end AsmFormat
