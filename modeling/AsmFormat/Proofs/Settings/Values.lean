import AsmFormat.Proofs.Json.Skipping
import AsmFormat.Settings.Reader
import AsmFormat.Settings.Writer

/-!
# Values of settings

A column takes an integer without sign, fraction and exponent that fits 64 bits, a flag takes `true`
or `false` (`Setting.Fits`). Of any other value the reader makes a fault, whatever kind of value it
is, so reading a setting succeeds exactly for the values that fit and gives what they say
(`readSetting_eq_ok_iff`).
-/

set_option autoImplicit false

namespace AsmFormat

open Json

/-! ## What a value says -/

/-- The values of a setting. -/
abbrev Setting.Value : Setting → Type
  | column _ => Column
  | flag _ => Bool

namespace Setting

/-- The setting takes the value with the given text. -/
def Fits : Setting → Bytes → Prop
  | column _, v => IsNatural v ∧ naturalValue v < UInt64.size
  | flag _, v => ∃ b, v = Text.utf8 (Settings.flagText b)

/-- The text says that the setting has the value. -/
def Says : (s : Setting) → Bytes → s.Value → Prop
  | column _, v, x => naturalValue v = x.toNat
  | flag _, v, x => v = Text.utf8 (Settings.flagText x)

/-- What a value that fits says. -/
def valueOf : (s : Setting) → Bytes → s.Value
  | column _, v => UInt64.ofNat (naturalValue v)
  | flag _, v => v == Text.utf8 (Settings.flagText true)

end Setting

/-- The settings given so far and one more. -/
def Overrides.set (given : Overrides) : (s : Setting) → s.Value → Overrides
  | .column c, x => given.setColumn c x
  | .flag f, x => given.setFlag f x

theorem flagText_beq_true (b : Bool) :
    (Text.utf8 (Settings.flagText b) == Text.utf8 (Settings.flagText true)) = b := by
  cases b <;> decide

theorem Setting.says_valueOf {s : Setting} {v : Bytes} (h : s.Fits v) : s.Says v (s.valueOf v) := by
  cases s with
  | column c => exact (UInt64.toNat_ofNat_of_lt' h.2).symm
  | flag f =>
    obtain ⟨b, rfl⟩ := h
    rw [Says, valueOf, flagText_beq_true]

/-! ## Faults -/

theorem bind_eq_ok_iff {α β : Type} {x : Except Fault α} {f : α → Except Fault β} {r : β} :
    (x >>= f) = .ok r ↔ ∃ a, x = .ok a ∧ f a = .ok r := by
  cases x with
  | error fault =>
    constructor
    · rintro ⟨⟩
    · rintro ⟨a, ⟨⟩, -⟩
  | ok a =>
    constructor
    · intro h
      exact ⟨a, rfl, h⟩
    · rintro ⟨b, ⟨⟩, h⟩
      exact h

namespace Settings

/-! ## Values that are refused -/

/-- A value of the wrong kind is refused, whatever it is. -/
theorem refuse_ne_ok {α : Type} (expected : String) (bs : Bytes) (r : α) :
    refuse expected bs ≠ .ok r := by
  intro h
  rw [refuse.eq_def] at h
  dsimp only at h
  split at h
  · cases h
  · split at h
    · obtain ⟨rest, -, h⟩ := bind_eq_ok_iff.1 h
      cases h
    · split at h
      · obtain ⟨⟨_ | _ | _, rest⟩, -, h⟩ := bind_eq_ok_iff.1 h <;> cases h
      · split at h
        · obtain ⟨⟨_ | _ | _, rest⟩, -, h⟩ := bind_eq_ok_iff.1 h <;> cases h
        · split at h
          · obtain ⟨found, -, h⟩ := bind_eq_ok_iff.1 h
            cases h
          · split at h
            · cases h
            · split at h <;> cases h

/-! ## Columns -/

/-- The column that a number is. -/
def columnOf (number : Except Fault (Number × Bytes)) : Except Fault (Column × Bytes) := do
  let (n, rest) ← number
  match n with
  | .natural n => .ok (n, rest)
  | .negative n => faultBefore (.wrongValue (-n) expectedColumn) rest
  | .real x => faultBefore (.wrongType (.real x) expectedColumn) rest

theorem columnOf_ne_ok {number : Except Fault (Number × Bytes)} (h : NoNatural number)
    (r : Column × Bytes) : columnOf number ≠ .ok r := by
  cases number with
  | error fault => rintro ⟨⟩
  | ok found =>
    obtain ⟨n | n | x, rest⟩ := found
    · exact absurd rfl (h n rest)
    · rintro ⟨⟩
    · rintro ⟨⟩

theorem readColumn_digit {w : Bytes} (hw : IsBlanks w) {b : UInt8} (hb : Byte.isDigit b = true)
    (bs : Bytes) : readColumn (w ++ b :: bs) = columnOf (readNumber false (b :: bs)) := by
  rw [readColumn, skipBlanks_append hw, skipBlanks_cons (Byte.isBlank_of_isDigit hb)]
  dsimp only
  rw [if_neg (Byte.ne_of_isDigit hb rfl), if_pos hb]
  rfl

theorem readColumn_minus {w : Bytes} (hw : IsBlanks w) (bs : Bytes) :
    readColumn (w ++ Byte.minus :: bs) = columnOf (readNumber true bs) := by
  rw [readColumn, skipBlanks_append hw, skipBlanks_cons rfl]
  rfl

theorem readColumn_ne_ok {w : Bytes} (hw : IsBlanks w) {b : UInt8} (hblank : Byte.isBlank b = false)
    (hminus : b ≠ Byte.minus) (hdigit : Byte.isDigit b = false) (bs : Bytes) (r : Column × Bytes) :
    readColumn (w ++ b :: bs) ≠ .ok r := by
  rw [readColumn, skipBlanks_append hw, skipBlanks_cons hblank]
  dsimp only
  rw [if_neg hminus, if_neg (by simp [hdigit])]
  exact refuse_ne_ok _ _ _

theorem isDigit_of_isNatural {b : UInt8} {t : Bytes} (h : IsNatural (b :: t)) :
    Byte.isDigit b = true := by
  cases h with
  | zero => rfl
  | digits hb _ _ => exact hb

/-- A column is read from a value that fits, and from no other. -/
theorem readColumn_eq_ok_iff {w v rest : Bytes} (hw : IsBlanks w) (hv : IsValue v)
    (hrest : Ends rest) {r : Column × Bytes} :
    readColumn (w ++ (v ++ rest)) = .ok r ↔
      (IsNatural v ∧ naturalValue v < UInt64.size) ∧
        r = (UInt64.ofNat (naturalValue v), rest) := by
  -- every value but an unsigned number is told by its first byte
  have hother : ∀ b t, v = b :: t → Byte.isDigit b = false →
      readColumn (w ++ (v ++ rest)) ≠ .ok r → (readColumn (w ++ (v ++ rest)) = .ok r ↔
        (IsNatural v ∧ naturalValue v < UInt64.size) ∧
          r = (UInt64.ofNat (naturalValue v), rest)) := by
    rintro b t rfl hdigit hrefused
    constructor
    · intro h
      exact absurd h hrefused
    · rintro ⟨⟨hnatural, -⟩, -⟩
      rw [isDigit_of_isNatural hnatural] at hdigit
      cases hdigit
  rcases opens_of_isValue hv with hnumber | rfl | rfl | ⟨b, hb, t, rfl⟩
  · cases hnumber with
    | negative ht =>
      refine hother Byte.minus _ rfl rfl ?_
      rw [List.cons_append, readColumn_minus hw]
      exact columnOf_ne_ok (noNatural_readNumber_negative _) r
    | unsigned ht =>
      obtain ⟨b, u, rfl, hb⟩ := exists_cons_of_isUnsigned ht
      rw [List.cons_append, readColumn_digit hw hb, ← List.cons_append]
      constructor
      · intro h
        have hfits : IsNatural (b :: u) ∧ naturalValue (b :: u) < UInt64.size :=
          Classical.byContradiction fun hnot =>
            columnOf_ne_ok (noNatural_readNumber ht hrest hnot) r h
        rw [readNumber_natural hfits.1 hfits.2 hrest] at h
        cases h
        exact ⟨hfits, rfl⟩
      · rintro ⟨⟨hnatural, hlt⟩, rfl⟩
        rw [readNumber_natural hnatural hlt hrest]
        rfl
  · exact hother Byte.letterT _ rfl rfl (readColumn_ne_ok hw rfl (by decide) rfl _ r)
  · exact hother Byte.letterF _ rfl rfl (readColumn_ne_ok hw rfl (by decide) rfl _ r)
  · have hblank : ∀ b ∈ openers, Byte.isBlank b = false := forall_mem_openers rfl rfl rfl rfl
    have hminus : ∀ b ∈ openers, b ≠ Byte.minus :=
      forall_mem_openers (by decide) (by decide) (by decide) (by decide)
    have hdigit : ∀ b ∈ openers, Byte.isDigit b = false := forall_mem_openers rfl rfl rfl rfl
    exact hother b t rfl (hdigit b hb)
      (readColumn_ne_ok hw (hblank b hb) (hminus b hb) (hdigit b hb) _ r)

/-! ## Flags -/

theorem readFlag_flagText {w : Bytes} (hw : IsBlanks w) (b : Bool) (rest : Bytes) :
    readFlag (w ++ (Text.utf8 (flagText b) ++ rest)) = .ok (b, rest) := by
  cases b with
  | false =>
    have hletters := readLetters_append (Text.utf8 "alse".toList) rest
    rw [readFlag, skipBlanks_append hw]
    exact congrArg (Except.map (Prod.mk false)) hletters
  | true =>
    have hletters := readLetters_append (Text.utf8 "rue".toList) rest
    rw [readFlag, skipBlanks_append hw]
    exact congrArg (Except.map (Prod.mk true)) hletters

theorem readFlag_ne_ok {w : Bytes} (hw : IsBlanks w) {b : UInt8} (hblank : Byte.isBlank b = false)
    (htrue : b ≠ Byte.letterT) (hfalse : b ≠ Byte.letterF) (bs : Bytes) (r : Bool × Bytes) :
    readFlag (w ++ b :: bs) ≠ .ok r := by
  rw [readFlag, skipBlanks_append hw, skipBlanks_cons hblank]
  dsimp only
  rw [if_neg htrue, if_neg hfalse]
  exact refuse_ne_ok _ _ _

theorem flagText_cons (b : Bool) :
    ∃ c ∈ [Byte.letterT, Byte.letterF], ∃ t, Text.utf8 (flagText b) = c :: t := by
  cases b
  · exact ⟨Byte.letterF, by decide, Text.utf8 "alse".toList, rfl⟩
  · exact ⟨Byte.letterT, by decide, Text.utf8 "rue".toList, rfl⟩

/-- A flag is read from a value that fits, and from no other. -/
theorem readFlag_eq_ok_iff {w v rest : Bytes} (hw : IsBlanks w) (hv : IsValue v)
    {r : Bool × Bytes} :
    readFlag (w ++ (v ++ rest)) = .ok r ↔
      (∃ b, v = Text.utf8 (flagText b)) ∧ r = (v == Text.utf8 (flagText true), rest) := by
  have hflag : ∀ b, v = Text.utf8 (flagText b) → (readFlag (w ++ (v ++ rest)) = .ok r ↔
      (∃ b, v = Text.utf8 (flagText b)) ∧ r = (v == Text.utf8 (flagText true), rest)) := by
    rintro b rfl
    rw [readFlag_flagText hw, flagText_beq_true]
    constructor
    · rintro ⟨⟩
      exact ⟨⟨b, rfl⟩, rfl⟩
    · rintro ⟨-, rfl⟩
      rfl
  -- the other values are told by their first byte
  have hother : ∀ b t, v = b :: t → Byte.isBlank b = false → b ≠ Byte.letterT →
      b ≠ Byte.letterF → (readFlag (w ++ (v ++ rest)) = .ok r ↔
      (∃ b, v = Text.utf8 (flagText b)) ∧ r = (v == Text.utf8 (flagText true), rest)) := by
    rintro b t rfl hblank htrue hfalse
    constructor
    · intro h
      exact absurd h (readFlag_ne_ok hw hblank htrue hfalse _ r)
    · rintro ⟨⟨flag, htext⟩, -⟩
      obtain ⟨c, hc, u, hcons⟩ := flagText_cons flag
      rw [hcons] at htext
      cases htext
      simp [htrue, hfalse] at hc
  rcases opens_of_isValue hv with hnumber | rfl | rfl | ⟨b, hb, t, rfl⟩
  · obtain ⟨b, t, rfl, hb | rfl⟩ := exists_cons_of_isNumber hnumber
    · exact hother b t rfl (Byte.isBlank_of_isDigit hb) (Byte.ne_of_isDigit hb rfl)
        (Byte.ne_of_isDigit hb rfl)
    · exact hother Byte.minus t rfl rfl (by decide) (by decide)
  · exact hflag true rfl
  · exact hflag false rfl
  · have hblank : ∀ b ∈ openers, Byte.isBlank b = false := forall_mem_openers rfl rfl rfl rfl
    have htrue : ∀ b ∈ openers, b ≠ Byte.letterT :=
      forall_mem_openers (by decide) (by decide) (by decide) (by decide)
    have hfalse : ∀ b ∈ openers, b ≠ Byte.letterF :=
      forall_mem_openers (by decide) (by decide) (by decide) (by decide)
    exact hother b t rfl (hblank b hb) (htrue b hb) (hfalse b hb)

/-! ## Settings -/

/-- A setting is read from a value that fits it, and from no other. -/
theorem readSetting_eq_ok_iff {given : Overrides} {s : Setting} {w v rest : Bytes}
    (hw : IsBlanks w) (hv : IsValue v) (hrest : Ends rest) {r : Overrides × Bytes} :
    readSetting given s (w ++ (v ++ rest)) = .ok r ↔
      s.Fits v ∧ r = (given.set s (s.valueOf v), rest) := by
  cases s with
  | column c =>
    rw [readSetting, bind_eq_ok_iff]
    constructor
    · rintro ⟨found, hread, hgiven⟩
      obtain ⟨hfits, rfl⟩ := (readColumn_eq_ok_iff hw hv hrest).1 hread
      cases hgiven
      exact ⟨hfits, rfl⟩
    · rintro ⟨hfits, rfl⟩
      exact ⟨_, (readColumn_eq_ok_iff hw hv hrest).2 ⟨hfits, rfl⟩, rfl⟩
  | flag f =>
    rw [readSetting, bind_eq_ok_iff]
    constructor
    · rintro ⟨found, hread, hgiven⟩
      obtain ⟨hfits, rfl⟩ := (readFlag_eq_ok_iff hw hv).1 hread
      cases hgiven
      exact ⟨hfits, rfl⟩
    · rintro ⟨hfits, rfl⟩
      exact ⟨_, (readFlag_eq_ok_iff hw hv).2 ⟨hfits, rfl⟩, rfl⟩

end Settings

end AsmFormat
