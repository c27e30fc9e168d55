import AsmFormat.Proofs.Json.Grammar

/-!
# Reading strings and numbers

Each reader takes exactly the text that the grammar describes and leaves what follows. A string ends
at its quote. A number ends where a byte comes that cannot go on with it (`Ends`), so what is stated
of numbers asks that of the bytes behind.

An integer without sign is read as what it says if that fits 64 bits (`readNumber_natural`); every
other number is read as something else or refused (`NoNatural`).
-/

set_option autoImplicit false

namespace AsmFormat.Json

/-! ## Bytes -/

namespace Byte

theorem ne_of_isDigit {b c : UInt8} (hb : isDigit b = true) (hc : isDigit c = false) : b ≠ c := by
  rintro rfl
  rw [hb] at hc
  cases hc

theorem isBlank_of_isDigit {b : UInt8} (h : isDigit b = true) : isBlank b = false := by
  have h1 : b ≠ 0x20 := ne_of_isDigit h rfl
  have h2 : b ≠ 0x0A := ne_of_isDigit h rfl
  have h3 : b ≠ 0x09 := ne_of_isDigit h rfl
  have h4 : b ≠ 0x0D := ne_of_isDigit h rfl
  simp [isBlank, h1, h2, h3, h4]

theorem opensExponent_of_isDigit {b : UInt8} (h : isDigit b = true) : opensExponent b = false := by
  have h1 : b ≠ 0x65 := ne_of_isDigit h rfl
  have h2 : b ≠ 0x45 := ne_of_isDigit h rfl
  simp [opensExponent, h1, h2]

theorem opensLiteral_of_isDigit {b : UInt8} (h : isDigit b = true) : opensLiteral b = false := by
  have h1 : b ≠ letterN := ne_of_isDigit h rfl
  have h2 : b ≠ letterT := ne_of_isDigit h rfl
  have h3 : b ≠ letterF := ne_of_isDigit h rfl
  simp [opensLiteral, h1, h2, h3]

theorem isDigit_of_opensExponent {e : UInt8} (h : opensExponent e = true) : isDigit e = false := by
  cases he : isDigit e with
  | false => rfl
  | true =>
    rw [opensExponent_of_isDigit he] at h
    cases h

theorem ne_point_of_opensExponent {e : UInt8} (h : opensExponent e = true) : e ≠ point := by
  rintro rfl
  cases h

end Byte

/-! ## Blanks -/

theorem skipBlanks_append {w : Bytes} (hw : IsBlanks w) (bs : Bytes) :
    skipBlanks (w ++ bs) = skipBlanks bs :=
  List.dropWhile_append_of_pos hw

theorem skipBlanks_cons {b : UInt8} (h : Byte.isBlank b = false) (bs : Bytes) :
    skipBlanks (b :: bs) = b :: bs := by
  rw [skipBlanks, List.dropWhile_cons, if_neg (by simp [h])]

/-! ## Strings -/

theorem readHex_append {ds : Bytes} {n : Nat} (h : IsHex ds n) (rest : Bytes) :
    readHex (ds ++ rest) = .ok (n, rest) := by
  cases h with
  | mk ha hb hc hd => simp [readHex, ha, hb, hc, hd]

theorem skipEscape_short {b c : UInt8} (h : shortEscape? b = some c) (rest : Bytes) :
    skipEscape (b :: rest) = .ok rest := by
  simp [skipEscape, h]

theorem skipEscape_numbered {ds : Bytes} {n : Nat} (h : IsHex ds n) (rest : Bytes) :
    skipEscape (Byte.letterU :: (ds ++ rest)) = .ok rest := by
  rw [skipEscape, if_neg (by decide), if_pos rfl, readHex_append h]
  rfl

theorem skipStringFrom_escape {bs rest : Bytes} (h : skipEscape bs = .ok rest) (fuel : Nat) :
    skipStringFrom (fuel + 1) (Byte.backslash :: bs) = skipStringFrom fuel rest := by
  rw [skipStringFrom, if_neg (by decide), if_pos rfl, h]

theorem skipStringFrom_plain {b : UInt8} (h : IsPlain b) (fuel : Nat) (bs : Bytes) :
    skipStringFrom (fuel + 1) (b :: bs) = skipStringFrom fuel bs := by
  obtain ⟨hcontrol, hquote, hbackslash⟩ := h
  rw [skipStringFrom, if_neg hquote, if_neg hbackslash, if_neg (by simp [hcontrol])]

/-- A string is passed over if there is fuel for each of its bytes and for the quote. -/
theorem skipStringFrom_body {t : Bytes} (ht : IsStringBody t) (rest : Bytes) {fuel : Nat}
    (hfuel : t.length < fuel) : skipStringFrom fuel (t ++ Byte.quote :: rest) = .ok rest := by
  induction ht generalizing fuel with
  | nil =>
    obtain ⟨k, rfl⟩ := Nat.exists_eq_add_of_lt hfuel
    rw [List.nil_append, skipStringFrom, if_pos rfl]
  | plain hb ht ih =>
    obtain ⟨k, rfl⟩ := Nat.exists_eq_add_of_lt hfuel
    rw [List.cons_append, skipStringFrom_plain hb]
    apply ih
    rw [List.length_cons]
    omega
  | short hb ht ih =>
    obtain ⟨k, rfl⟩ := Nat.exists_eq_add_of_lt hfuel
    rw [List.cons_append, List.cons_append, skipStringFrom_escape (skipEscape_short hb _)]
    apply ih
    simp only [List.length_cons]
    omega
  | numbered hds ht ih =>
    obtain ⟨k, rfl⟩ := Nat.exists_eq_add_of_lt hfuel
    rw [List.cons_append, List.cons_append, List.append_assoc,
      skipStringFrom_escape (skipEscape_numbered hds _)]
    apply ih
    simp only [List.length_cons, List.length_append]
    omega

theorem skipString_body {t : Bytes} (ht : IsStringBody t) (rest : Bytes) :
    skipString (t ++ Byte.quote :: rest) = .ok rest := by
  apply skipStringFrom_body ht
  rw [List.length_append]
  omega

/-! ## Names -/

theorem readEscape_short {b c : UInt8} (h : shortEscape? b = some c) (rest : Bytes) :
    readEscape (b :: rest) = .ok ([c], rest) := by
  simp [readEscape, h]

theorem shortEscape?_letterU : shortEscape? Byte.letterU = none := by decide

theorem readEscape_numbered {ds : Bytes} {n : Nat} (h : IsHex ds n) (hn : ¬IsSurrogate n)
    (rest : Bytes) :
    readEscape (Byte.letterU :: (ds ++ rest)) = .ok (characterBytes n, rest) := by
  have hlow : ¬(0xDC00 ≤ n ∧ n ≤ 0xDFFF) := fun h => hn ⟨by omega, h.2⟩
  have hhigh : ¬(0xD800 ≤ n ∧ n ≤ 0xDBFF) := fun h => hn ⟨h.1, by omega⟩
  rw [readEscape, shortEscape?_letterU]
  simp only [if_pos, readNumberedEscape, readHex_append h, bind, Except.bind, if_neg hlow,
    if_neg hhigh]

theorem readEscape_pair {ds es : Bytes} {high low : Nat} (hhigh : IsHex ds high)
    (hlow : IsHex es low) (h1 : 0xD800 ≤ high) (h2 : high ≤ 0xDBFF) (h3 : 0xDC00 ≤ low)
    (h4 : low ≤ 0xDFFF) (rest : Bytes) :
    readEscape (Byte.letterU :: (ds ++ Byte.backslash :: Byte.letterU :: (es ++ rest))) =
      .ok (characterBytes (0x10000 + (high - 0xD800) * 0x400 + (low - 0xDC00)), rest) := by
  have hnot : ¬(0xDC00 ≤ high ∧ high ≤ 0xDFFF) := fun h => by omega
  rw [readEscape, shortEscape?_letterU]
  simp only [if_pos, readNumberedEscape, readHex_append hhigh, readHex_append hlow, bind,
    Except.bind, if_neg hnot, if_pos (And.intro h1 h2), if_pos (And.intro h3 h4)]

theorem readStringFrom_escape {bs bytes rest : Bytes} (h : readEscape bs = .ok (bytes, rest))
    (fuel : Nat) (found : Bytes) :
    readStringFrom (fuel + 1) found (Byte.backslash :: bs) =
      readStringFrom fuel (bytes.reverse ++ found) rest := by
  rw [readStringFrom, if_neg (by decide), if_pos rfl, h]

theorem readStringFrom_plain {b : UInt8} (h : IsPlain b) (fuel : Nat) (found bs : Bytes) :
    readStringFrom (fuel + 1) found (b :: bs) = readStringFrom fuel (b :: found) bs := by
  obtain ⟨hcontrol, hquote, hbackslash⟩ := h
  rw [readStringFrom, if_neg hquote, if_neg hbackslash, if_neg (by simp [hcontrol])]

/-- A name is read as what it stands for if there is fuel for each of its bytes and for the
quote. -/
theorem readStringFrom_spelled {t u : Bytes} (h : Spells t u) (found rest : Bytes) {fuel : Nat}
    (hfuel : t.length < fuel) :
    readStringFrom fuel found (t ++ Byte.quote :: rest) = .ok (found.reverse ++ u, rest) := by
  induction h generalizing found fuel with
  | nil =>
    obtain ⟨k, rfl⟩ := Nat.exists_eq_add_of_lt hfuel
    rw [List.nil_append, readStringFrom, if_pos rfl, List.append_nil]
  | plain hb ht ih =>
    obtain ⟨k, rfl⟩ := Nat.exists_eq_add_of_lt hfuel
    rw [List.cons_append, readStringFrom_plain hb, ih]
    · simp
    · rw [List.length_cons]
      omega
  | short hb ht ih =>
    obtain ⟨k, rfl⟩ := Nat.exists_eq_add_of_lt hfuel
    rw [List.cons_append, List.cons_append, readStringFrom_escape (readEscape_short hb _), ih]
    · simp
    · simp only [List.length_cons]
      omega
  | numbered hds hn ht ih =>
    obtain ⟨k, rfl⟩ := Nat.exists_eq_add_of_lt hfuel
    rw [List.cons_append, List.cons_append, List.append_assoc,
      readStringFrom_escape (readEscape_numbered hds hn _), ih]
    · simp
    · simp only [List.length_cons, List.length_append]
      omega
  | pair hhigh h1 h2 hlow h3 h4 ht ih =>
    obtain ⟨k, rfl⟩ := Nat.exists_eq_add_of_lt hfuel
    rw [List.cons_append, List.cons_append, List.append_assoc, List.cons_append, List.cons_append,
      List.append_assoc, readStringFrom_escape (readEscape_pair hhigh hlow h1 h2 h3 h4 _), ih]
    · simp
    · simp only [List.length_cons, List.length_append]
      omega

theorem readString_spelled {t u : Bytes} (h : Spells t u) (rest : Bytes) :
    readString (t ++ Byte.quote :: rest) = .ok (u, rest) := by
  apply readStringFrom_spelled h
  rw [List.length_append]
  omega

/-! ## Numbers that are passed over -/

/-- No byte comes that could go on with a number. -/
def Ends (rest : Bytes) : Prop :=
  ∀ b ∈ rest.head?, Byte.isDigit b = false ∧ b ≠ Byte.point ∧ Byte.opensExponent b = false

theorem skipDigits_append {ds : Bytes} (h : AreDigits ds) (bs : Bytes) :
    skipDigits (ds ++ bs) = skipDigits bs :=
  List.dropWhile_append_of_pos h

theorem skipDigits_of_digitNext {bs : Bytes} (h : digitNext bs = false) : skipDigits bs = bs := by
  cases bs with
  | nil => rfl
  | cons b bs =>
    have hb : Byte.isDigit b = false := h
    rw [skipDigits, List.dropWhile_cons, if_neg (by simp [hb])]

theorem digitNext_of_ends {rest : Bytes} (h : Ends rest) : digitNext rest = false := by
  cases rest with
  | nil => rfl
  | cons b rest => exact (h b rfl).1

theorem skipExponent_append {sign ds rest : Bytes} {d : UInt8} (hsign : IsExponentSign sign)
    (hds : AreDigits (d :: ds)) (hrest : digitNext rest = false) :
    skipExponent (sign ++ (d :: ds ++ rest)) = .ok rest := by
  have hd : Byte.isDigit d = true := hds d List.mem_cons_self
  have hskip : skipDigits (ds ++ rest) = rest := by
    rw [skipDigits_append fun b hb => hds b (List.mem_cons_of_mem d hb),
      skipDigits_of_digitNext hrest]
  cases hsign with
  | nil =>
    have hplus : d ≠ Byte.plus := Byte.ne_of_isDigit hd rfl
    have hminus : d ≠ Byte.minus := Byte.ne_of_isDigit hd rfl
    simp [skipExponent, hplus, hminus, hd, hskip]
  | plus => simp [skipExponent, hd, hskip]
  | minus => simp [skipExponent, hd, hskip]

/-- An exponent, or what comes in its place, goes on with no digits and opens no fraction. -/
theorem head_exponent {e rest : Bytes} (he : IsExponent e) (hrest : Ends rest) :
    ∀ b ∈ (e ++ rest).head?, Byte.isDigit b = false ∧ b ≠ Byte.point := by
  cases he with
  | nil => exact fun b hb => ⟨(hrest b hb).1, (hrest b hb).2.1⟩
  | letter hletter hsign hds =>
    rintro b ⟨⟩
    exact ⟨Byte.isDigit_of_opensExponent hletter, Byte.ne_point_of_opensExponent hletter⟩

theorem digitNext_eq_false {bs : Bytes} (h : ∀ b ∈ bs.head?, Byte.isDigit b = false) :
    digitNext bs = false := by
  cases bs with
  | nil => rfl
  | cons b bs => exact h b rfl

theorem digitNext_exponent {e rest : Bytes} (he : IsExponent e) (hrest : Ends rest) :
    digitNext (e ++ rest) = false :=
  digitNext_eq_false fun b hb => (head_exponent he hrest b hb).1

theorem digitNext_fraction {f e rest : Bytes} (hf : IsFraction f) (he : IsExponent e)
    (hrest : Ends rest) : digitNext (f ++ (e ++ rest)) = false := by
  cases hf with
  | nil =>
    rw [List.nil_append]
    exact digitNext_exponent he hrest
  | point hds => rfl

theorem skipRealEnd_append {e rest : Bytes} (he : IsExponent e) (hrest : Ends rest) :
    skipRealEnd (e ++ rest) = .ok rest := by
  cases he with
  | nil =>
    cases rest with
    | nil => rfl
    | cons b rest => rw [List.nil_append, skipRealEnd, if_neg (by simp [(hrest b rfl).2.2])]
  | letter hletter hsign hds =>
    rw [List.cons_append, List.append_assoc, skipRealEnd, if_pos hletter]
    exact skipExponent_append hsign hds (digitNext_eq_false fun b hb => (hrest b hb).1)

theorem skipNumberEnd_append {f e rest : Bytes} (hf : IsFraction f) (he : IsExponent e)
    (hrest : Ends rest) : skipNumberEnd (f ++ (e ++ rest)) = .ok rest := by
  have hend := skipRealEnd_append he hrest
  cases hf with
  | nil =>
    have hhead := head_exponent he hrest
    rw [List.nil_append]
    cases hbs : e ++ rest with
    | nil =>
      rw [hbs] at hend
      exact hend
    | cons b bs =>
      have hpoint : b ≠ Byte.point := (hhead b (by rw [hbs]; rfl)).2
      rw [skipNumberEnd, if_neg hpoint, ← hbs, hend]
  | @point d ds hds =>
    have hd : digitNext (d :: ds ++ (e ++ rest)) = true := hds d List.mem_cons_self
    rw [List.cons_append, skipNumberEnd, if_pos rfl, if_pos hd, skipDigits_append hds,
      skipDigits_of_digitNext (digitNext_exponent he hrest), hend]

/-- A number behind its sign is passed over. -/
theorem skipNumber_append {t rest : Bytes} (ht : IsUnsigned t) (hrest : Ends rest) :
    skipNumber (t ++ rest) = .ok rest := by
  obtain ⟨i, f, e, hi, hf, he, rfl⟩ := ht
  have hend := skipNumberEnd_append hf he hrest
  have hnext := digitNext_fraction hf he hrest
  rw [List.append_assoc, List.append_assoc]
  cases hi with
  | zero => rw [List.cons_append, List.nil_append, skipNumber, if_pos rfl, if_neg (by simp [hnext]), hend]
  | digits hb hzero hds =>
    rw [List.cons_append, skipNumber, if_neg hzero, if_pos hb, skipDigits_append hds,
      skipDigits_of_digitNext hnext, hend]

/-! ## Integers without sign -/

/-- The reader does not come to an integer without sign. -/
def NoNatural (result : Except Fault (Number × Bytes)) : Prop :=
  ∀ n rest, result ≠ .ok (.natural n, rest)

theorem noNatural_error (fault : Fault) : NoNatural (.error fault) := by
  rintro n rest ⟨⟩

theorem noNatural_real (x : Float) (bs : Bytes) : NoNatural (.ok (.real x, bs)) := by
  rintro n rest ⟨⟩

theorem noNatural_finishReal (isNegative : Bool) (digits : UInt64) (power : Int) (rest : Bytes) :
    NoNatural (finishReal isNegative digits power rest) := by
  rw [finishReal]
  split
  · exact noNatural_error _
  · exact noNatural_real _ _

/-- An exponent that exceeds 31 bits gives zero or is refused. -/
theorem noNatural_exceeded {c : Prop} [Decidable c] (x : Float) (bs rest : Bytes) :
    NoNatural (if c then faultBefore .outOfRange bs else .ok (.real x, rest)) := by
  split
  · exact noNatural_error _
  · exact noNatural_real _ _

theorem noNatural_readExponent (isNegative : Bool) (digits : UInt64) (power : Int) (bs : Bytes) :
    NoNatural (readExponent isNegative digits power bs) := by
  rw [readExponent.eq_def]
  dsimp only
  split
  · exact noNatural_error _
  · split
    · split
      · exact noNatural_finishReal _ _ _ _
      · exact noNatural_exceeded _ _ _
    · exact noNatural_error _

theorem noNatural_readRealEnd (isNegative : Bool) (digits : UInt64) (power : Int) (bs : Bytes) :
    NoNatural (readRealEnd isNegative digits power bs) := by
  rw [readRealEnd.eq_def]
  split
  · exact noNatural_finishReal _ _ _ _
  · split
    · exact noNatural_readExponent _ _ _ _
    · exact noNatural_finishReal _ _ _ _

theorem noNatural_readFraction (isNegative : Bool) (digits : UInt64) (power : Int) (bs : Bytes) :
    NoNatural (readFraction isNegative digits power bs) := by
  rw [readFraction]
  dsimp only
  split
  · exact noNatural_readRealEnd _ _ _ _
  · split
    · split
      · exact noNatural_error _
      · exact noNatural_error _
    · exact noNatural_readRealEnd _ _ _ _

/-- A number with a sign is not an integer without sign. -/
theorem noNatural_readNumberEnd_negative (digits : UInt64) (bs : Bytes) :
    NoNatural (readNumberEnd true digits bs) := by
  have hinteger : ∀ rest, NoNatural (.ok
      (if digits = 0 ∨ 0x8000000000000000 < digits.toNat then .real (-digits.toFloat)
        else .negative digits.toNat, rest)) := by
    intro rest n rest' h
    split at h
    · cases h
    · cases h
  rw [readNumberEnd.eq_def]
  simp only [Bool.not_true, Bool.false_eq_true, if_false]
  split
  · exact hinteger _
  · split
    · exact noNatural_readFraction _ _ _ _
    · split
      · exact noNatural_readExponent _ _ _ _
      · exact hinteger _

theorem noNatural_readNumber_negative (bs : Bytes) : NoNatural (readNumber true bs) := by
  rw [readNumber.eq_def]
  split
  · exact noNatural_error _
  · dsimp only
    split
    · split
      · exact noNatural_error _
      · exact noNatural_readNumberEnd_negative _ _
    · split
      · split
        · split
          · exact noNatural_finishReal _ _ _ _
          · split
            · exact noNatural_readFraction _ _ _ _
            · exact noNatural_readRealEnd _ _ _ _
        · exact noNatural_readNumberEnd_negative _ _
      · exact noNatural_error _

/-! ### Digits -/

theorem le_digitsValue (value : Nat) (ds : Bytes) : value ≤ digitsValue value ds := by
  induction ds generalizing value with
  | nil => exact Nat.le_refl value
  | cons d ds ih =>
    have hstep := ih (value * 10 + Byte.digit d)
    rw [digitsValue, List.foldl_cons, ← digitsValue]
    omega

/-- A digit behind a number that stays within 64 bits does not wrap around. -/
theorem toNat_push {value : UInt64} {d : UInt8}
    (h : value.toNat * 10 + Byte.digit d < UInt64.size) :
    (value * 10 + UInt64.ofNat (Byte.digit d)).toNat = value.toNat * 10 + Byte.digit d := by
  have hsize : UInt64.size = 2 ^ 64 := rfl
  have hten : (10 : UInt64).toNat = 10 := rfl
  rw [UInt64.toNat_add, UInt64.toNat_mul, UInt64.toNat_ofNat', hten]
  omega

/-- Digits that fit 64 bits are read to their end. -/
theorem readDigits_of_lt {ds bs : Bytes} (hds : AreDigits ds) (hbs : digitNext bs = false)
    {value : UInt64} (hlt : digitsValue value.toNat ds < UInt64.size) :
    readDigits value (ds ++ bs) = (UInt64.ofNat (digitsValue value.toNat ds), bs) := by
  induction ds generalizing value with
  | nil =>
    have hvalue : UInt64.ofNat (digitsValue value.toNat []) = value := UInt64.ofNat_toNat
    rw [List.nil_append, hvalue]
    cases bs with
    | nil => rfl
    | cons b bs =>
      have hb : Byte.isDigit b = false := hbs
      rw [readDigits, if_neg (by simp [hb])]
  | cons d ds ih =>
    have hd : Byte.isDigit d = true := hds d List.mem_cons_self
    have hpush : value.toNat * 10 + Byte.digit d < UInt64.size :=
      Nat.lt_of_le_of_lt (le_digitsValue _ ds) hlt
    have hvalue : digitsValue value.toNat (d :: ds) =
        digitsValue (value * 10 + UInt64.ofNat (Byte.digit d)).toNat ds := by
      rw [toNat_push hpush]
      rfl
    rw [hvalue] at hlt ⊢
    rw [List.cons_append, readDigits, if_pos (by simp [hd, hpush])]
    exact ih (fun b hb => hds b (List.mem_cons_of_mem d hb)) hlt

/-- Digits that do not fit 64 bits are left where they exceed them. -/
theorem digitNext_readDigits {ds bs : Bytes} (hds : AreDigits ds) {value : UInt64}
    (hle : UInt64.size ≤ digitsValue value.toNat ds) :
    digitNext (readDigits value (ds ++ bs)).2 = true := by
  induction ds generalizing value with
  | nil =>
    -- no digits are left to exceed 64 bits with
    have hlt : value.toNat < UInt64.size := value.toNat_lt
    exact absurd hlt (Nat.not_lt.mpr hle)
  | cons d ds ih =>
    have hd : Byte.isDigit d = true := hds d List.mem_cons_self
    rw [List.cons_append, readDigits]
    by_cases hpush : value.toNat * 10 + Byte.digit d < UInt64.size
    · rw [if_pos (by simp [hd, hpush])]
      apply ih fun b hb => hds b (List.mem_cons_of_mem d hb)
      rw [toNat_push hpush]
      exact hle
    · rw [if_neg (by simp [hpush])]
      exact hd

/-! ### Numbers behind their sign -/

theorem digit_lt_size (d : UInt8) : Byte.digit d < UInt64.size := by
  have hd := d.toNat_lt
  have hsize : UInt64.size = 2 ^ 64 := rfl
  rw [Byte.digit]
  omega

theorem naturalValue_cons (b : UInt8) (ds : Bytes) :
    naturalValue (b :: ds) = digitsValue (UInt64.ofNat (Byte.digit b)).toNat ds := by
  rw [UInt64.toNat_ofNat_of_lt' (digit_lt_size b), naturalValue, digitsValue, List.foldl_cons,
    Nat.zero_mul, Nat.zero_add, digitsValue]

/-- An integer part that fits 64 bits is read, and what follows it is left. -/
theorem readNumber_of_lt {i bs : Bytes} (hi : IsNatural i) (hlt : naturalValue i < UInt64.size)
    (hbs : digitNext bs = false) (isNegative : Bool) :
    readNumber isNegative (i ++ bs) =
      readNumberEnd isNegative (UInt64.ofNat (naturalValue i)) bs := by
  cases hi with
  | zero =>
    rw [List.cons_append, List.nil_append, readNumber, if_pos rfl, if_neg (by simp [hbs])]
    rfl
  | digits hb hzero hds =>
    rw [naturalValue_cons] at hlt ⊢
    rw [List.cons_append, readNumber, if_neg hzero, if_pos hb, readDigits_of_lt hds hbs hlt]
    dsimp only
    rw [if_neg (by simp [hbs])]

/-- A number whose integer part does not fit 64 bits is read as a real. -/
theorem noNatural_readNumber_of_le {i : Bytes} (hi : IsNatural i)
    (hle : UInt64.size ≤ naturalValue i) (isNegative : Bool) (bs : Bytes) :
    NoNatural (readNumber isNegative (i ++ bs)) := by
  cases hi with
  | zero => exact absurd hle (by decide)
  | digits hb hzero hds =>
    rw [naturalValue_cons] at hle
    rw [List.cons_append, readNumber, if_neg hzero, if_pos hb]
    dsimp only
    rw [if_pos (digitNext_readDigits hds hle)]
    split
    · exact noNatural_finishReal _ _ _ _
    · split
      · exact noNatural_readFraction _ _ _ _
      · exact noNatural_readRealEnd _ _ _ _

theorem readNumberEnd_ends {rest : Bytes} (hrest : Ends rest) (digits : UInt64) :
    readNumberEnd false digits rest = .ok (.natural digits, rest) := by
  cases rest with
  | nil => rfl
  | cons b rest =>
    obtain ⟨-, hpoint, hexponent⟩ := hrest b rfl
    rw [readNumberEnd, if_neg hpoint, if_neg (by simp [hexponent])]
    rfl

/-- An integer without sign that fits 64 bits is read as what it says. -/
theorem readNumber_natural {t rest : Bytes} (ht : IsNatural t)
    (hlt : naturalValue t < UInt64.size) (hrest : Ends rest) :
    readNumber false (t ++ rest) = .ok (.natural (UInt64.ofNat (naturalValue t)), rest) := by
  rw [readNumber_of_lt ht hlt (digitNext_of_ends hrest), readNumberEnd_ends hrest]

/-- Any other number is not read as an integer without sign. -/
theorem noNatural_readNumber {t rest : Bytes} (ht : IsUnsigned t) (hrest : Ends rest)
    (hnot : ¬(IsNatural t ∧ naturalValue t < UInt64.size)) :
    NoNatural (readNumber false (t ++ rest)) := by
  obtain ⟨i, f, e, hi, hf, he, rfl⟩ := ht
  rw [List.append_assoc, List.append_assoc]
  -- if the integer part fits, a fraction or an exponent must come, or the number is an integer
  rcases Nat.lt_or_ge (naturalValue i) UInt64.size with hlt | hle
  · rw [readNumber_of_lt hi hlt (digitNext_fraction hf he hrest)]
    cases hf with
    | point hds =>
      rw [List.cons_append, readNumberEnd, if_pos rfl]
      exact noNatural_readFraction _ _ _ _
    | nil =>
      cases he with
      | nil =>
        rw [List.append_nil, List.append_nil] at hnot
        exact absurd ⟨hi, hlt⟩ hnot
      | letter hletter hsign hds =>
        rw [List.nil_append, List.cons_append, readNumberEnd,
          if_neg (Byte.ne_point_of_opensExponent hletter), if_pos hletter]
        exact noNatural_readExponent _ _ _ _
  · exact noNatural_readNumber_of_le hi hle false _

end AsmFormat.Json
