import AsmFormat.Text.Utf8
import Mathlib.Data.List.Basic

/-!
# Numbers in digits

Numbers are written in decimal digits: those of columns in settings, and those of lines in listings
and messages. The text has no other characters (`isDigit_of_mem_toDigits`) and no zero in front
(`head?_toDigits_ne_zero`), and its encoding has one byte for each digit (`utf8_of_isDigit`).
-/

set_option autoImplicit false

namespace AsmFormat

/-! ## Characters of a number -/

theorem isDigit_of_mem_toDigits {n : Nat} : ∀ c ∈ Nat.toDigits 10 n, c.isDigit = true := by
  intro c hc
  exact Nat.isDigit_of_mem_toDigits (by decide) (by decide) hc

theorem not_mem_toDigits {c : Char} (hc : c.isDigit = false) (n : Nat) :
    c ∉ Nat.toDigits 10 n := by
  intro hmem
  rw [isDigit_of_mem_toDigits c hmem] at hc
  cases hc

/-- A number above zero is written without a zero in front. -/
theorem head?_toDigits_ne_zero {n : Nat} (hn : 0 < n) : (Nat.toDigits 10 n).head? ≠ some '0' := by
  -- the first digit of a number is that of the number without its last digit
  induction n using Nat.strongRecOn with
  | _ n ih =>
    rcases Nat.lt_or_ge n 10 with hlt | hge
    · rw [Nat.toDigits_of_lt_base hlt, List.head?_cons]
      intro h
      have hzero : n = 0 := Nat.digitChar_eq_zero.1 (Option.some.inj h)
      omega
    · rw [Nat.toDigits_of_base_le (by decide) hge,
        List.head?_append_of_ne_nil _ Nat.toDigits_ne_nil]
      exact ih (n / 10) (by omega) (by omega)

/-! ## Bytes of a number -/

/-- A digit is one byte with the same number. -/
theorem toNat_toUInt8_of_isDigit {c : Char} (h : c.isDigit = true) :
    c.toUInt8.toNat = c.toNat := by
  have hhigh : c.toNat ≤ 0x39 := (Char.isDigit_iff_toNat.1 h).2
  have hbyte : c.toNat < 2 ^ 8 := by omega
  exact Nat.mod_eq_of_lt hbyte

theorem utf8_of_isDigit {t : Text} (h : ∀ c ∈ t, c.isDigit = true) :
    Text.utf8 t = t.map Char.toUInt8 := by
  induction t with
  | nil => rfl
  | cons c t ih =>
    rw [List.forall_mem_cons] at h
    have hhigh : c.toNat ≤ 0x39 := (Char.isDigit_iff_toNat.1 h.1).2
    have hsize : c.utf8Size = 1 := by
      rw [Char.utf8Size_eq_one_iff, UInt32.le_iff_toNat_le]
      exact Nat.le_trans hhigh (by decide)
    have hrest := ih h.2
    rw [Text.utf8] at hrest ⊢
    rw [List.flatMap_cons, String.utf8EncodeChar_eq_singleton hsize, hrest]
    rfl

end AsmFormat
