import AsmFormat.Json.Skip

/-!
# The grammar of JSON texts

The texts of JSON values, as sets of byte strings. What a text means is left out, but for strings
that are names: `Spells` relates such a string to the bytes it stands for.

## What this module delivers

- `IsBlanks`, `IsStringBody`, `IsNumber`, `IsValue`: the grammar of values, nested to any depth. In
  front of each element of a list stand blanks, in front of each member of an object stand its name
  and a colon (`IsLead`).
- `IsNatural`, `naturalValue`: numbers without sign, fraction and exponent, and what they are.
-/

set_option autoImplicit false

namespace AsmFormat.Json

/-! ## Blanks -/

/-- All bytes are blanks. -/
def IsBlanks (w : Bytes) : Prop :=
  ∀ b ∈ w, Byte.isBlank b = true

instance (w : Bytes) : Decidable (IsBlanks w) :=
  List.decidableBAll (fun b => Byte.isBlank b = true) w

/-! ## Strings -/

/-- The byte stands for itself in a string. -/
def IsPlain (b : UInt8) : Prop :=
  Byte.isControl b = false ∧ b ≠ Byte.quote ∧ b ≠ Byte.backslash

instance (b : UInt8) : Decidable (IsPlain b) :=
  inferInstanceAs (Decidable (_ ∧ _ ∧ _))

/-- Four hexadecimal digits and their value. -/
inductive IsHex : Bytes → Nat → Prop
  | mk {a b c d : UInt8} {i j k l : Nat} : Byte.hexDigit? a = some i → Byte.hexDigit? b = some j →
      Byte.hexDigit? c = some k → Byte.hexDigit? d = some l →
      IsHex [a, b, c, d] (((i * 16 + j) * 16 + k) * 16 + l)

/-- What stands between the quotes of a string. -/
inductive IsStringBody : Bytes → Prop
  | nil : IsStringBody []
  | plain {b : UInt8} {t : Bytes} : IsPlain b → IsStringBody t → IsStringBody (b :: t)
  | short {b c : UInt8} {t : Bytes} : shortEscape? b = some c → IsStringBody t →
      IsStringBody (Byte.backslash :: b :: t)
  | numbered {ds t : Bytes} {n : Nat} : IsHex ds n → IsStringBody t →
      IsStringBody (Byte.backslash :: Byte.letterU :: (ds ++ t))

/-- The number is that of a half of a pair of escapes. -/
def IsSurrogate (n : Nat) : Prop :=
  0xD800 ≤ n ∧ n ≤ 0xDFFF

/-- What stands between the quotes of a name, and the bytes that it stands for. A character beyond
the first 65536 may be written as a pair of escapes, and halves of pairs occur in pairs only. -/
inductive Spells : Bytes → Bytes → Prop
  | nil : Spells [] []
  | plain {b : UInt8} {t u : Bytes} : IsPlain b → Spells t u → Spells (b :: t) (b :: u)
  | short {b c : UInt8} {t u : Bytes} : shortEscape? b = some c → Spells t u →
      Spells (Byte.backslash :: b :: t) (c :: u)
  | numbered {ds t u : Bytes} {n : Nat} : IsHex ds n → ¬IsSurrogate n → Spells t u →
      Spells (Byte.backslash :: Byte.letterU :: (ds ++ t)) (characterBytes n ++ u)
  | pair {ds es t u : Bytes} {high low : Nat} : IsHex ds high → 0xD800 ≤ high → high ≤ 0xDBFF →
      IsHex es low → 0xDC00 ≤ low → low ≤ 0xDFFF → Spells t u →
      Spells (Byte.backslash :: Byte.letterU ::
          (ds ++ Byte.backslash :: Byte.letterU :: (es ++ t)))
        (characterBytes (0x10000 + (high - 0xD800) * 0x400 + (low - 0xDC00)) ++ u)

/-! ## Numbers -/

/-- All bytes are digits. -/
def AreDigits (ds : Bytes) : Prop :=
  ∀ d ∈ ds, Byte.isDigit d = true

instance (ds : Bytes) : Decidable (AreDigits ds) :=
  List.decidableBAll (fun d => Byte.isDigit d = true) ds

/-- An integer without sign. It has no zero in front of other digits. -/
inductive IsNatural : Bytes → Prop
  | zero : IsNatural [Byte.zero]
  | digits {b : UInt8} {ds : Bytes} : Byte.isDigit b = true → b ≠ Byte.zero → AreDigits ds →
      IsNatural (b :: ds)

/-- The fraction of a number, which may be missing. -/
inductive IsFraction : Bytes → Prop
  | nil : IsFraction []
  | point {d : UInt8} {ds : Bytes} : AreDigits (d :: ds) → IsFraction (Byte.point :: d :: ds)

/-- The sign of an exponent, which may be missing. -/
inductive IsExponentSign : Bytes → Prop
  | nil : IsExponentSign []
  | plus : IsExponentSign [Byte.plus]
  | minus : IsExponentSign [Byte.minus]

/-- The exponent of a number, which may be missing. -/
inductive IsExponent : Bytes → Prop
  | nil : IsExponent []
  | letter {e d : UInt8} {sign ds : Bytes} : Byte.opensExponent e = true → IsExponentSign sign →
      AreDigits (d :: ds) → IsExponent (e :: (sign ++ d :: ds))

/-- A number behind its sign. -/
def IsUnsigned (t : Bytes) : Prop :=
  ∃ i f e, IsNatural i ∧ IsFraction f ∧ IsExponent e ∧ t = i ++ (f ++ e)

/-- A number. -/
inductive IsNumber : Bytes → Prop
  | unsigned {t : Bytes} : IsUnsigned t → IsNumber t
  | negative {t : Bytes} : IsUnsigned t → IsNumber (Byte.minus :: t)

/-- What digits say behind digits of the given value. -/
def digitsValue (value : Nat) (ds : Bytes) : Nat :=
  ds.foldl (fun n d => n * 10 + Byte.digit d) value

/-- What an integer without sign says. -/
def naturalValue (ds : Bytes) : Nat :=
  digitsValue 0 ds

/-! ## Values -/

/-- The byte that opens the bracket. -/
def Bracket.opener : Bracket → UInt8
  | list => Byte.openList
  | object => Byte.openObject

/-- What stands in front of an element: blanks, and in an object its name and a colon. -/
inductive IsLead : Bracket → Bytes → Prop
  | list {w : Bytes} : IsBlanks w → IsLead .list w
  | object {before name behind gap : Bytes} : IsBlanks before → IsStringBody name →
      IsBlanks behind → IsBlanks gap →
      IsLead .object
        (before ++ Byte.quote :: (name ++ Byte.quote :: (behind ++ Byte.colon :: gap)))

/-- An element of a list or an object: what stands in front of its value, the value, and blanks. -/
structure Element where
  lead : Bytes
  value : Bytes
  trail : Bytes

namespace Element

/-- The text of an element. -/
def text (e : Element) : Bytes :=
  e.lead ++ (e.value ++ e.trail)

/-- What stands around the value is what the bracket asks for. -/
def IsFramed (bracket : Bracket) (e : Element) : Prop :=
  IsLead bracket e.lead ∧ IsBlanks e.trail

/-- The text of further elements, with a comma in front of each. -/
def further (elements : List Element) : Bytes :=
  elements.flatMap fun e => Byte.comma :: e.text

end Element

/-- The texts of values. -/
inductive IsValue : Bytes → Prop
  | null : IsValue (Text.utf8 "null".toList)
  | true : IsValue (Text.utf8 "true".toList)
  | false : IsValue (Text.utf8 "false".toList)
  | number {t : Bytes} : IsNumber t → IsValue t
  | string {t : Bytes} : IsStringBody t → IsValue (Byte.quote :: (t ++ [Byte.quote]))
  | empty (bracket : Bracket) {w : Bytes} : IsBlanks w →
      IsValue (bracket.opener :: (w ++ [bracket.close]))
  | elements (bracket : Bracket) {first : Element} {others : List Element} :
      (∀ e ∈ first :: others, e.IsFramed bracket) → (∀ e ∈ first :: others, IsValue e.value) →
      IsValue (bracket.opener :: (first.text ++ (Element.further others ++ [bracket.close])))

end AsmFormat.Json
