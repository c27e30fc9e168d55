import AsmFormat.Json.Lexeme

/-!
# Strings of a JSON text

`readString` reads a string behind its opening quote and decodes its escapes; the result is bytes,
which are UTF-8 if the text is. `skipString` reads past a string and does not look at the values
of its escapes.
-/

set_option autoImplicit false

namespace AsmFormat.Json

/-- The value of four hexadecimal digits. -/
def readHex (bs : Bytes) : Except Fault (Nat × Bytes) :=
  match bs with
  | a :: b :: c :: d :: rest =>
    match Byte.hexDigit? a, Byte.hexDigit? b, Byte.hexDigit? c, Byte.hexDigit? d with
    | some a, some b, some c, some d => .ok (((a * 16 + b) * 16 + c) * 16 + d, rest)
    | _, _, _, _ => faultBefore .invalidEscape rest
  | _ => faultBefore .endInString []

/-- The character with a number, as bytes. -/
def characterBytes (n : Nat) : Bytes :=
  String.utf8EncodeChar (Char.ofNat n)

/-- The character of a numbered escape behind its letter: four digits, or two times four digits for
a character beyond the first 65536. -/
def readNumberedEscape (bs : Bytes) : Except Fault (Bytes × Bytes) := do
  let (high, rest) ← readHex bs
  if 0xDC00 ≤ high ∧ high ≤ 0xDFFF then
    faultBefore .loneSurrogate rest
  else if 0xD800 ≤ high ∧ high ≤ 0xDBFF then
    match rest with
    | [] => faultBefore .endInString []
    | b :: rest =>
      if b = Byte.backslash then
        match rest with
        | [] => faultBefore .endInString []
        | b :: rest =>
          if b = Byte.letterU then do
            let (low, rest) ← readHex rest
            if 0xDC00 ≤ low ∧ low ≤ 0xDFFF then
              .ok (characterBytes (0x10000 + (high - 0xD800) * 0x400 + (low - 0xDC00)), rest)
            else
              faultBefore .loneSurrogate rest
          else
            faultBefore .brokenSurrogatePair rest
      else
        faultBefore .brokenSurrogatePair rest
  else
    .ok (characterBytes high, rest)

/-- The byte that a one-letter escape stands for. -/
def shortEscape? (b : UInt8) : Option UInt8 :=
  if b = Byte.quote ∨ b = Byte.backslash ∨ b = Byte.slash then some b
  else if b = Byte.letterB then some 0x08
  else if b = Byte.letterF then some 0x0C
  else if b = Byte.letterN then some 0x0A
  else if b = Byte.letterR then some 0x0D
  else if b = Byte.letterT then some 0x09
  else none

/-- The bytes of an escape behind its backslash. -/
def readEscape (bs : Bytes) : Except Fault (Bytes × Bytes) :=
  match bs with
  | [] => faultBefore .endInString []
  | b :: rest =>
    match shortEscape? b with
    | some byte => .ok ([byte], rest)
    | none =>
      if b = Byte.letterU then readNumberedEscape rest else faultBefore .invalidEscape rest

/-- A string behind its opening quote and behind the bytes `found`, held in reverse. The fuel is
used up byte by byte. -/
def readStringFrom : Nat → Bytes → Bytes → Except Fault (Bytes × Bytes)
  | 0, _, _ => faultBefore .endInString []
  | _ + 1, _, [] => faultBefore .endInString []
  | fuel + 1, found, b :: rest =>
    if b = Byte.quote then .ok (found.reverse, rest)
    else if b = Byte.backslash then
      match readEscape rest with
      | .error fault => .error fault
      | .ok (bytes, rest) => readStringFrom fuel (bytes.reverse ++ found) rest
    else if Byte.isControl b then faultBefore .controlCharacter rest
    else readStringFrom fuel (b :: found) rest

/-- A string behind its opening quote. -/
def readString (bs : Bytes) : Except Fault (Bytes × Bytes) :=
  readStringFrom (bs.length + 1) [] bs

/-- The rest of the text behind an escape whose backslash has been read. -/
def skipEscape (bs : Bytes) : Except Fault Bytes :=
  match bs with
  | [] => faultBefore .endInString []
  | b :: rest =>
    if (shortEscape? b).isSome then .ok rest
    else if b = Byte.letterU then (readHex rest).map Prod.snd
    else faultBefore .invalidEscape rest

/-- The rest of the text behind the closing quote of a string. The fuel is used up byte by byte. -/
def skipStringFrom : Nat → Bytes → Except Fault Bytes
  | 0, _ => faultBefore .endInString []
  | _ + 1, [] => faultBefore .endInString []
  | fuel + 1, b :: rest =>
    if b = Byte.quote then .ok rest
    else if b = Byte.backslash then
      match skipEscape rest with
      | .error fault => .error fault
      | .ok rest => skipStringFrom fuel rest
    else if Byte.isControl b then faultBefore .controlCharacter (b :: rest)
    else skipStringFrom fuel rest

/-- The rest of the text behind a string whose opening quote has been read. -/
def skipString (bs : Bytes) : Except Fault Bytes :=
  skipStringFrom (bs.length + 1) bs

end AsmFormat.Json
