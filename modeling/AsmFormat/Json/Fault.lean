import AsmFormat.Decimal.Real
import AsmFormat.Text.Quoted
import AsmFormat.Text.Utf8

/-!
# Faults of a JSON text

A reader stops at the first fault. A fault is a problem and a place. The place is counted from the
end, as the number of bytes that do not come before it, so that a reader needs to know only what
is left of the text. `Fault.message` turns it into a line and a column.
-/

set_option autoImplicit false

namespace AsmFormat.Json

/-- A value that stands where another kind of value is expected. -/
inductive Found where
  | null
  | boolean (b : Bool)
  | integer (n : Int)
  | real (x : Float)
  | string (t : Text)
  | sequence
  | map

/-- What can be wrong with a text. -/
inductive Problem where
  | endInValue
  | endInList
  | endInObject
  | endInString
  | expectedLiteral
  | expectedColon
  | expectedListEnd
  | expectedObjectEnd
  | expectedValue
  | invalidEscape
  | invalidNumber
  | outOfRange
  | controlCharacter
  | keyNotString
  | loneSurrogate
  | brokenSurrogatePair
  | trailingComma
  | trailingCharacters
  /-- A member that may occur once occurs again. -/
  | duplicate (name : String)
  /-- A value of another kind than the one expected. -/
  | wrongType (found : Found) (expected : String)
  /-- An integer that is not a value of the kind expected. -/
  | wrongValue (value : Int) (expected : String)

/-- The three sorts of problems. -/
inductive Category where
  /-- The text ends too early. -/
  | incomplete
  /-- The text is not JSON. -/
  | malformed
  /-- The text is JSON and does not say what it should. -/
  | unsuitable
deriving DecidableEq

/-- A decimal integer. -/
def integerText (n : Int) : Text :=
  (if n < 0 then ['-'] else []) ++ Nat.toDigits 10 n.natAbs

/-- The wording of a value in a message. -/
def Found.wording : Found → Text
  | null => "null".toList
  | boolean b => "boolean `".toList ++ (if b then "true" else "false").toList ++ ['`']
  | integer n => "integer `".toList ++ integerText n ++ ['`']
  | real x => "floating point `".toList ++ messageReal.write x ++ ['`']
  | string t => "string ".toList ++ Text.quoted t
  | sequence => "sequence".toList
  | map => "map".toList

namespace Problem

/-- The sort of a problem. -/
def category : Problem → Category
  | endInValue => .incomplete
  | endInList => .incomplete
  | endInObject => .incomplete
  | endInString => .incomplete
  | duplicate _ => .unsuitable
  | wrongType _ _ => .unsuitable
  | wrongValue _ _ => .unsuitable
  | _ => .malformed

/-- The wording of a problem. -/
def wording : Problem → Text
  | endInValue => "EOF while parsing a value".toList
  | endInList => "EOF while parsing a list".toList
  | endInObject => "EOF while parsing an object".toList
  | endInString => "EOF while parsing a string".toList
  | expectedLiteral => "expected ident".toList
  | expectedColon => "expected `:`".toList
  | expectedListEnd => "expected `,` or `]`".toList
  | expectedObjectEnd => "expected `,` or `\x7d`".toList
  | expectedValue => "expected value".toList
  | invalidEscape => "invalid escape".toList
  | invalidNumber => "invalid number".toList
  | outOfRange => "number out of range".toList
  | controlCharacter =>
    "control character (\\u0000-\\u001F) found while parsing a string".toList
  | keyNotString => "key must be a string".toList
  | loneSurrogate => "lone leading surrogate in hex escape".toList
  | brokenSurrogatePair => "unexpected end of hex escape".toList
  | trailingComma => "trailing comma".toList
  | trailingCharacters => "trailing characters".toList
  | duplicate name => "duplicate field `".toList ++ name.toList ++ ['`']
  | wrongType found expected =>
    "invalid type: ".toList ++ found.wording ++ ", expected ".toList ++ expected.toList
  | wrongValue value expected =>
    "invalid value: ".toList ++ (Found.integer value).wording ++ ", expected ".toList ++
      expected.toList

end Problem

/-- A problem at a place of the text. -/
structure Fault where
  problem : Problem
  /-- The number of bytes that do not come before the place. -/
  left : Nat

namespace Fault

/-- The sort of the problem. -/
def category (f : Fault) : Category :=
  f.problem.category

/-- The wording of the fault in the given text, with its line from one and its column from zero. -/
def message (text : Bytes) (f : Fault) : Text :=
  let before := text.take (text.length - f.left)
  let line := before.count 0x0A + 1
  let column := (before.reverse.takeWhile (· != 0x0A)).length
  f.problem.wording ++ " at line ".toList ++ Nat.toDigits 10 line ++ " column ".toList ++
    Nat.toDigits 10 column

end Fault

/-- A fault in front of the rest of the text. -/
def faultBefore {α : Type} (problem : Problem) (rest : Bytes) : Except Fault α :=
  .error ⟨problem, rest.length⟩

/-- A fault behind the next byte of the rest of the text, if there is one. -/
def faultBehindNext {α : Type} (problem : Problem) (rest : Bytes) : Except Fault α :=
  .error ⟨problem, rest.length - 1⟩

end AsmFormat.Json
