import AsmFormat.Json.Number
import AsmFormat.Json.Quotation

/-!
# Values that are passed over

`skipValue` reads past one value of any depth. The brackets that are open are held in a list, the
innermost first, so the depth of a value costs no stack.
-/

set_option autoImplicit false

namespace AsmFormat.Json

/-- The two kinds of brackets. -/
inductive Bracket where
  | list
  | object
deriving DecidableEq

namespace Bracket

/-- The byte that closes the bracket. -/
def close : Bracket → UInt8
  | list => Byte.closeList
  | object => Byte.closeObject

/-- The problem of a text that ends inside. -/
def unclosed : Bracket → Problem
  | list => .endInList
  | object => .endInObject

/-- The problem of an element that is followed by something else than a comma or the end. -/
def unseparated : Bracket → Problem
  | list => .expectedListEnd
  | object => .expectedObjectEnd

/-- The bracket that a byte opens. -/
def ofByte? (b : UInt8) : Option Bracket :=
  if b = Byte.openList then some list
  else if b = Byte.openObject then some object
  else none

end Bracket

/-- The rest of the text behind the colon between a key and its value. -/
def readColon (bs : Bytes) : Except Fault Bytes :=
  match skipBlanks bs with
  | [] => faultBehindNext .endInObject []
  | b :: rest => if b = Byte.colon then .ok rest else faultBehindNext .expectedColon (b :: rest)

/-- The rest of the text from the value of the next element: in an object, behind its key. -/
def skipKey (bracket : Bracket) (bs : Bytes) : Except Fault Bytes :=
  match bracket with
  | .list => .ok bs
  | .object =>
    match skipBlanks bs with
    | [] => faultBehindNext .endInObject []
    | b :: rest =>
      if b = Byte.quote then
        match skipString rest with
        | .error fault => .error fault
        | .ok rest => readColon rest
      else
        faultBehindNext .keyNotString (b :: rest)

/-- What comes behind a value. -/
inductive Next where
  /-- The outermost value is over. -/
  | finished (rest : Bytes)
  /-- Another value comes, inside the brackets. -/
  | value (brackets : List Bracket) (rest : Bytes)

/-- What comes behind a value inside the brackets: closing brackets, then a comma if any bracket is
still open. -/
def afterValue : List Bracket → Bytes → Except Fault Next
  | [], bs => .ok (.finished bs)
  | bracket :: outer, bs =>
    match skipBlanks bs with
    | [] => faultBehindNext bracket.unclosed []
    | b :: rest =>
      if b = Byte.comma then (skipKey bracket rest).map (Next.value (bracket :: outer))
      else if b = bracket.close then afterValue outer rest
      else faultBehindNext bracket.unseparated (b :: rest)

/-- What comes behind a bracket that has just been opened: its end, or a value. -/
def afterOpen (bracket : Bracket) (outer : List Bracket) (bs : Bytes) : Except Fault Next :=
  match skipBlanks bs with
  | [] => faultBehindNext bracket.unclosed []
  | b :: rest =>
    if b = bracket.close then afterValue outer rest
    else (skipKey bracket (b :: rest)).map (Next.value (bracket :: outer))

/-- The rest of the text behind a value without brackets whose first byte has been read. -/
def skipScalar (first : UInt8) (rest : Bytes) : Except Fault Bytes :=
  if opensLiteral first then readLiteral first rest
  else if first = Byte.minus then skipNumber rest
  else if Byte.isDigit first then skipNumber (first :: rest)
  else if first = Byte.quote then skipString rest
  else faultBehindNext .expectedValue (first :: rest)

/-- What comes behind the start of a value: behind all of it, or behind its opening bracket. -/
def skipStart (brackets : List Bracket) (bs : Bytes) : Except Fault Next :=
  match skipBlanks bs with
  | [] => faultBehindNext .endInValue []
  | b :: rest =>
    match Bracket.ofByte? b with
    | some bracket => afterOpen bracket brackets rest
    | none =>
      match skipScalar b rest with
      | .error fault => .error fault
      | .ok rest => afterValue brackets rest

/-- The rest of the text behind the outermost value, when a value inside the brackets comes next.
The fuel bounds the number of values. -/
def skipFrom : Nat → List Bracket → Bytes → Except Fault Bytes
  | 0, _, _ => faultBehindNext .endInValue []
  | fuel + 1, brackets, bs =>
    match skipStart brackets bs with
    | .error fault => .error fault
    | .ok (.finished rest) => .ok rest
    | .ok (.value brackets rest) => skipFrom fuel brackets rest

/-- The rest of the text behind the next value. -/
def skipValue (bs : Bytes) : Except Fault Bytes :=
  skipFrom (bs.length + 1) [] bs

end AsmFormat.Json
