import AsmFormat.Json.Skip
import AsmFormat.Settings.Basic

/-!
# Reading settings

A settings file is a JSON object whose members are settings, in any order. A setting may occur once,
and members of other names are passed over, whatever their values. A JSON array is accepted too and
gives the settings in the order of `Setting.all`. Settings that are not given keep their defaults.
-/

set_option autoImplicit false

namespace AsmFormat

open Json

namespace Setting

/-- The setting with the given name. -/
def ofName? (name : Bytes) : Option Setting :=
  all.find? fun s => Text.utf8 s.name.toList == name

end Setting

namespace Settings

/-- How messages name a full set of settings. -/
def expectedSettings : String := "struct FormatConfig"

/-- How messages name a column. -/
def expectedColumn : String := "usize"

/-- How messages name a flag. -/
def expectedFlag : String := "a boolean"

/-- Refuse a value of the wrong kind. Scalars are read to their end first, and brackets are not
read at all. -/
def refuse {α : Type} (expected : String) (bs : Bytes) : Except Fault α :=
  let wrong (found : Found) (rest : Bytes) : Except Fault α :=
    faultBefore (.wrongType found expected) rest
  let number (isNegative : Bool) (bs : Bytes) : Except Fault α := do
    let (n, rest) ← readNumber isNegative bs
    match n with
    | .natural n => wrong (.integer n.toNat) rest
    | .negative n => wrong (.integer (-n)) rest
    | .real x => wrong (.real x) rest
  match bs with
  | [] => faultBehindNext .endInValue []
  | b :: rest =>
    if opensLiteral b then do
      let rest ← readLiteral b rest
      wrong (if b = Byte.letterN then .null else .boolean (b = Byte.letterT)) rest
    else if b = Byte.minus then number true rest
    else if Byte.isDigit b then number false (b :: rest)
    else if b = Byte.quote then do
      let (bytes, rest) ← readString rest
      wrong (.string (bytes.text?.getD [])) rest
    else if b = Byte.openList then wrong .sequence (b :: rest)
    else if b = Byte.openObject then wrong .map (b :: rest)
    else faultBehindNext .expectedValue (b :: rest)

/-- A column: a natural number of 64 bits. -/
def readColumn (bs : Bytes) : Except Fault (Column × Bytes) :=
  let number (isNegative : Bool) (bs : Bytes) : Except Fault (Column × Bytes) := do
    let (n, rest) ← readNumber isNegative bs
    match n with
    | .natural n => .ok (n, rest)
    | .negative n => faultBefore (.wrongValue (-n) expectedColumn) rest
    | .real x => faultBefore (.wrongType (.real x) expectedColumn) rest
  match skipBlanks bs with
  | [] => faultBehindNext .endInValue []
  | b :: rest =>
    if b = Byte.minus then number true rest
    else if Byte.isDigit b then number false (b :: rest)
    else refuse expectedColumn (b :: rest)

/-- A flag: `true` or `false`. -/
def readFlag (bs : Bytes) : Except Fault (Bool × Bytes) :=
  match skipBlanks bs with
  | [] => faultBehindNext .endInValue []
  | b :: rest =>
    if b = Byte.letterT then (readLiteral b rest).map (true, ·)
    else if b = Byte.letterF then (readLiteral b rest).map (false, ·)
    else refuse expectedFlag (b :: rest)

/-- The settings given so far and the value of one more. -/
def readSetting (given : Overrides) (s : Setting) (bs : Bytes) : Except Fault (Overrides × Bytes) :=
  match s with
  | .column c => do
    let (value, rest) ← readColumn bs
    .ok (given.setColumn c value, rest)
  | .flag f => do
    let (value, rest) ← readFlag bs
    .ok (given.setFlag f value, rest)

/-- Refuse a setting that occurs again. Blanks and a closing brace behind its name are read
first. -/
def refuseAgain {α : Type} (s : Setting) (bs : Bytes) : Except Fault α :=
  match skipBlanks bs with
  | [] => faultBefore (.duplicate s.name) []
  | b :: rest =>
    faultBefore (.duplicate s.name) (if b = Byte.closeObject then rest else b :: rest)

/-- One member, behind the opening quote of its name. -/
def readMember (given : Overrides) (bs : Bytes) : Except Fault (Overrides × Bytes) := do
  let (name, rest) ← readString bs
  match Setting.ofName? name with
  | some s =>
    if given.gives s then refuseAgain s rest
    else do
      let rest ← readColon rest
      readSetting given s rest
  | none => do
    let rest ← readColon rest
    let rest ← skipValue rest
    .ok (given, rest)

/-- The start of a member behind the comma before it. -/
def afterComma (bs : Bytes) : Except Fault Bytes :=
  match skipBlanks bs with
  | [] => faultBehindNext .endInValue []
  | b :: rest =>
    if b = Byte.quote then .ok rest
    else if b = Byte.closeObject then faultBehindNext .trailingComma (b :: rest)
    else faultBehindNext .keyNotString (b :: rest)

/-- The members of an object behind those that have been read, and its end. The fuel bounds their
number. -/
def readMembers : Nat → Bool → Overrides → Bytes → Except Fault (Overrides × Bytes)
  | 0, _, _, _ => faultBehindNext .endInObject []
  | fuel + 1, isFirst, given, bs =>
    match skipBlanks bs with
    | [] => faultBehindNext .endInObject []
    | b :: rest =>
      if b = Byte.closeObject then .ok (given, rest)
      else
        let key :=
          if isFirst then
            if b = Byte.quote then .ok rest else faultBehindNext .keyNotString (b :: rest)
          else if b = Byte.comma then afterComma rest
          else faultBehindNext .expectedObjectEnd (b :: rest)
        match key with
        | .error fault => .error fault
        | .ok rest =>
          match readMember given rest with
          | .error fault => .error fault
          | .ok (given, rest) => readMembers fuel false given rest

/-- The end of an array behind its last element. -/
def readListEnd (given : Overrides) (bs : Bytes) : Except Fault (Overrides × Bytes) :=
  match skipBlanks bs with
  | [] => faultBehindNext .endInList []
  | b :: rest =>
    if b = Byte.closeList then .ok (given, rest)
    else if b = Byte.comma then
      match skipBlanks rest with
      | [] => faultBehindNext .trailingCharacters []
      | b :: rest =>
        faultBehindNext (if b = Byte.closeList then .trailingComma else .trailingCharacters)
          (b :: rest)
    else faultBehindNext .trailingCharacters (b :: rest)

/-- The elements of an array, one for each of the settings in turn, and its end. -/
def readElements (isFirst : Bool) (given : Overrides) :
    List Setting → Bytes → Except Fault (Overrides × Bytes)
  | [], bs => readListEnd given bs
  | s :: settings, bs =>
    match skipBlanks bs with
    | [] => faultBehindNext .endInList []
    | b :: rest =>
      if b = Byte.closeList then .ok (given, rest)
      else
        let element : Except Fault Bytes :=
          if isFirst then .ok (b :: rest)
          else if b = Byte.comma then
            match skipBlanks rest with
            | [] => faultBehindNext .endInValue []
            | b :: rest =>
              if b = Byte.closeList then faultBehindNext .trailingComma (b :: rest)
              else .ok (b :: rest)
          else faultBehindNext .expectedListEnd (b :: rest)
        match element with
        | .error fault => .error fault
        | .ok bs =>
          match readSetting given s bs with
          | .error fault => .error fault
          | .ok (given, rest) => readElements false given settings rest

/-- The settings that a text gives. -/
def readGiven (text : Bytes) : Except Fault Overrides := do
  let (given, rest) ←
    match skipBlanks text with
    | [] => faultBehindNext .endInValue []
    | b :: rest =>
      if b = Byte.openObject then readMembers (rest.length + 1) true Overrides.none rest
      else if b = Byte.openList then readElements true Overrides.none Setting.all rest
      else refuse expectedSettings (b :: rest)
  match skipBlanks rest with
  | [] => .ok given
  | b :: rest => faultBehindNext .trailingCharacters (b :: rest)

/-- The settings that a text describes. -/
def read (text : Bytes) : Except Fault Settings :=
  (readGiven text).map fun given => given.applyTo {}

end Settings

end AsmFormat
