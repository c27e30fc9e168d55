import AsmFormat.Text.Alphanumeric
import AsmFormat.Text.Pattern.Reader
import AsmFormat.Trace.Event

/-!
# Rules on the trace

A rule says how much is shown of some parts of the program, or of what happens inside some spans of
work. Its text is one of

- `LEVEL`, for every part of the program,
- `PART` or `PART=LEVEL`, for the parts whose names start so,
- `PART[SPAN]`, `PART[SPAN{FIELD}]`, `PART[SPAN{FIELD=VALUE}]` or one of these with `=LEVEL`, for
  the work inside the spans of that name that have the field with that value; the part and the name
  of the span may be left out. A value is a number, or a pattern of what is shown of a text.

Without a level, everything is shown.
-/

set_option autoImplicit false

namespace AsmFormat

/-- The values of a field that a rule asks for. -/
inductive ValuePattern where
  | number (n : UInt64)
  /-- A pattern of what is shown of a text, as it was written and as it was read. -/
  | text (written : Text) (pattern : Pattern)
deriving DecidableEq

namespace ValuePattern

/-- The values that a text states. -/
def ofText? (t : Text) : Option ValuePattern :=
  match readWord? t with
  | some n => some (number n)
  | none => (Pattern.ofText? t).map (text t)

/-- Whether a value is one of those asked for. -/
def admits (p : ValuePattern) (v : SpanValue) : Bool :=
  match p, v with
  | number n, .number m => n.toNat == m
  | text _ p, .text t => p.describes (SpanValue.text t).shown
  | _, _ => false

end ValuePattern

/-- The spans of work that a rule asks for. -/
structure SpanPattern where
  /-- The name of the spans; any name if there is none. -/
  name? : Option Text
  /-- A field that the spans have, if the rule asks for one. -/
  field? : Option Text
  /-- The values of the field; any value if there is none. -/
  value? : Option ValuePattern
deriving DecidableEq

namespace SpanPattern

/-- Whether a span is of the kind that the pattern asks for, whatever the value of its field. -/
def asksFor (p : SpanPattern) (s : Span) : Bool :=
  p.name?.all (· = s.name.toList) && p.field?.all fun f => s.fields.any (·.1.toList = f)

/-- Whether the field of a span has a value that the pattern asks for. -/
def admitsValue (p : SpanPattern) (s : Span) : Bool :=
  p.value?.all fun value =>
    s.fields.any fun f => p.field? = some f.1.toList && value.admits f.2

end SpanPattern

/-- What is shown of some parts of the program, or inside some spans. -/
structure Rule where
  /-- How the names of the parts start. The empty start speaks of every part. -/
  start : Text
  /-- The spans, if the rule asks for any. -/
  pattern? : Option SpanPattern := none
  /-- What is shown. -/
  bound : Bound
deriving DecidableEq

namespace Rule

/-- Whether the name of a part can open with the character. -/
def opensName (c : Char) : Bool :=
  isAlphanumeric c || c == '-' || c == ':' || c == '_'

/-- The bound that stands behind an equals sign, where no text asks for everything. -/
def statedBound? (t : Text) : Option Bound :=
  if t.isEmpty then some (some .trace) else Bound.ofText? t

/-- The rule for spans whose pattern has been read, from the text behind it. -/
def afterPattern? (start : Text) (pattern : SpanPattern) (t : Text) : Option Rule :=
  match t with
  | '=' :: bound => (statedBound? bound).map fun b => ⟨start, some pattern, b⟩
  | _ => if t.trim.isEmpty then some ⟨start, some pattern, some .trace⟩ else none

/-- The field between braces and the values asked for. What follows a second equals sign does not
count. -/
def field? (t : Text) : Option (Text × Option ValuePattern) :=
  match t.span (· != '=') with
  | ([], []) => none
  | (name, []) => some (name, none)
  | (name, _ :: value) =>
    (ValuePattern.ofText? (value.takeWhile (· != '='))).map fun v => (name, some v)

/-- The rule for spans, from the text behind the bracket that opens their pattern. -/
def ofPattern? (start : Text) (t : Text) : Option Rule :=
  match t.span fun c => c != ']' && c != '\x7b' with
  | (name, ']' :: rest) => afterPattern? start ⟨some name, none, none⟩ rest
  | (name, '\x7b' :: rest) =>
    match rest.span (· != '\x7d') with
    | (field, '\x7d' :: ']' :: rest) => do
      let (field, value?) ← field? field
      afterPattern? start ⟨if name.isEmpty then none else some name, some field, value?⟩ rest
    | _ => none
  | _ => none

/-- The rule that a text without blanks in front states. Blanks behind a name are part of it. -/
def ofBody? (t : Text) : Option Rule :=
  match t with
  | [] => none
  | '[' :: rest => ofPattern? [] rest
  | c :: _ =>
    if !opensName c then none
    else
      match t.span fun c => c != '=' && c != '[' with
      | (start, '=' :: bound) => (statedBound? bound).map fun b => ⟨start, none, b⟩
      | (start, _ :: rest) => ofPattern? start rest
      | (whole, []) =>
        match Bound.ofText? whole with
        | some b => some ⟨[], none, b⟩
        | none => some ⟨whole, none, some .trace⟩

/-- The rule that a text states. Blanks in front are part of a name that no part has, and there is
no level for such a name. -/
def ofText? (t : Text) : Option Rule :=
  if !t.startsBlank then ofBody? t
  else if t.contains '=' then none
  else (ofBody? t.trimStart).map fun _ => ⟨t, none, some .trace⟩

/-- Whether a rule speaks of a part of the program. -/
def covers (r : Rule) (part : String) : Bool :=
  r.start.isPrefixOf part.toList

/-- Whether two rules speak of the same. -/
def restates (r s : Rule) : Bool :=
  r.start == s.start && r.pattern? == s.pattern?

/-- Whether a rule holds everywhere, and not only inside spans of some name or with some value. -/
def isGeneral (r : Rule) : Bool :=
  r.pattern?.all fun p => p.name?.isNone && p.value?.isNone

/-- The field that a rule asks for; the empty name if there is none. -/
def field (r : Rule) : Text :=
  (r.pattern?.bind SpanPattern.field?).getD []

/-- Whether a rule asks for what happens inside a span. -/
def asksFor (r : Rule) (s : Span) : Bool :=
  r.covers s.target && r.pattern?.any (·.asksFor s)

/-- Whether a rule speaks of events of a part of the program. An event has the one field
`message`. -/
def coversEvents (r : Rule) (part : String) : Bool :=
  r.covers part && (r.field.isEmpty || r.field = "message".toList)

/-- Whether a rule says less closely than another one what it speaks of: the start of the name is
shorter, or just as long and the field comes earlier in the order of texts, where a missing field
comes first. -/
def broader (r s : Rule) : Bool :=
  r.start.length < s.start.length ||
    (r.start.length == s.start.length && r.field < s.field)

end Rule

end AsmFormat
