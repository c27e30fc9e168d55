import AsmFormat.Text.Quoted
import AsmFormat.Trace.Level

/-!
# Events of the trace

While it runs, the formatter reports what it does as events. An event has a level, the part of the
program that reports it, the spans of work that enclose it, and a message. Where a message is shown
it cannot steer the terminal: `traceChar` writes out the characters that could.
-/

set_option autoImplicit false

namespace AsmFormat

/-- What a field of a span holds. -/
inductive SpanValue where
  | number (n : Nat)
  | text (t : Text)
deriving DecidableEq

/-- A value as a trace shows it: a text stands between quotes. -/
def SpanValue.shown : SpanValue → Text
  | number n => Nat.toDigits 10 n
  | text t => Text.quoted t

/-- A span of work. -/
structure Span where
  level : Level
  /-- The part of the program that does the work. -/
  target : String
  name : String
  /-- What the work is about: values by name. -/
  fields : List (String × SpanValue)
deriving DecidableEq

/-- A span as a trace shows it. -/
def Span.text (s : Span) : Text :=
  let shown := s.fields.map fun f => f.1.toList ++ '=' :: f.2.shown
  s.name.toList ++ '\x7b' :: [' '].intercalate shown ++ ['\x7d']

/-- One report. -/
structure Event where
  level : Level
  /-- The part of the program that reports. -/
  target : String
  /-- The enclosing spans, the outermost first. -/
  spans : List Span := []
  message : Text
deriving DecidableEq

/-- The event inside one more span of work. -/
def Event.within (span : Span) (e : Event) : Event :=
  { e with spans := span :: e.spans }

/-- A character as a trace shows it. The bell, the backspace, the form feed, the escape and the
delete character are written by two hexadecimal digits, the controls beyond ASCII by their
number. -/
def traceChar (c : Char) : Text :=
  match c with
  | '\x07' => "\\x07".toList
  | '\x08' => "\\x08".toList
  | '\x0c' => "\\x0c".toList
  | '\x1b' => "\\x1b".toList
  | '\x7f' => "\\x7f".toList
  | _ =>
    if 0x80 ≤ c.toNat && c.toNat ≤ 0x9F then
      ['\\', 'u', '\x7b'] ++ Nat.toDigits 16 c.toNat ++ ['\x7d']
    else [c]

end AsmFormat
