import AsmFormat.Text.Alphanumeric
import AsmFormat.Text.Pattern

/-!
# The text of a pattern

Most characters of a pattern stand for themselves. A dot is any character but the line feed, a set
of characters stands between brackets, `^` and `$` ask for the start and the end of the text, a bar
separates choices, and parentheses hold a pattern together. A star, a plus or a question mark
repeats what stands in front of it; a further question mark behind it changes nothing about the
texts. A backslash takes the meaning from a character that is no letter or digit and gives one to
some letters.

A pattern that asks for the border of a word, counts its repetitions, names a property or a group,
or puts a set into a set is not read.
-/

set_option autoImplicit false

namespace AsmFormat

namespace CharSet

/-- The set of a single character. -/
def single (c : Char) : CharSet := { ranges := [CodeRange.single c] }

/-- All characters but the line feed. -/
def dot : CharSet := { negated := true, ranges := [CodeRange.single '\n'] }

/-- The decimal digits. -/
def digits : CharSet := { ranges := [⟨0x30, 0x39⟩] }

/-- The blanks. -/
def blanks : CharSet where
  ranges := [
    ⟨0x09, 0x0D⟩, ⟨0x20, 0x20⟩, ⟨0x85, 0x85⟩, ⟨0xA0, 0xA0⟩, ⟨0x1680, 0x1680⟩, ⟨0x2000, 0x200A⟩,
    ⟨0x2028, 0x2029⟩, ⟨0x202F, 0x202F⟩, ⟨0x205F, 0x205F⟩, ⟨0x3000, 0x3000⟩]

/-- The characters of words: letters, numbers and the low line. -/
def wordCharacters : CharSet := { ranges := CodeRange.single '_' :: alphanumeric }

/-- The other characters. -/
def complement (s : CharSet) : CharSet :=
  { s with negated := !s.negated }

/-- The set that a letter behind a backslash stands for. -/
def ofEscape? (c : Char) : Option CharSet :=
  match c with
  | 'd' => some digits
  | 'D' => some digits.complement
  | 's' => some blanks
  | 'S' => some blanks.complement
  | 'w' => some wordCharacters
  | 'W' => some wordCharacters.complement
  | _ => none

end CharSet

namespace Pattern

/-- The character that a backslash and a character stand for, if they stand for one. -/
def escaped? (c : Char) : Option Char :=
  match c with
  | 'a' => some '\x07'
  | 'f' => some '\x0c'
  | 't' => some '\t'
  | 'n' => some '\n'
  | 'r' => some '\r'
  | 'v' => some '\x0b'
  | _ => if c.isAlphanum || c == '<' || c == '>' || 0x80 ≤ c.toNat then none else some c

/-- The value of a hexadecimal digit. -/
def hexValue? (c : Char) : Option Nat :=
  (List.range 16).find? fun n => Nat.digitChar n == c.toLower

/-- The character that a backslash and the front of a text stand for, and what follows it. The
letter `x` and two hexadecimal digits stand for the character with that number. -/
def escape? (t : Text) : Option (Char × Text) :=
  match t with
  | 'x' :: a :: b :: rest => do
    let high ← hexValue? a
    let low ← hexValue? b
    some (Char.ofNat (16 * high + low), rest)
  | c :: rest => (escaped? c).map (·, rest)
  | [] => none

/-- The character at the front of a set between brackets, and what follows it. -/
def setCharacter? (t : Text) : Option (Char × Text) :=
  match t with
  | [] => none
  | '\\' :: rest => escape? rest
  | c :: rest => some (c, rest)

/-- The ranges of a set between brackets from one of its members on, and what follows the set. The
count bounds the number of members. -/
def setMembers? : Nat → Text → Option (List CodeRange × Text)
  | 0, _ => none
  | bound + 1, t =>
    match t with
    | ']' :: rest => some ([], rest)
    | '[' :: _ => none
    | '&' :: '&' :: _ => none
    | '-' :: '-' :: _ => none
    | '~' :: '~' :: _ => none
    | _ => do
      let (low, rest) ← setCharacter? t
      let (high, rest) ← match rest with
        | '-' :: ']' :: _ => some (low, rest)
        | '-' :: '-' :: _ => some (low, rest)
        | '-' :: rest => if rest.head? = some '[' then none else setCharacter? rest
        | _ => some (low, rest)
      if high < low then none
      else
        let (ranges, rest) ← setMembers? bound rest
        some (⟨low.toNat, high.toNat⟩ :: ranges, rest)

/-- The set between brackets, from the text behind the opening one. A closing bracket in front
stands for itself, and so does a hyphen. -/
def set? (t : Text) : Option (CharSet × Text) :=
  let (negated, t) := match t with
    | '^' :: rest => (true, rest)
    | _ => (false, t)
  let hyphens := t.takeWhile (· = '-')
  let t := t.dropWhile (· = '-')
  let (brackets, t) := match t with
    | ']' :: rest => if hyphens.isEmpty then ([']'], rest) else ([], t)
    | _ => ([], t)
  (setMembers? (t.length + 1) t).map fun (ranges, rest) =>
    ({ negated, ranges := (hyphens ++ brackets).map CodeRange.single ++ ranges }, rest)

/-- What has been read of a pattern between parentheses. -/
structure Frame where
  /-- The choices that are complete. -/
  choices : List Pattern := []
  /-- The current choice without its last piece. -/
  before : Pattern := .empty
  /-- The last piece, which can be repeated. -/
  last? : Option Pattern := none

namespace Frame

/-- The current choice. -/
def choice (f : Frame) : Pattern :=
  match f.last? with
  | none => f.before
  | some p => .seq f.before p

/-- One more piece. -/
def push (f : Frame) (p : Pattern) : Frame :=
  { f with before := f.choice, last? := some p }

/-- The next choice. -/
def next (f : Frame) : Frame :=
  { choices := f.choices ++ [f.choice] }

/-- The pattern as a whole. -/
def close (f : Frame) : Pattern :=
  f.choices.foldr .alt f.choice

/-- The last piece repeated. -/
def repeated? (f : Frame) (repetition : Pattern → Pattern) : Option Frame :=
  f.last?.map fun p => { f with last? := some (repetition p) }

end Frame

/-- The repetition that a character asks for. -/
def repetition? (c : Char) : Option (Pattern → Pattern) :=
  match c with
  | '*' => some .star
  | '+' => some fun p => .seq p (.star p)
  | '?' => some fun p => .alt p .empty
  | _ => none

/-- The piece at the front of a text, other than a pattern between parentheses, and what follows
it. -/
def piece? (t : Text) : Option (Pattern × Text) :=
  match t with
  | [] => none
  | '\x7b' :: _ => none
  | '.' :: rest => some (.one .dot, rest)
  | '^' :: rest => some (.start, rest)
  | '$' :: rest => some (.finish, rest)
  | '[' :: rest => (set? rest).map fun (s, rest) => (.one s, rest)
  | '\\' :: 'A' :: rest => some (.start, rest)
  | '\\' :: 'z' :: rest => some (.finish, rest)
  | '\\' :: rest =>
    match rest.head?.bind CharSet.ofEscape? with
    | some s => some (.one s, rest.drop 1)
    | none => (escape? rest).map fun (c, rest) => (.one (.single c), rest)
  | c :: rest => some (.one (.single c), rest)

/-- Read on, inside the given open parentheses, the innermost first. The count bounds the number of
pieces. -/
def readOn? : Nat → Frame → List Frame → Text → Option Pattern
  | 0, _, _, _ => none
  | bound + 1, frame, outer, t =>
    match t with
    | [] => if outer.isEmpty then some frame.close else none
    | '(' :: '?' :: ':' :: rest => readOn? bound {} (frame :: outer) rest
    | '(' :: '?' :: _ => none
    | '(' :: rest => readOn? bound {} (frame :: outer) rest
    | ')' :: rest =>
      match outer with
      | [] => none
      | parent :: outer => readOn? bound (parent.push frame.close) outer rest
    | '|' :: rest => readOn? bound frame.next outer rest
    | c :: rest =>
      match repetition? c with
      | some repetition => do
        let frame ← frame.repeated? repetition
        readOn? bound frame outer (if rest.head? = some '?' then rest.drop 1 else rest)
      | none => do
        let (p, rest) ← piece? t
        readOn? bound (frame.push p) outer rest

/-- The pattern that a text states. -/
def ofText? (t : Text) : Option Pattern :=
  readOn? (t.length + 1) {} [] t

end Pattern

end AsmFormat
