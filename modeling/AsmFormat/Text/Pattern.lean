import AsmFormat.Text.Blank
import AsmFormat.Text.CodeRange

/-!
# Patterns

A pattern describes texts: it is built from sets of characters by sequence, choice and repetition.
`Pattern.describes` decides whether a pattern describes a whole text. It keeps the list of patterns
that could describe what is left of the text, and takes the characters from them one by one.
-/

set_option autoImplicit false

namespace AsmFormat

/-- A set of characters: those in one of the ranges, or all others. -/
structure CharSet where
  negated : Bool := false
  ranges : List CodeRange
deriving DecidableEq

/-- Whether the set holds the character. -/
def CharSet.holds (s : CharSet) (c : Char) : Bool :=
  (s.ranges.any (·.holds c.toNat)) != s.negated

/-- A description of texts. -/
inductive Pattern where
  /-- The empty text. -/
  | empty
  /-- The empty text, at the start of the whole. -/
  | start
  /-- The empty text, at the end of the whole. -/
  | finish
  /-- One character of the set. -/
  | one (set : CharSet)
  /-- A text of the first pattern and then one of the second. -/
  | seq (p q : Pattern)
  /-- A text of either pattern. -/
  | alt (p q : Pattern)
  /-- Any number of texts of the pattern. -/
  | star (p : Pattern)
deriving DecidableEq

namespace Pattern

/-- Whether a pattern describes the empty text, at the start or the end of the whole or between. -/
def nullable (atStart atEnd : Bool) : Pattern → Bool
  | empty => true
  | start => atStart
  | finish => atEnd
  | one _ => false
  | seq p q => p.nullable atStart atEnd && q.nullable atStart atEnd
  | alt p q => p.nullable atStart atEnd || q.nullable atStart atEnd
  | star _ => true

/-- The patterns of what can follow the character in the texts of a pattern. -/
def after (atStart : Bool) (c : Char) : Pattern → List Pattern
  | empty => []
  | start => []
  | finish => []
  | one s => if s.holds c then [empty] else []
  | seq p q =>
    (p.after atStart c).map (seq · q) ++ if p.nullable atStart false then q.after atStart c else []
  | alt p q => p.after atStart c ++ q.after atStart c
  | star p => (p.after atStart c).map (seq · (star p))

/-- Whether one of the patterns describes the rest of a text. -/
def anyDescribes (atStart : Bool) (ps : List Pattern) : Text → Bool
  | [] => ps.any (nullable atStart true)
  | c :: rest => anyDescribes false (ps.flatMap (after atStart c)).eraseDups rest

/-- Whether a pattern describes the whole text. -/
def describes (p : Pattern) (t : Text) : Bool :=
  anyDescribes true [p] t

end Pattern

end AsmFormat
