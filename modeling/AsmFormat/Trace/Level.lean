import AsmFormat.Decimal.Word

/-!
# Levels of the trace

An event of the trace has a level, and a bound says which levels are shown: those up to one of them,
or none.
-/

set_option autoImplicit false

namespace AsmFormat

/-- The levels of the trace, from the most to the least severe. -/
inductive Level where
  | error
  | warn
  | info
  | debug
  | trace
deriving DecidableEq

namespace Level

/-- The rank of a level: a bound lets pass the ranks up to its own. -/
def rank : Level → Nat
  | error => 1
  | warn => 2
  | info => 3
  | debug => 4
  | trace => 5

/-- The name of a level. -/
def name : Level → String
  | error => "ERROR"
  | warn => "WARN"
  | info => "INFO"
  | debug => "DEBUG"
  | trace => "TRACE"

/-- All levels. -/
def all : List Level := [error, warn, info, debug, trace]

end Level

/-- The least severe level that is shown, or nothing at all. -/
abbrev Bound := Option Level

namespace Bound

/-- Whether a bound lets a level pass. -/
def passes (b : Bound) (l : Level) : Bool :=
  match b with
  | none => false
  | some least => l.rank ≤ least.rank

/-- The bound that a text states: the name of a level or its rank, and `off` or zero for nothing. A
name is told by its letters from `A` to `Z`, large or small. -/
def ofText? (t : Text) : Option Bound :=
  match readWord? t with
  | some n => if n = 0 then some none else (Level.all.find? (·.rank = n.toNat)).map some
  | none =>
    let name := t.map Char.toUpper
    if name = "OFF".toList then some none else (Level.all.find? (·.name.toList = name)).map some

end Bound

end AsmFormat
