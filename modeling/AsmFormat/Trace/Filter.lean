import AsmFormat.Trace.Rule

/-!
# Filters of the trace

A filter says how much of the trace is shown. It is a list of rules, one for each piece of a text
between commas.

An event is shown if a rule on one of the spans around it lets it pass. Otherwise the closest of the
general rules that speak of its part of the program decides; with no such rule the event is hidden.
The same holds for a span, which is also shown if a rule asks for the spans of its kind. Of several
rules that speak of the same the last one holds.

- `Filter.ofText`: the filter that a text states.
- `Event.line?`: the line that a trace shows for an event under a filter.
-/

set_option autoImplicit false

namespace AsmFormat

/-- What a trace shows. -/
structure Filter where
  rules : List Rule
deriving DecidableEq

/-- What a filter has found out about the spans around an event. -/
structure Surroundings where
  /-- The spans that are shown, the outermost first. -/
  shown : List Span := []
  /-- The bounds of the rules that ask for what happens inside them. -/
  bounds : List Bound := []

namespace Filter

/-- The filter that shows everything up to the level `info`. -/
def usual : Filter := ⟨[{ start := [], bound := some .info }]⟩

/-- The filter that a text states. The empty text, and one with a piece that is no rule, ask for the
usual filter. -/
def ofText (t : Text) : Filter :=
  let pieces := (t.splitOn ',').filter fun piece => !piece.isEmpty
  if t.isEmpty then usual else (pieces.mapM Rule.ofText?).elim usual Filter.mk

/-- The rules without those that a later one replaces. -/
def lasting : List Rule → List Rule
  | [] => []
  | r :: rest => if rest.any r.restates then lasting rest else r :: lasting rest

/-- Whether the closest of the general rules that speak of something shows a level of it. -/
def generally (f : Filter) (speaks : Rule → Bool) (l : Level) : Bool :=
  let closest := ((lasting f.rules).filter fun r => r.isGeneral && speaks r).foldl
    (fun found r => if found.any r.broader then found else some r) none
  closest.any (·.bound.passes l)

/-- Whether any rule lets the level of a span pass. A rule on the value of a field counts for all
levels, as it is not known beforehand what it lets pass. -/
def reaches (f : Filter) (l : Level) : Bool :=
  f.rules.any fun r => r.bound.passes l || r.pattern?.any (·.value?.isSome)

/-- What is known inside one more span. -/
def enter (f : Filter) (around : Surroundings) (s : Span) : Surroundings :=
  let asking := (lasting f.rules).filter (·.asksFor s)
  let asked := !asking.isEmpty && f.reaches s.level
  let holding := asking.filter fun r => r.pattern?.all (·.admitsValue s)
  if asked || around.bounds.any (·.passes s.level) || f.generally (·.covers s.target) s.level then
    { shown := around.shown ++ [s], bounds := holding.map Rule.bound ++ around.bounds }
  else
    around

/-- What a filter finds out about the spans around an event. -/
def surroundings (f : Filter) (e : Event) : Surroundings :=
  e.spans.foldl f.enter {}

/-- Whether a filter shows an event. -/
def shows (f : Filter) (e : Event) : Bool :=
  (f.surroundings e).bounds.any (·.passes e.level) ||
    f.generally (·.coversEvents e.target) e.level

end Filter

/-- The line of the trace for an event, unless the filter hides it. -/
def Event.line? (f : Filter) (e : Event) : Option Text :=
  if f.shows e then
    let shown := (f.surroundings e).shown.map Span.text
    let place := if shown.isEmpty then [] else [':'].intercalate shown ++ ": ".toList
    some (e.level.name.toList ++ ' ' :: place ++ e.target.toList ++ ": ".toList ++
      e.message.flatMap traceChar)
  else
    none

end AsmFormat
