/-!
# Settings of the layout

Columns count from zero and flags switch parts of the layout on. `Settings` is a full set of
values and `Overrides` gives some of them; applying overrides replaces exactly the values given.
-/

set_option autoImplicit false

namespace AsmFormat

/-- A column of a line, from zero. -/
abbrev Column := UInt64

/-- The settings of one formatting pass. -/
structure Settings where
  /-- Carried for settings files that mention it; a label stands in column zero. -/
  labelColumn : Column := 0
  /-- Where the instruction starts, unless a long label pushes it right. -/
  instructionColumn : Column := 9
  /-- Carried for settings files that mention it; operands follow the instruction. -/
  operandColumn : Column := 18
  /-- Where a comment starts, unless long code pushes it right. -/
  commentColumn : Column := 40
  /-- Write instructions in upper case. -/
  uppercaseInstructions : Bool := true
  /-- Write directives in upper case. -/
  uppercaseDirectives : Bool := true
  /-- Write one space after each comma of the operands. -/
  spaceAfterComma : Bool := true
deriving DecidableEq

/-- The settings that hold a column. -/
inductive ColumnSetting where
  | label
  | instruction
  | operand
  | comment
deriving DecidableEq

/-- The settings that are on or off. -/
inductive FlagSetting where
  | uppercaseInstructions
  | uppercaseDirectives
  | spaceAfterComma
deriving DecidableEq

/-- One of the seven settings. -/
inductive Setting where
  | column (c : ColumnSetting)
  | flag (f : FlagSetting)
deriving DecidableEq

namespace Setting

/-- The settings in the order in which they are written. -/
def all : List Setting := [
  .column .label, .column .instruction, .column .operand, .column .comment,
  .flag .uppercaseInstructions, .flag .uppercaseDirectives, .flag .spaceAfterComma]

/-- The name of a setting in a settings file. -/
def name : Setting → String
  | column .label => "labelColumn"
  | column .instruction => "instructionColumn"
  | column .operand => "operandColumn"
  | column .comment => "commentColumn"
  | flag .uppercaseInstructions => "uppercaseInstructions"
  | flag .uppercaseDirectives => "uppercaseDirectives"
  | flag .spaceAfterComma => "spaceAfterComma"

end Setting

namespace Settings

/-- The value of a column. -/
def column (s : Settings) : ColumnSetting → Column
  | .label => s.labelColumn
  | .instruction => s.instructionColumn
  | .operand => s.operandColumn
  | .comment => s.commentColumn

/-- The value of a flag. -/
def flag (s : Settings) : FlagSetting → Bool
  | .uppercaseInstructions => s.uppercaseInstructions
  | .uppercaseDirectives => s.uppercaseDirectives
  | .spaceAfterComma => s.spaceAfterComma

end Settings

/-- Values for some of the settings. -/
structure Overrides where
  /-- The value given for a column, if any. -/
  column : ColumnSetting → Option Column := fun _ => none
  /-- The value given for a flag, if any. -/
  flag : FlagSetting → Option Bool := fun _ => none

namespace Overrides

/-- No values at all. -/
def none : Overrides := {}

/-- Whether a value is given for the setting. -/
def gives (o : Overrides) : Setting → Bool
  | .column c => (o.column c).isSome
  | .flag f => (o.flag f).isSome

/-- Give a column. -/
def setColumn (o : Overrides) (c : ColumnSetting) (value : Column) : Overrides :=
  { o with column := fun c' => if c' = c then some value else o.column c' }

/-- Give a flag. -/
def setFlag (o : Overrides) (f : FlagSetting) (value : Bool) : Overrides :=
  { o with flag := fun f' => if f' = f then some value else o.flag f' }

/-- The settings with every given value in the place of the old one. -/
def applyTo (o : Overrides) (s : Settings) : Settings where
  labelColumn := (o.column .label).getD s.labelColumn
  instructionColumn := (o.column .instruction).getD s.instructionColumn
  operandColumn := (o.column .operand).getD s.operandColumn
  commentColumn := (o.column .comment).getD s.commentColumn
  uppercaseInstructions := (o.flag .uppercaseInstructions).getD s.uppercaseInstructions
  uppercaseDirectives := (o.flag .uppercaseDirectives).getD s.uppercaseDirectives
  spaceAfterComma := (o.flag .spaceAfterComma).getD s.spaceAfterComma

/-- A column is the override if given, else the old value. -/
theorem column_applyTo (o : Overrides) (s : Settings) (c : ColumnSetting) :
    (o.applyTo s).column c = (o.column c).getD (s.column c) := by
  cases c <;> rfl

/-- A flag is the override if given, else the old value. -/
theorem flag_applyTo (o : Overrides) (s : Settings) (f : FlagSetting) :
    (o.applyTo s).flag f = (o.flag f).getD (s.flag f) := by
  cases f <;> rfl

end Overrides

end AsmFormat
