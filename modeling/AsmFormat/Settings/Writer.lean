import AsmFormat.Settings.Basic
import AsmFormat.Text.Blank

/-!
# Writing settings

`Settings.json` writes settings as a JSON object without blanks, in the order of `Setting.all`.
`Settings.detail` is the form that the trace shows.
-/

set_option autoImplicit false

namespace AsmFormat

namespace Settings

/-- The text of a flag. -/
def flagText (b : Bool) : Text :=
  if b then "true".toList else "false".toList

/-- The text of the value of a setting. -/
def valueText (s : Settings) : Setting → Text
  | .column c => Nat.toDigits 10 (s.column c).toNat
  | .flag f => flagText (s.flag f)

/-- One member of the object. -/
def memberText (s : Settings) (setting : Setting) : Text :=
  '"' :: setting.name.toList ++ ['"', ':'] ++ s.valueText setting

/-- The settings as a JSON object. -/
def json (s : Settings) : Text :=
  '\x7b' :: [','].intercalate (Setting.all.map s.memberText) ++ ['\x7d']

/-- The name that the trace shows for a setting. -/
def traceName : Setting → String
  | .column .label => "label_column"
  | .column .instruction => "instruction_column"
  | .column .operand => "operand_column"
  | .column .comment => "comment_column"
  | .flag .uppercaseInstructions => "uppercase_instructions"
  | .flag .uppercaseDirectives => "uppercase_directives"
  | .flag .spaceAfterComma => "space_after_comma"

/-- The settings with their values by name. -/
def detail (s : Settings) : Text :=
  "FormatConfig \x7b ".toList ++
    ", ".toList.intercalate
      (Setting.all.map fun setting =>
        (traceName setting).toList ++ ": ".toList ++ s.valueText setting) ++
    " \x7d".toList

end Settings

end AsmFormat
