import AsmFormat.Decimal.Word
import AsmFormat.Failure
import AsmFormat.Settings.Basic

/-!
# Command line arguments

The command line names one input file. Options may stand before and after it, each at most once.
An option with a value takes it from the next argument or behind an equals sign. After `--` every
argument is the name of a file. Arguments are read from left to right, so the first mistake counts,
and a request for the version or for help ends the reading.

`Request.ofArguments` is the request that some arguments make.
-/

set_option autoImplicit false

namespace AsmFormat

/-- The options that take a value. -/
inductive ValueOption where
  | output
  | config
  | firstLine
  | lastLine
  | column (c : ColumnSetting)
deriving DecidableEq

/-- The options that take no value. -/
inductive SwitchOption where
  | inPlace
  | check
  /-- Switch a flag of the settings off. -/
  | without (f : FlagSetting)
  | version
  | help
deriving DecidableEq

namespace ValueOption

/-- All options with a value. -/
def all : List ValueOption :=
  [output, config, firstLine, lastLine, column .label, column .instruction, column .operand,
    column .comment]

/-- The long name of an option, behind its two dashes. -/
def name : ValueOption → String
  | output => "output"
  | config => "config"
  | firstLine => "first-line"
  | lastLine => "last-line"
  | column .label => "label-column"
  | column .instruction => "instruction-column"
  | column .operand => "operand-column"
  | column .comment => "comment-column"

/-- What the value of the option is. -/
def valueName : ValueOption → String
  | output => "FILE"
  | config => "FILE"
  | firstLine => "LINE"
  | lastLine => "LINE"
  | column _ => "COLUMN"

end ValueOption

namespace SwitchOption

/-- All options without a value. -/
def all : List SwitchOption :=
  [inPlace, check, without .uppercaseInstructions, without .uppercaseDirectives,
    without .spaceAfterComma, version, help]

/-- The long name of an option, behind its two dashes. -/
def name : SwitchOption → String
  | inPlace => "in-place"
  | check => "check"
  | without .uppercaseInstructions => "no-uppercase-instructions"
  | without .uppercaseDirectives => "no-uppercase-directives"
  | without .spaceAfterComma => "no-space-after-comma"
  | version => "version"
  | help => "help"

end SwitchOption

/-- What the arguments ask for. -/
structure Options where
  input : Option Path := none
  output : Option Path := none
  config : Option Path := none
  firstLine : Option UInt64 := none
  lastLine : Option UInt64 := none
  /-- The switches that are on. -/
  switches : List SwitchOption := []
  /-- The columns that are given. -/
  overrides : Overrides := {}

/-- What is wrong with the arguments. -/
inductive UsageError where
  | unexpected (argument : Text)
  | missingValue (o : ValueOption)
  | badValue (value : Text)
  | repeated (name : String)
  | conflict
  | missingInput

/-- The wording of a mistake. -/
def UsageError.message : UsageError → Text
  | unexpected argument => "unexpected argument ".toList ++ Text.quoted argument
  | missingValue o => "a value is required for --".toList ++ o.name.toList
  | badValue value => "invalid value ".toList ++ Text.quoted value
  | repeated name => "--".toList ++ name.toList ++ " cannot be used more than once".toList
  | conflict => "--output, --in-place and --check exclude each other".toList
  | missingInput => "an input file is required".toList

/-- What the program is asked to do. -/
inductive Request where
  | format (input : Path) (options : Options)
  | version
  | help

namespace Options

/-- The options with a file name that is not given yet. -/
def givePath (name : String) (old : Option Path) (value : Text) (give : Path → Options) :
    Except UsageError Options :=
  if old.isSome then .error (.repeated name)
  else if value.isEmpty then .error (.badValue value)
  else .ok (give value)

/-- The options with a number that is not given yet. -/
def giveWord (name : String) (old : Option UInt64) (value : Text) (give : UInt64 → Options) :
    Except UsageError Options :=
  if old.isSome then .error (.repeated name)
  else
    match readWord? value with
    | none => .error (.badValue value)
    | some n => .ok (give n)

/-- The options with the value of one more option. -/
def giveValue (o : Options) (option : ValueOption) (value : Text) : Except UsageError Options :=
  match option with
  | .output => givePath option.name o.output value fun p => { o with output := some p }
  | .config => givePath option.name o.config value fun p => { o with config := some p }
  | .firstLine => giveWord option.name o.firstLine value fun n => { o with firstLine := some n }
  | .lastLine => giveWord option.name o.lastLine value fun n => { o with lastLine := some n }
  | .column c =>
    giveWord option.name (o.overrides.column c) value fun n =>
      { o with overrides := o.overrides.setColumn c n }

/-- The options with one more switch. -/
def giveSwitch (o : Options) (switch : SwitchOption) : Except UsageError Options :=
  if o.switches.contains switch then .error (.repeated switch.name)
  else
    .ok { o with
      switches := switch :: o.switches
      overrides := match switch with
        | .without f => o.overrides.setFlag f false
        | _ => o.overrides }

/-- The options with the input file. -/
def giveInput (o : Options) (argument : Text) : Except UsageError Options :=
  if o.input.isSome then .error (.unexpected argument)
  else if argument.isEmpty then .error (.badValue argument)
  else .ok { o with input := some argument }

/-- The request that complete options make. -/
def request (o : Options) : Except UsageError Request :=
  let destinations := [o.output.isSome, o.switches.contains .inPlace, o.switches.contains .check]
  if 1 < destinations.count true then .error .conflict
  else
    match o.input with
    | none => .error .missingInput
    | some input => .ok (.format input o)

end Options

/-- How far the arguments have been read. -/
inductive Reading where
  /-- Options and file names may come. -/
  | options (o : Options)
  /-- The value of an option has to come. -/
  | value (o : Options) (option : ValueOption)
  /-- Only file names may come. -/
  | files (o : Options)
  /-- The rest does not matter. -/
  | finished (r : Request)

namespace Reading

/-- Read a switch. -/
def ofSwitch (o : Options) : SwitchOption → Except UsageError Reading
  | .version => .ok (.finished .version)
  | .help => .ok (.finished .help)
  | switch => (o.giveSwitch switch).map options

/-- Read an option with a long name, behind its dashes. -/
def ofLong (o : Options) (argument : Text) : Except UsageError Reading :=
  let name := String.ofList (argument.takeWhile (· != '='))
  let attached := argument.dropWhile (· != '=')
  match SwitchOption.all.find? (fun s => s.name == name),
      ValueOption.all.find? (fun v => v.name == name) with
  | some switch, _ =>
    if attached.isEmpty then ofSwitch o switch
    else .error (.unexpected attached)
  | none, some option =>
    if attached.isEmpty then .ok (.value o option)
    else (o.giveValue option (attached.drop 1)).map options
  | none, none => .error (.unexpected argument)

/-- Read options with short names, behind their dash. Only the output has a value; the others end
the reading. -/
def ofShort (o : Options) (letter : Char) (rest : Text) : Except UsageError Reading :=
  if letter = 'o' then
    match rest with
    | [] => .ok (.value o .output)
    | '=' :: attached => (o.giveValue .output attached).map options
    | attached => (o.giveValue .output attached).map options
  else if letter = 'V' then .ok (.finished .version)
  else if letter = 'h' then .ok (.finished .help)
  else .error (.unexpected (letter :: rest))

/-- Read one more argument. -/
def step (r : Reading) (argument : Text) : Except UsageError Reading :=
  match r with
  | finished request => .ok (finished request)
  | files o => (o.giveInput argument).map files
  | value o option =>
    match argument with
    | '-' :: _ :: _ => .error (.missingValue option)
    | _ => (o.giveValue option argument).map options
  | options o =>
    match argument with
    | ['-', '-'] => .ok (files o)
    | '-' :: '-' :: long => ofLong o long
    | '-' :: letter :: rest => ofShort o letter rest
    | _ => (o.giveInput argument).map options

/-- The request, when all arguments have been read. -/
def request : Reading → Except UsageError Request
  | options o => o.request
  | value _ option => .error (.missingValue option)
  | files o => o.request
  | finished r => .ok r

end Reading

/-- The request that the arguments make. -/
def Request.ofArguments (arguments : List Text) : Except UsageError Request := do
  let reading ← arguments.foldlM Reading.step (.options {})
  reading.request

end AsmFormat
