import AsmFormat.Command.Arguments
import AsmFormat.Job
import AsmFormat.Trace.Filter

/-!
# Running a command

`runCommand` carries out what the arguments ask for and answers with the exit status: zero for
success, one for a failure or for lines that a check found to change, two for arguments that make
no sense. Failures go to the standard error, and so does the trace, as far as its filter shows it.
-/

set_option autoImplicit false

namespace AsmFormat

/-- The name and the version of the program. -/
def versionText : Text :=
  "formatter 0.1.0\n".toList

/-- How the program is used, in brief. This is an abridged help: the usage, and the long names of the
options with the kinds of their values, without the short names and without the sentences that say
what each option does. -/
def helpText : Text :=
  let values := ValueOption.all.map fun o => "  --" ++ o.name ++ " " ++ o.valueName ++ "\n"
  let switches := SwitchOption.all.map fun o => "  --" ++ o.name ++ "\n"
  (String.join ("Usage: tms9900fmt [OPTIONS] INPUT\n\nOptions:\n" :: values ++ switches)).toList

/-- The span of a whole run. -/
def runSpan (input : Path) : Span where
  level := .error
  target := "tms9900fmt"
  name := "format"
  fields := [("input", .text input)]

/-- What becomes of the result of a request. -/
def Options.mode (o : Options) : Mode :=
  if o.switches.contains .check then .check
  else if o.switches.contains .inPlace then .inPlace
  else
    match o.output with
    | some path => .file path
    | none => .standardOutput

variable {m : Type → Type} [Monad m]

/-- The host that shows events as lines of a trace. -/
def Host.showing (host : Host m) (filter : Filter) (span : Span) : Host m :=
  { host with report := fun event =>
      match (event.within span).line? filter with
      | none => pure ()
      | some line => host.complain line }

/-- The settings that a request asks for. -/
def Options.settings (host : Host m) (o : Options) : m (Except Failure Settings) := do
  match o.config with
  | none => return .ok (o.overrides.applyTo {})
  | some path =>
    match ← loadSettings host path with
    | .error failure => return .error failure
    | .ok settings => return .ok (o.overrides.applyTo settings)

/-- An event of the command itself. -/
def commandEvent (level : Level) (message : Text) : Event where
  level := level
  target := "tms9900fmt"
  message := message

/-- Carry out a request to format, and say whether lines need to change that have not been
changed. -/
def runFormat (host : Host m) (input : Path) (o : Options) : m (Except Failure Bool) := do
  match ← o.settings host with
  | .error failure => return .error failure
  | .ok settings =>
    host.report (commandEvent .debug ("settings: ".toList ++ settings.detail))
    match LineRange.ofNumbers o.firstLine o.lastLine with
    | .error failure => return .error failure
    | .ok range =>
      match ← formatFile host { input, settings, range, mode := o.mode } with
      | .error failure =>
        host.report (commandEvent .error
          ("formatting failed: FormatFail(".toList ++ failure.detail ++ [')']))
        return .error failure
      | .ok outcome =>
        host.report (commandEvent .info "formatting succeeded".toList)
        return .ok (o.mode = .check && outcome.changed != 0)

/-- Carry out what the arguments ask for; the result is the exit status. -/
def runCommand (host : Host m) (filter : Filter) (arguments : List Text) : m UInt32 := do
  match Request.ofArguments arguments with
  | .error mistake =>
    host.complain ("error: ".toList ++ mistake.message)
    return 2
  | .ok .version =>
    let _ ← host.print [versionText.utf8]
    return 0
  | .ok .help =>
    let _ ← host.print [helpText.utf8]
    return 0
  | .ok (.format input o) =>
    match ← runFormat (host.showing filter (runSpan input)) input o with
    | .error failure =>
      host.complain failure.message
      return 1
    | .ok needed => return if needed then 1 else 0

end AsmFormat
