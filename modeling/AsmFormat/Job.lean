import AsmFormat.Host
import AsmFormat.Listing
import AsmFormat.Settings.Reader
import AsmFormat.Settings.Writer

/-!
# Formatting a file

A job names an input file, the settings, a range of lines and what becomes of the result: it goes
to the standard output or to a file, it replaces the input, or it is only listed. `formatFile`
carries a job out on any host, and `loadSettings` reads a settings file.

In place, a file is touched only if some line changes. A file that is only listed is never touched.
-/

set_option autoImplicit false

namespace AsmFormat

/-- What becomes of the result. -/
inductive Mode where
  | standardOutput
  | file (path : Path)
  | inPlace
  /-- List the lines that would change. -/
  | check
deriving DecidableEq

/-- The formatting of one file. -/
structure Job where
  input : Path
  settings : Settings := {}
  range : LineRange := {}
  mode : Mode := .standardOutput

/-- How many lines a job looked at and how many of them change. -/
structure Outcome where
  examined : Nat
  changed : Nat
deriving DecidableEq

variable {m : Type → Type} [Monad m]

/-- Report events in order. -/
def reportAll (host : Host m) : List Event → m Unit
  | [] => pure ()
  | event :: rest => do
    host.report event
    reportAll host rest

/-- The source file that a path names. -/
def readSource (host : Host m) (path : Path) : m (Except Failure Source) := do
  match ← host.read path with
  | .error e => return .error (.access .read (.file path) e)
  | .ok bytes =>
    match bytes.text? with
    | none => return .error (.notUnicode path)
    | some body => return .ok (Source.ofText body)

/-- The settings in the file that a path names. -/
def loadSettings (host : Host m) (path : Path) : m (Except Failure Settings) := do
  match ← host.read path with
  | .error e => return .error (.access .read (.file path) e)
  | .ok bytes =>
    match bytes.text? with
    | none => return .error (.access .read (.file path) .notText)
    | some _ =>
      match Settings.read bytes with
      | .error fault => return .error (.badSettings path (fault.message bytes))
      | .ok settings =>
        host.report {
          level := .debug
          target := "formatter::config"
          message := "loaded settings from ".toList ++ path ++ ": ".toList ++ settings.detail }
        return .ok settings

/-- How many lines of a document lie in a range. -/
def LineRange.count (r : LineRange) (lineCount : Nat) : Nat :=
  min lineCount (r.last.toNat + 1) - r.first.toNat

/-- The report on what a job found. -/
def Outcome.event (o : Outcome) : Event where
  level := .info
  target := "formatter::driver"
  message := Nat.toDigits 10 o.changed ++ " of ".toList ++ Nat.toDigits 10 o.examined ++
    " lines examined need reformatting".toList

/-- Print, and say so if it fails. -/
def printPieces (host : Host m) (pieces : List Text) : m (Except Failure Unit) := do
  match ← host.print (pieces.map Text.utf8) with
  | .error e => return .error (.access .write .standardOutput e)
  | .ok () => return .ok ()

/-- Replace a file by a source file, and say so if it fails. -/
def writeSource (host : Host m) (path : Path) (source : Source) : m (Except Failure Unit) := do
  host.report {
    level := .debug
    target := "formatter::driver::output"
    message := "writing ".toList ++ path }
  match ← host.replaceFile path source.written.utf8 with
  | .error e => return .error (.access .write (.file path) e)
  | .ok () => return .ok ()

/-- Bring the edits of a source file to where the mode says. -/
def deliver (host : Host m) (job : Job) (source : Source) (edits : List Edit) :
    m (Except Failure Unit) := do
  match job.mode with
  | .check => printPieces host (source.listing job.input edits)
  | .standardOutput => printPieces host (source.apply edits).pieces
  | .file path => writeSource host path (source.apply edits)
  | .inPlace =>
    if edits.isEmpty then
      host.report {
        level := .debug
        target := "formatter::driver"
        message := job.input ++ " is already formatted".toList }
      return .ok ()
    else
      writeSource host job.input (source.apply edits)

/-- Carry out a job. -/
def formatFile (host : Host m) (job : Job) : m (Except Failure Outcome) := do
  match ← readSource host job.input with
  | .error failure => return .error failure
  | .ok source =>
    let pass := formatRange job.settings source.lines job.range neverCancelled
    let outcome : Outcome := ⟨job.range.count source.lines.length, pass.edits.length⟩
    reportAll host (pass.events job.range source.lines.length)
    host.report outcome.event
    match ← deliver host job source pass.edits with
    | .error failure => return .error failure
    | .ok () => return .ok outcome

end AsmFormat
