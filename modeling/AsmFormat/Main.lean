import AsmFormat.Command.Run

/-!
# The program

The command line program is `runCommand` on the host of the operating system. The environment
variable `OperatingSystem.traceVariable` states the filter of the trace; without it the filter is the
usual one.
-/

set_option autoImplicit false

namespace AsmFormat

namespace OperatingSystem

/-- The environment variable that states the filter of the trace. -/
def traceVariable : String :=
  "RUST_LOG"

/-- The refusals that have a number of their own. -/
def listedErrors : List SystemError := [
  .notFound, .permissionDenied, .busy, .alreadyExists, .notADirectory, .isADirectory,
  .invalidArgument, .noSpace, .readOnly, .nameTooLong]

/-- The refusal with a number, which some requests give as the number below zero. -/
def numbered (number : UInt32) (wording : String) : SystemError :=
  let number := if number < 0x80000000 then number.toNat else (0 - number).toNat
  (listedErrors.find? fun e => e.number == number).getD (.other number wording)

/-- The refusal behind an error. -/
def refusal (e : IO.Error) : SystemError :=
  match e with
  | .alreadyExists _ n d => numbered n d
  | .otherError n d => numbered n d
  | .resourceBusy n d => numbered n d
  | .resourceVanished n d => numbered n d
  | .unsupportedOperation n d => numbered n d
  | .hardwareFault n d => numbered n d
  | .unsatisfiedConstraints n d => numbered n d
  | .illegalOperation n d => numbered n d
  | .protocolError n d => numbered n d
  | .timeExpired n d => numbered n d
  | .interrupted _ n d => numbered n d
  | .noFileOrDirectory _ n d => numbered n d
  | .invalidArgument _ n d => numbered n d
  | .permissionDenied _ n d => numbered n d
  | .resourceExhausted _ n d => numbered n d
  | .inappropriateType _ n d => numbered n d
  | .noSuchThing _ n d => numbered n d
  | .unexpectedEof => .other 0 "unexpected end of file"
  | .userError wording => .other 0 wording

/-- Carry out an action and keep its refusal. -/
def attempt {α : Type} (wrap : SystemError → AccessError) (action : IO α) :
    IO (Except AccessError α) := do
  try
    return .ok (← action)
  catch e =>
    return .error (wrap (refusal e))

/-- A temporary file: its path and the handle through which it is written. -/
abbrev TemporaryFile := String × IO.FS.Handle

/-- Open a temporary file that does not exist yet. -/
def create (directory : Path) : IO (Except AccessError TemporaryFile) := do
  let number ← IO.rand 0 0xFFFFFFFF
  let path := directory ++ "/.tmp".toList ++ Nat.toDigits 16 number
  attempt (.temporary path) do
    let handle ← IO.FS.Handle.mk (String.ofList path) .writeNew
    return (String.ofList path, handle)

/-- Write the pieces to the standard output. -/
def print (pieces : List Bytes) : IO Unit := do
  let output ← IO.getStdout
  for piece in pieces do
    output.write piece.toByteArray
  output.flush

/-- The host of the operating system. -/
def host : Host IO where
  Temporary := TemporaryFile
  read := fun path => attempt .system do
    return (← IO.FS.readBinFile (String.ofList path)).data.toList
  create := create
  write := fun file contents => attempt .system (file.2.write contents.toByteArray)
  sync := fun file => attempt .system file.2.flush
  persist := fun file path => attempt .system (IO.FS.rename file.1 (String.ofList path))
  discard := fun file => do
    try
      IO.FS.removeFile file.1
    catch _ =>
      return ()
  print := fun pieces => attempt .system (print pieces)
  complain := fun line => IO.eprintln (String.ofList line)
  report := fun _ => return ()

end OperatingSystem

end AsmFormat

/-- The command line program. -/
def main (arguments : List String) : IO UInt32 := do
  let filter := (← IO.getEnv AsmFormat.OperatingSystem.traceVariable).getD ""
  AsmFormat.runCommand AsmFormat.OperatingSystem.host (AsmFormat.Filter.ofText filter.toList)
    (arguments.map String.toList)
