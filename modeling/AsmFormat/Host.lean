import AsmFormat.Failure
import AsmFormat.Text.Utf8
import AsmFormat.Trace.Event

/-!
# What the formatter asks of its surroundings

A job reads files, replaces files and prints. `Host` is the list of these requests, for any kind of
effect: the program runs on the host of the operating system, and `World` is a host whose files
are a value.

`Host.replaceFile` writes a file as a whole or not at all. The contents go to a temporary file next
to the destination, which takes the place of the destination when it is complete; if any step
fails, the temporary file is discarded.
-/

set_option autoImplicit false

namespace AsmFormat

/-- The requests of a job. -/
structure Host (m : Type → Type) where
  /-- How a temporary file is named. -/
  Temporary : Type
  /-- The contents of a file. -/
  read : Path → m (Except AccessError Bytes)
  /-- A new, empty temporary file in a directory. -/
  create : Path → m (Except AccessError Temporary)
  /-- Add to a temporary file. -/
  write : Temporary → Bytes → m (Except AccessError Unit)
  /-- Make sure that a temporary file is stored. -/
  sync : Temporary → m (Except AccessError Unit)
  /-- Put a temporary file in the place of what the path names. -/
  persist : Temporary → Path → m (Except AccessError Unit)
  /-- Remove a temporary file. -/
  discard : Temporary → m Unit
  /-- Write the pieces to the standard output. -/
  print : List Bytes → m (Except AccessError Unit)
  /-- Write a line to the standard error. -/
  complain : Text → m Unit
  /-- Report an event. -/
  report : Event → m Unit

namespace Host

variable {m : Type → Type} [Monad m]

/-- Fill a temporary file and put it in its place. -/
def fill (host : Host m) (temporary : host.Temporary) (path : Path) (contents : Bytes) :
    m (Except AccessError Unit) := do
  match ← host.write temporary contents with
  | .error e => return .error e
  | .ok () =>
    match ← host.sync temporary with
    | .error e => return .error e
    | .ok () => host.persist temporary path

/-- Replace a file as a whole, or leave everything as it was. -/
def replaceFile (host : Host m) (path : Path) (contents : Bytes) :
    m (Except AccessError Unit) := do
  match ← host.create path.parent with
  | .error e => return .error e
  | .ok temporary =>
    match ← host.fill temporary path contents with
    | .ok () => return .ok ()
    | .error e =>
      host.discard temporary
      return .error e

end Host

end AsmFormat
