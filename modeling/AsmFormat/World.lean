import AsmFormat.Host
import AsmFormat.Sink
import AsmFormat.Storage.Lookup

/-!
# A host whose files are a value

`World.host` carries out the requests of a job on a storage. The standard output is a sink, and the
lines for the standard error and the events are kept. `Faults` says which requests fail for a
reason that does not lie in the storage, so that a failure can be put at any step.
-/

set_option autoImplicit false

namespace AsmFormat

/-- The requests that fail. -/
structure Faults where
  /-- Why no file can be read. -/
  read : Option AccessError := none
  /-- Why no temporary file can be created. -/
  create : Option AccessError := none
  /-- How many bytes temporary files have room for, and why they take no more. -/
  room : Option (Nat × AccessError) := none
  /-- Why a temporary file is not stored. -/
  sync : Option AccessError := none
  /-- Why a temporary file cannot take its place. -/
  persist : Option AccessError := none

/-- The surroundings of a job. -/
structure World where
  storage : Storage
  /-- The standard output. -/
  output : Sink := {}
  /-- The lines on the standard error, the latest first. -/
  complaints : List Text := []
  /-- The events, the latest first. -/
  events : List Event := []
  faults : Faults := {}

namespace World

/-- What is in the file at a location. -/
def contentsAt (w : World) (at' : Location) : Bytes :=
  match w.storage.get? at' with
  | some (.file bytes) => bytes
  | _ => []

/-- The world with a file that holds the given bytes. -/
def setFile (w : World) (at' : Location) (bytes : Bytes) : World :=
  { w with storage := w.storage.set at' (.file bytes) }

/-- Read a file. -/
def read (path : Path) : StateM World (Except AccessError Bytes) := fun w =>
  match w.faults.read with
  | some e => (.error e, w)
  | none =>
    if path.contains '\x00' then (.error .nulInName, w)
    else (w.storage.contents path |>.mapError .system, w)

/-- Create a temporary file. -/
def create (directory : Path) : StateM World (Except AccessError Location) := fun w =>
  match w.faults.create with
  | some e => (.error e, w)
  | none =>
    if directory.contains '\x00' then (.error .nulInName, w)
    else
      match w.storage.freshIn directory with
      | .error e => (.error (.temporary (directory ++ '/' :: Storage.temporaryName 0) e), w)
      | .ok fresh => (.ok fresh, w.setFile fresh [])

/-- Add to a temporary file. -/
def write (temporary : Location) (bytes : Bytes) :
    StateM World (Except AccessError Unit) := fun w =>
  let old := w.contentsAt temporary
  match w.faults.room with
  | none => (.ok (), w.setFile temporary (old ++ bytes))
  | some (room, e) =>
    if bytes.length ≤ room then
      (.ok (), { w.setFile temporary (old ++ bytes) with
        faults := { w.faults with room := some (room - bytes.length, e) } })
    else
      (.error e, w.setFile temporary (old ++ bytes.take room))

/-- Make sure that a temporary file is stored. -/
def sync (_ : Location) : StateM World (Except AccessError Unit) := fun w =>
  match w.faults.sync with
  | some e => (.error e, w)
  | none => (.ok (), w)

/-- Put a temporary file in the place of what the path names. -/
def persist (temporary : Location) (path : Path) :
    StateM World (Except AccessError Unit) := fun w =>
  match w.faults.persist with
  | some e => (.error e, w)
  | none =>
    if path.contains '\x00' then (.error (.system .invalidArgument), w)
    else
      match w.storage.move temporary path with
      | .error e => (.error (.system e), w)
      | .ok storage => (.ok (), { w with storage })

/-- Remove a temporary file. -/
def discard (temporary : Location) : StateM World Unit := fun w =>
  ((), { w with storage := w.storage.erase temporary })

/-- Write to the standard output. -/
def print (pieces : List Bytes) : StateM World (Except AccessError Unit) := fun w =>
  let (result, output) := w.output.writeAll pieces
  (result, { w with output })

/-- Write a line to the standard error. -/
def complain (line : Text) : StateM World Unit := fun w =>
  ((), { w with complaints := line :: w.complaints })

/-- Keep an event. -/
def report (event : Event) : StateM World Unit := fun w =>
  ((), { w with events := event :: w.events })

/-- The host that works on a world. -/
def host : Host (StateM World) where
  Temporary := Location
  read := read
  create := create
  write := write
  sync := sync
  persist := persist
  discard := discard
  print := print
  complain := complain
  report := report

end World

end AsmFormat
