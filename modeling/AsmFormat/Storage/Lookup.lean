import AsmFormat.Failure
import AsmFormat.Storage.Basic

/-!
# Looking up paths

A path is a list of names with slashes between them, read from the root if it starts with a slash
and from the workplace otherwise. One dot names the directory itself and two dots the one above it.
Each name but the last has to lead to a directory, and so has the last if a slash follows it.

- `Storage.locate` is the location of a path by its names alone, and `Storage.find` the same
  location if each of the names leads on (`Storage.find_eq_locate`).
- `Storage.contents` is the contents of the file that a path names.
- `Storage.freshIn` is the location of a new temporary file in a directory.
- `Storage.move` puts a file where a path says, in the place of a file that may be there.
-/

set_option autoImplicit false

namespace AsmFormat

namespace Storage

/-- The longest name, in bytes. -/
def nameLimit : Nat := 255

/-- The shortest path that is too long, in bytes. -/
def pathLimit : Nat := 4096

/-- The location of a name seen from a directory, by the name alone. -/
def follow (at' : Location) (name : Text) : Location :=
  if name = ['.'] then at'
  else if name = ['.', '.'] then at'.dropLast
  else at' ++ [name]

/-- The location of a name in the directory at a location. -/
def enter (s : Storage) (at' : Location) (name : Text) : Except SystemError Location :=
  match s.get? at' with
  | none => .error .notFound
  | some (.file _) => .error .notADirectory
  | some .directory =>
    if name = ['.'] ∨ name = ['.', '.'] then .ok (follow at' name)
    else if nameLimit < name.utf8.length then .error .nameTooLong
    else if (s.get? (follow at' name)).isSome then .ok (follow at' name)
    else .error .notFound

/-- Where the names of a path start. -/
def start (s : Storage) (p : Path) : Location :=
  if p.isAbsolute then [] else s.workplace

/-- The location of a path, by its names alone. -/
def locate (s : Storage) (p : Path) : Location :=
  p.names.foldl follow (s.start p)

/-- Refuse paths that name nothing. -/
def requireName (p : Path) : Except SystemError Unit :=
  if p.isEmpty then .error .notFound
  else if pathLimit ≤ p.utf8.length then .error .nameTooLong
  else .ok ()

/-- The location that a path names. -/
def find (s : Storage) (p : Path) : Except SystemError Location := do
  requireName p
  let at' ← p.names.foldlM s.enter (s.start p)
  if p.endsInSlash && s.get? at' != some .directory then .error .notADirectory else .ok at'

/-- A name that leads on leads where the name alone says. -/
theorem enter_eq_follow {s : Storage} {at' to' : Location} {name : Text}
    (h : s.enter at' name = .ok to') : to' = follow at' name := by
  unfold enter at h
  split at h
  · cases h
  · cases h
  · split at h
    · cases h; rfl
    · split at h
      · cases h
      · split at h
        · cases h; rfl
        · cases h

/-- Names that lead on lead where the names alone say. -/
theorem foldlM_enter_eq_foldl_follow {s : Storage} :
    ∀ {names : List Text} {at' to' : Location},
      names.foldlM s.enter at' = .ok to' → to' = names.foldl follow at'
  | [], _, _, h => by cases h; rfl
  | name :: names, at', to', h => by
    rw [List.foldlM_cons] at h
    cases hname : s.enter at' name with
    | error e => rw [hname] at h; cases h
    | ok next =>
      rw [hname] at h
      rw [List.foldl_cons, ← enter_eq_follow hname]
      exact foldlM_enter_eq_foldl_follow h

/-- A path that is found is found where its names say. -/
theorem find_eq_locate {s : Storage} {p : Path} {at' : Location} (h : s.find p = .ok at') :
    at' = s.locate p := by
  unfold find at h
  cases hname : requireName p with
  | error e => rw [hname] at h; cases h
  | ok _ =>
    rw [hname] at h
    cases hnames : p.names.foldlM s.enter (s.start p) with
    | error e => rw [hnames] at h; cases h
    | ok to' =>
      rw [hnames] at h
      have hto : to' = s.locate p := foldlM_enter_eq_foldl_follow hnames
      simp only [bind, Except.bind] at h
      split at h
      · cases h
      · cases h; exact hto

/-- The contents of the file that a path names. -/
def contents (s : Storage) (p : Path) : Except SystemError Bytes := do
  let at' ← s.find p
  match s.get? at' with
  | some (.file bytes) => .ok bytes
  | some .directory => .error .isADirectory
  | none => .error .notFound

/-- The name of a temporary file: at least six digits behind a fixed start. -/
def temporaryName (n : Nat) : Text :=
  let digits := Nat.toDigits 10 n
  ".tmp".toList ++ List.replicate (6 - digits.length) '0' ++ digits

/-- A path written from the root. -/
def fromRoot (s : Storage) (p : Path) : Path :=
  if p.isAbsolute then p else '/' :: ['/'].intercalate (s.workplace ++ [p])

/-- The location of a temporary file that does not exist yet, in the directory that a path
names. The file is named from the root, so that it can be found again from any workplace. -/
def freshIn (s : Storage) (directory : Path) : Except SystemError Location := do
  requireName (s.fromRoot directory ++ '/' :: temporaryName 0)
  let at' ← s.find directory
  if s.get? at' != some .directory then .error .notADirectory
  else
    let candidates := (List.range (s.entries.length + 1)).map fun n => at' ++ [temporaryName n]
    match candidates.find? fun c => (s.get? c).isNone with
    | some fresh => .ok fresh
    | none => .error .alreadyExists

/-- The location to which a path sends a file that is moved. -/
def destination (s : Storage) (p : Path) : Except SystemError Location := do
  requireName p
  let at' ← p.names.dropLast.foldlM s.enter (s.start p)
  match p.names.getLast?, s.get? at' with
  | none, _ => .error .busy
  | _, none => .error .notFound
  | _, some (.file _) => .error .notADirectory
  | some name, some .directory =>
    if name = ['.'] ∨ name = ['.', '.'] then .error .busy
    else if nameLimit < name.utf8.length then .error .nameTooLong
    else if p.endsInSlash then .error .notADirectory
    else if s.get? (at' ++ [name]) = some .directory then .error .isADirectory
    else .ok (at' ++ [name])

/-- The storage with the file moved to where the path says. -/
def move (s : Storage) (file : Location) (p : Path) : Except SystemError Storage := do
  let to' ← s.destination p
  match s.get? file with
  | some entry => .ok ((s.erase file).set to' entry)
  | none => .error .notFound

end Storage

end AsmFormat
