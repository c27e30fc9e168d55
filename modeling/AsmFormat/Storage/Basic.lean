import AsmFormat.Text.Utf8

/-!
# Files and directories

Storage is a finite map from locations to files and directories. A location is the list of names
that leads to it from the root, and the root is a directory. Paths that do not start at the root
start at the workplace.

`Storage.get?` is the view: each operation is described by what it does to it
(`Storage.get?_set`, `Storage.get?_erase`).
-/

set_option autoImplicit false

namespace AsmFormat

/-- The names that lead from the root to a file or directory. -/
abbrev Location := List Text

/-- What is stored at a location. -/
inductive Entry where
  | file (contents : Bytes)
  | directory
deriving DecidableEq

/-- Files and directories by location. -/
structure Storage where
  entries : List (Location × Entry) := []
  /-- Where relative paths start. -/
  workplace : Location := []
deriving DecidableEq

namespace Storage

/-- What is stored at the location. -/
def get? (s : Storage) (at' : Location) : Option Entry :=
  if at'.isEmpty then some .directory else s.entries.lookup at'

/-- The storage without what is at the location. -/
def erase (s : Storage) (at' : Location) : Storage :=
  { s with entries := s.entries.filter fun e => e.1 != at' }

/-- The storage with the given entry at the location. -/
def set (s : Storage) (at' : Location) (entry : Entry) : Storage :=
  { s with entries := (at', entry) :: (s.erase at').entries }

/-- The storage with the given entry at the location and directories on the way to it. -/
def store (s : Storage) (at' : Location) (entry : Entry) : Storage :=
  let parents := (List.range at'.length).map fun n => at'.take n
  (parents.foldl (fun s p => if (s.get? p).isSome then s else s.set p .directory) s).set at' entry

/-- The locations whose entries differ between two storages, with the new entry if there is one. -/
def changes (before after : Storage) : List (Location × Option Entry) :=
  let locations := (before.entries ++ after.entries).map Prod.fst
  let changed := locations.filter fun at' => before.get? at' != after.get? at'
  changed.eraseDups.map fun at' => (at', after.get? at')

/-- Looking up behind a filter that keeps the location. -/
theorem lookup_filter (at' : Location) (p : Location × Entry → Bool)
    (hp : ∀ e : Entry, p (at', e) = true) :
    ∀ entries : List (Location × Entry), (entries.filter p).lookup at' = entries.lookup at'
  | [] => rfl
  | (key, entry) :: rest => by
    by_cases hkey : at' = key
    · subst hkey
      simp [hp]
    · have hne : (at' == key) = false := by simpa using hkey
      by_cases hkept : p (key, entry) = true
      · simp [hkept, List.lookup_cons, hne, lookup_filter at' p hp rest]
      · simp [hkept, List.lookup_cons, hne, lookup_filter at' p hp rest]

/-- Nothing is found at a location that is filtered out. -/
theorem lookup_filter_ne (at' : Location) :
    ∀ entries : List (Location × Entry),
      (entries.filter fun e => e.1 != at').lookup at' = none
  | [] => rfl
  | (key, entry) :: rest => by
    by_cases hkey : key = at'
    · simp [hkey, lookup_filter_ne at' rest]
    · have hne : (at' == key) = false := by simpa using fun h => hkey h.symm
      simp [hkey, List.lookup_cons, hne, lookup_filter_ne at' rest]

/-- Erasing empties the location and nothing else. -/
theorem get?_erase (s : Storage) (at' other : Location) :
    (s.erase at').get? other =
      if other.isEmpty then some .directory else if other = at' then none else s.get? other := by
  by_cases hroot : other.isEmpty = true
  · simp [get?, hroot]
  · by_cases h : other = at'
    · subst h
      simp [get?, erase, hroot, lookup_filter_ne]
    · simp only [get?, erase, hroot, h, if_false, Bool.false_eq_true]
      exact lookup_filter other _ (fun _ => by simpa using h) s.entries

/-- Setting fills the location and nothing else. -/
theorem get?_set (s : Storage) (at' other : Location) (entry : Entry) :
    (s.set at' entry).get? other =
      if other.isEmpty then some .directory
      else if other = at' then some entry else s.get? other := by
  by_cases hroot : other.isEmpty = true
  · simp [get?, hroot]
  · by_cases h : other = at'
    · subst h
      simp [get?, set, hroot]
    · have hne : (other == at') = false := by simpa using h
      simp only [get?, set, erase, hroot, h, if_false, Bool.false_eq_true, List.lookup_cons, hne]
      exact lookup_filter other _ (fun _ => by simpa using h) s.entries

end Storage

end AsmFormat
