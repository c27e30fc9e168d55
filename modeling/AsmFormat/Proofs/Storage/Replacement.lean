import AsmFormat.Storage.Lookup

/-!
# A file in the place of another

A new file is written where nothing was and then moved to where a path says. Removing the new file
gives back the storage as it was (`erase_set_of_get?_eq_none`), and moving it changes the storage at
the location of the path and nowhere else (`exists_destination_of_move`).

A path to which a file was moved leads to the file afterwards (`contents_eq_of_destination`). The
directories on the way are still there, since a file takes the place of no directory.
-/

set_option autoImplicit false

namespace AsmFormat.Storage

variable {s t : Storage} {at' to' : Location} {p : Path}

/-! ## Adding and removing a file -/

theorem erase_of_get?_eq_none (h : s.get? at' = none) : s.erase at' = s := by
  rw [get?] at h
  split at h
  · exact absurd h (by simp)
  · -- no entry has the location, so the filter keeps them all
    rw [List.lookup_eq_none_iff] at h
    have hkeep : s.entries.filter (fun e => e.1 != at') = s.entries := by
      rw [List.filter_eq_self]
      intro e he
      rw [bne_iff_ne]
      intro hsame
      exact bne_iff_ne.1 (h e he) hsame.symm
    rw [erase, hkeep]

theorem erase_set (s : Storage) (at' : Location) (entry : Entry) :
    (s.set at' entry).erase at' = s.erase at' := by
  simp [set, erase]

theorem set_set (s : Storage) (at' : Location) (first second : Entry) :
    (s.set at' first).set at' second = s.set at' second := by
  rw [set, erase_set]
  rfl

/-- A file that is removed from where nothing was leaves no trace. -/
theorem erase_set_of_get?_eq_none (h : s.get? at' = none) (entry : Entry) :
    (s.set at' entry).erase at' = s := by
  rw [erase_set, erase_of_get?_eq_none h]

theorem get?_set_self (s : Storage) (hat : at' ≠ []) (entry : Entry) :
    (s.set at' entry).get? at' = some entry := by
  rw [get?_set, if_neg (by simpa using hat), if_pos rfl]

theorem get?_set_of_ne (s : Storage) {other : Location} (hother : other ≠ at') (entry : Entry) :
    (s.set at' entry).get? other = s.get? other := by
  rw [get?_set, if_neg hother]
  split
  · next hroot => rw [get?, if_pos hroot]
  · rfl

/-- Nothing is where a temporary file is made. -/
theorem get?_of_freshIn {directory : Path} (h : s.freshIn directory = .ok at') :
    s.get? at' = none := by
  unfold freshIn at h
  cases hname : requireName (s.fromRoot directory ++ '/' :: temporaryName 0) with
  | error e => rw [hname] at h; cases h
  | ok _ =>
    rw [hname] at h
    cases hfind : s.find directory with
    | error e => rw [hfind] at h; cases h
    | ok d =>
      rw [hfind] at h
      simp only [bind, Except.bind] at h
      split at h
      · cases h
      · split at h
        · next fresh hfresh =>
          cases h
          simpa using List.find?_some hfresh
        · cases h

/-! ## Where a file is moved to -/

/-- What is known of a location to which a path sends a file: it is a name in a directory to which
the names before it lead, and no directory is there. -/
structure Receives (s : Storage) (p : Path) (directory : Location) (name : Text) : Prop where
  requireName : requireName p = .ok ()
  walk : p.names.dropLast.foldlM s.enter (s.start p) = .ok directory
  last : p.names.getLast? = some name
  isDirectory : s.get? directory = some .directory
  noDots : ¬(name = ['.'] ∨ name = ['.', '.'])
  short : ¬nameLimit < name.utf8.length
  noSlash : p.endsInSlash = false
  free : s.get? (directory ++ [name]) ≠ some .directory

theorem exists_receives (h : s.destination p = .ok to') :
    ∃ directory name, s.Receives p directory name ∧ to' = directory ++ [name] := by
  unfold destination at h
  cases hname : requireName p with
  | error e => rw [hname] at h; cases h
  | ok _ =>
    rw [hname] at h
    cases hwalk : p.names.dropLast.foldlM s.enter (s.start p) with
    | error e => rw [hwalk] at h; cases h
    | ok directory =>
      rw [hwalk] at h
      simp only [bind, Except.bind] at h
      split at h
      · cases h
      · cases h
      · cases h
      · next name hlast hdir =>
        split at h
        · cases h
        · next hdots =>
          split at h
          · cases h
          · next hshort =>
            split at h
            · cases h
            · next hslash =>
              split at h
              · cases h
              · next hfree =>
                cases h
                exact ⟨directory, name,
                  ⟨hname, hwalk, hlast, hdir, hdots, hshort, by simpa using hslash, hfree⟩, rfl⟩

theorem Receives.names_eq {directory : Location} {name : Text} (h : s.Receives p directory name) :
    p.names = p.names.dropLast ++ [name] := by
  obtain ⟨names, hnames⟩ := List.getLast?_eq_some_iff.1 h.last
  rw [hnames, List.dropLast_concat]

/-- A file is moved to where the names of the path say. -/
theorem locate_of_destination (h : s.destination p = .ok to') : to' = s.locate p := by
  obtain ⟨directory, name, hreceives, rfl⟩ := exists_receives h
  obtain ⟨hdot, hdots⟩ := not_or.1 hreceives.noDots
  rw [locate, hreceives.names_eq, List.foldl_append,
    ← foldlM_enter_eq_foldl_follow hreceives.walk]
  simp [follow, hdot, hdots]

theorem ne_nil_of_destination (h : s.destination p = .ok to') : to' ≠ [] := by
  obtain ⟨directory, name, -, rfl⟩ := exists_receives h
  simp

/-- A file that was moved is where the path says, and what else there was is as before. -/
theorem exists_destination_of_move {file : Location} (h : s.move file p = .ok t) :
    ∃ entry, s.get? file = some entry ∧ s.destination p = .ok (s.locate p) ∧
      t = (s.erase file).set (s.locate p) entry := by
  unfold move at h
  cases hto : s.destination p with
  | error e => rw [hto] at h; cases h
  | ok to' =>
    obtain rfl := locate_of_destination hto
    rw [hto] at h
    simp only [bind, Except.bind] at h
    split at h
    · next entry hentry =>
      cases h
      exact ⟨entry, hentry, rfl, rfl⟩
    · cases h

/-! ## Finding the file again -/

/-- The directories of the first storage are directories of the second one. -/
structure KeepsDirectories (s t : Storage) : Prop where
  workplace : t.workplace = s.workplace
  directory : ∀ d, s.get? d = some .directory → t.get? d = some .directory

/-- What a name is looked up in is a directory. -/
theorem isDirectory_of_enter {name : Text} (h : s.enter at' name = .ok to') :
    s.get? at' = some .directory := by
  unfold enter at h
  split at h
  · cases h
  · cases h
  · next hdir => exact hdir

/-- A name that leads to a directory leads to it wherever directories are kept. -/
theorem KeepsDirectories.enter (hkeeps : KeepsDirectories s t) {name : Text}
    (h : s.enter at' name = .ok to') (hto : s.get? to' = some .directory) :
    t.enter at' name = .ok to' := by
  have hdir := hkeeps.directory at' (isDirectory_of_enter h)
  have hfollow : to' = follow at' name := enter_eq_follow h
  have hthere := hkeeps.directory to' hto
  unfold Storage.enter at h ⊢
  rw [isDirectory_of_enter (by unfold Storage.enter; exact h)] at h
  rw [hdir]
  simp only at h ⊢
  split at h
  · next hdots => rw [if_pos hdots, hfollow]
  · next hdots =>
    rw [if_neg hdots]
    split at h
    · cases h
    · next hshort =>
      rw [if_neg hshort, ← hfollow, hthere]
      rfl

/-- Names that lead to a directory start from one. -/
theorem isDirectory_of_walk {names : List Text} (h : names.foldlM s.enter at' = .ok to')
    (hto : s.get? to' = some .directory) : s.get? at' = some .directory := by
  cases names with
  | nil =>
    cases h
    exact hto
  | cons name names =>
    rw [List.foldlM_cons] at h
    cases hname : s.enter at' name with
    | error e => rw [hname] at h; cases h
    | ok next => exact isDirectory_of_enter hname

/-- Names that lead to a directory lead to it wherever directories are kept. -/
theorem KeepsDirectories.walk (hkeeps : KeepsDirectories s t) {names : List Text}
    (h : names.foldlM s.enter at' = .ok to') (hto : s.get? to' = some .directory) :
    names.foldlM t.enter at' = .ok to' := by
  induction names generalizing at' with
  | nil => exact h
  | cons name names ih =>
    rw [List.foldlM_cons] at h ⊢
    cases hname : s.enter at' name with
    | error e => rw [hname] at h; cases h
    | ok next =>
      rw [hname] at h
      have hnext : s.get? next = some .directory := isDirectory_of_walk h hto
      rw [hkeeps.enter hname hnext]
      exact ih h

/-- A path that may receive a file leads to the file once it is there. -/
theorem contents_eq_of_destination (h : s.destination p = .ok to') (hkeeps : KeepsDirectories s t)
    {bytes : Bytes} (hfile : t.get? to' = some (.file bytes)) : t.contents p = .ok bytes := by
  obtain ⟨directory, name, hreceives, rfl⟩ := exists_receives h
  have hstart : t.start p = s.start p := by
    rw [start, start, hkeeps.workplace]
  have hdir := hkeeps.directory directory hreceives.isDirectory
  have hwalk := hkeeps.walk hreceives.walk hreceives.isDirectory
  obtain ⟨hdot, hdots⟩ := not_or.1 hreceives.noDots
  have hfollow : follow directory name = directory ++ [name] := by
    simp [follow, hdot, hdots]
  have henter : t.enter directory name = .ok (directory ++ [name]) := by
    rw [Storage.enter, hdir]
    simp only [if_neg hreceives.noDots, if_neg hreceives.short, hfollow, hfile]
    rfl
  have hfind : t.find p = .ok (directory ++ [name]) := by
    rw [find, hreceives.requireName, hreceives.names_eq, List.foldlM_append, hstart, hwalk]
    simp only [bind, Except.bind, List.foldlM_cons, List.foldlM_nil, henter, pure, Except.pure,
      hreceives.noSlash]
    rfl
  rw [contents, hfind]
  simp only [bind, Except.bind, hfile]

/-- A path to which a file was moved leads to the file. -/
theorem contents_of_move {file : Location} {bytes : Bytes} (h : s.move file p = .ok t)
    (hfile : s.get? file = some (.file bytes)) : t.contents p = .ok bytes := by
  obtain ⟨entry, hentry, hto, rfl⟩ := exists_destination_of_move h
  obtain rfl : .file bytes = entry := Option.some.inj (hfile.symm.trans hentry)
  obtain ⟨directory, name, hreceives, hlocate⟩ := exists_receives hto
  have hfree : s.get? (s.locate p) ≠ some .directory := by
    rw [hlocate]
    exact hreceives.free
  -- neither the file nor what it replaces is a directory
  have hkeeps : KeepsDirectories s ((s.erase file).set (s.locate p) (.file bytes)) := by
    refine ⟨rfl, ?_⟩
    intro d hd
    have hto' : d ≠ s.locate p := by
      rintro rfl
      exact hfree hd
    have hfrom : d ≠ file := by
      rintro rfl
      rw [hfile] at hd
      exact absurd hd (by simp)
    rw [get?_set_of_ne _ hto', get?_erase, if_neg hfrom, hd, ite_self]
  exact contents_eq_of_destination hto hkeeps (get?_set_self _ (ne_nil_of_destination hto) _)

end AsmFormat.Storage
