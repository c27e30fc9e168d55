import AsmFormat.World
import AsmFormat.Proofs.Storage.Replacement
import AsmFormat.Proofs.World.Sinks

/-!
# What requests do to a world

Each request is described by its outcomes: why it may fail, and what the storage is afterwards. A
file is replaced as a whole, or the storage is as it was (`replaceFile_cases`), whichever of the
steps fails. The standard output takes what is printed in order (`delivered_print`).

Complaints and events have no influence on any request. `SameFiles` relates worlds that differ in
them only, and `Respects` says that a request makes no difference between such worlds.
-/

set_option autoImplicit false

namespace AsmFormat

namespace World

variable {w w' : World}

/-- One request after the other. -/
theorem bind_apply {α β : Type} (x : StateM World α) (f : α → StateM World β) (w : World) :
    (x >>= f) w = f (x w).1 (x w).2 := rfl

/-! ## Requests and notes -/

/-- The second world differs from the first one in its complaints and events only. -/
structure SameFiles (w w' : World) : Prop where
  storage : w'.storage = w.storage
  output : w'.output = w.output
  faults : w'.faults = w.faults

theorem SameFiles.refl (w : World) : SameFiles w w :=
  ⟨rfl, rfl, rfl⟩

theorem SameFiles.trans {w'' : World} (h : SameFiles w w') (h' : SameFiles w' w'') :
    SameFiles w w'' :=
  ⟨h'.storage.trans h.storage, h'.output.trans h.output, h'.faults.trans h.faults⟩

/-- A request that makes no difference between worlds with the same files. -/
def Respects {α : Type} (x : StateM World α) : Prop :=
  ∀ w w' : World, SameFiles w w' → (x w').1 = (x w).1 ∧ SameFiles (x w).2 (x w').2

namespace Respects

variable {α β : Type} {x : StateM World α} {f : α → StateM World β}

theorem pure (a : α) : Respects (Pure.pure a : StateM World α) :=
  fun _ _ h => ⟨rfl, h⟩

theorem bind (hx : Respects x) (hf : ∀ a, Respects (f a)) : Respects (x >>= f) := by
  intro w w' h
  obtain ⟨hresult, hfiles⟩ := hx w w' h
  rw [bind_apply, bind_apply, hresult]
  exact hf _ _ _ hfiles

theorem read (path : Path) : Respects (World.read path) := by
  intro w w' h
  unfold World.read
  rw [h.faults, h.storage]
  split
  · exact ⟨rfl, h⟩
  · split
    · exact ⟨rfl, h⟩
    · exact ⟨rfl, h⟩

theorem setFile (h : SameFiles w w') (at' : Location) (bytes : Bytes) :
    SameFiles (w.setFile at' bytes) (w'.setFile at' bytes) :=
  ⟨congrArg (fun s : Storage => s.set at' (.file bytes)) h.storage, h.output, h.faults⟩

theorem create (directory : Path) : Respects (World.create directory) := by
  intro w w' h
  unfold World.create
  rw [h.faults, h.storage]
  split
  · exact ⟨rfl, h⟩
  · split
    · exact ⟨rfl, h⟩
    · split
      · exact ⟨rfl, h⟩
      · exact ⟨rfl, setFile h _ _⟩

theorem write (temporary : Location) (bytes : Bytes) :
    Respects (World.write temporary bytes) := by
  intro w w' h
  have hold : w'.contentsAt temporary = w.contentsAt temporary := by
    rw [contentsAt, contentsAt, h.storage]
  unfold World.write
  rw [hold, h.faults]
  split
  · exact ⟨rfl, setFile h _ _⟩
  · split
    · exact ⟨rfl, (setFile h _ _).storage, h.output, rfl⟩
    · exact ⟨rfl, setFile h _ _⟩

theorem sync (temporary : Location) : Respects (World.sync temporary) := by
  intro w w' h
  unfold World.sync
  rw [h.faults]
  split
  · exact ⟨rfl, h⟩
  · exact ⟨rfl, h⟩

theorem persist (temporary : Location) (path : Path) :
    Respects (World.persist temporary path) := by
  intro w w' h
  unfold World.persist
  rw [h.faults, h.storage]
  split
  · exact ⟨rfl, h⟩
  · split
    · exact ⟨rfl, h⟩
    · split
      · exact ⟨rfl, h⟩
      · exact ⟨rfl, rfl, h.output, rfl⟩

theorem discard (temporary : Location) : Respects (World.discard temporary) :=
  fun _ _ h => ⟨rfl, congrArg (fun s : Storage => s.erase temporary) h.storage, h.output, h.faults⟩

theorem print (pieces : List Bytes) : Respects (World.print pieces) := by
  intro w w' h
  unfold World.print
  rw [h.output]
  exact ⟨rfl, h.storage, rfl, h.faults⟩

theorem fill (temporary : Location) (path : Path) (contents : Bytes) :
    Respects (World.host.fill temporary path contents) := by
  refine bind (write temporary contents) fun written => ?_
  cases written with
  | error e => exact pure _
  | ok _ =>
    refine bind (sync temporary) fun synced => ?_
    cases synced with
    | error e => exact pure _
    | ok _ => exact persist temporary path

theorem replaceFile (path : Path) (contents : Bytes) :
    Respects (World.host.replaceFile path contents) := by
  refine bind (create path.parent) fun created => ?_
  cases created with
  | error e => exact pure _
  | ok temporary =>
    refine bind (fill temporary path contents) fun filled => ?_
    cases filled with
    | error e => exact bind (discard temporary) fun _ => pure _
    | ok _ => exact pure _

end Respects

/-! ## Reading and printing -/

/-- Reading leaves the world as it is. -/
theorem exists_read_eq (path : Path) (w : World) :
    ∃ result, World.read path w = (result, w) := by
  unfold World.read
  split
  · exact ⟨_, rfl⟩
  · split
    · exact ⟨_, rfl⟩
    · exact ⟨_, rfl⟩

/-- What is read is what the storage has. -/
theorem contents_of_read {path : Path} {bytes : Bytes}
    (h : (World.read path w).1 = .ok bytes) : w.storage.contents path = .ok bytes := by
  unfold World.read at h
  split at h
  · cases h
  · split at h
    · cases h
    · cases hcontents : w.storage.contents path with
      | error e => rw [hcontents] at h; cases h
      | ok found => rw [hcontents] at h; cases h; rfl

theorem delivered_print (pieces : List Bytes) (h : (World.print pieces w).1 = .ok ()) :
    (World.print pieces w).2.output.delivered = w.output.delivered ++ pieces.flatten :=
  Sink.delivered_writeAll h

theorem storage_print (pieces : List Bytes) (w : World) :
    (World.print pieces w).2.storage = w.storage := rfl

/-! ## Replacing a file -/

section Replacing

variable {s : Storage} {temporary : Location}

theorem create_cases (directory : Path) (w : World) :
    (∃ e, World.create directory w = (.error e, w)) ∨
      ∃ fresh, w.storage.get? fresh = none ∧
        World.create directory w = (.ok fresh, w.setFile fresh []) := by
  unfold World.create
  split
  · exact Or.inl ⟨_, rfl⟩
  · split
    · exact Or.inl ⟨_, rfl⟩
    · split
      · exact Or.inl ⟨_, rfl⟩
      · next fresh hfresh => exact Or.inr ⟨fresh, Storage.get?_of_freshIn hfresh, rfl⟩

/-- A temporary file holds what was written to it, or a part of it if there was no room. -/
theorem write_cases (contents : Bytes) (htemporary : temporary ≠ [])
    (hw : w.storage = s.set temporary (.file [])) :
    (∃ e w' part, World.write temporary contents w = (.error e, w') ∧
        w'.storage = s.set temporary (.file part)) ∨
      ∃ w', World.write temporary contents w = (.ok (), w') ∧
        w'.storage = s.set temporary (.file contents) := by
  have hempty : w.contentsAt temporary = [] := by
    rw [contentsAt, hw, Storage.get?_set_self s htemporary]
  have hset (bytes : Bytes) : (w.setFile temporary bytes).storage =
      s.set temporary (.file bytes) := by
    rw [setFile, hw, Storage.set_set]
  unfold World.write
  rw [hempty]
  split
  · exact Or.inr ⟨_, rfl, hset contents⟩
  · next room e hroom =>
    split
    · exact Or.inr ⟨_, rfl, hset contents⟩
    · exact Or.inl ⟨e, _, contents.take room, rfl, hset (contents.take room)⟩

theorem sync_cases (temporary : Location) (w : World) :
    (∃ e, World.sync temporary w = (.error e, w)) ∨ World.sync temporary w = (.ok (), w) := by
  unfold World.sync
  split
  · exact Or.inl ⟨_, rfl⟩
  · exact Or.inr rfl

theorem persist_cases (temporary : Location) (path : Path) (w : World) :
    (∃ e, World.persist temporary path w = (.error e, w)) ∨
      ∃ storage, w.storage.move temporary path = .ok storage ∧
        World.persist temporary path w = (.ok (), { w with storage }) := by
  unfold World.persist
  split
  · exact Or.inl ⟨_, rfl⟩
  · split
    · exact Or.inl ⟨_, rfl⟩
    · split
      · exact Or.inl ⟨_, rfl⟩
      · next storage hmove => exact Or.inr ⟨storage, hmove, rfl⟩

/-- A temporary file that is filled takes its place, or it is still all that is new. -/
theorem fill_cases (path : Path) (contents : Bytes) (hfree : s.get? temporary = none)
    (hw : w.storage = s.set temporary (.file [])) :
    (∃ e w' part, World.host.fill temporary path contents w = (.error e, w') ∧
        w'.storage = s.set temporary (.file part)) ∨
      ∃ w', World.host.fill temporary path contents w = (.ok (), w') ∧
        w'.storage = s.set (s.locate path) (.file contents) ∧
        w'.storage.contents path = .ok contents := by
  have htemporary : temporary ≠ [] := by
    rintro rfl
    exact absurd hfree (by simp [Storage.get?])
  rcases write_cases contents htemporary hw with
    ⟨e, w₁, part, hwrite, hw₁⟩ | ⟨w₁, hwrite, hw₁⟩
  · refine Or.inl ⟨e, w₁, part, ?_, hw₁⟩
    simp only [Host.fill, bind, StateT.bind, host, hwrite]
    rfl
  · rcases sync_cases temporary w₁ with ⟨e, hsync⟩ | hsync
    · refine Or.inl ⟨e, w₁, contents, ?_, hw₁⟩
      simp only [Host.fill, bind, StateT.bind, host, hwrite, hsync]
      rfl
    · have hfill : World.host.fill temporary path contents w =
          World.persist temporary path w₁ := by
        simp only [Host.fill, bind, StateT.bind, host, hwrite, hsync]
      rw [hfill]
      rcases persist_cases temporary path w₁ with ⟨e, hpersist⟩ | ⟨storage, hmove, hpersist⟩
      · exact Or.inl ⟨e, w₁, contents, hpersist, hw₁⟩
      · have hfile : w₁.storage.get? temporary = some (.file contents) := by
          rw [hw₁, Storage.get?_set_self s htemporary]
        refine Or.inr ⟨_, hpersist, ?_, Storage.contents_of_move hmove hfile⟩
        obtain ⟨entry, hentry, -, hstorage⟩ := Storage.exists_destination_of_move hmove
        obtain rfl : .file contents = entry := Option.some.inj (hfile.symm.trans hentry)
        -- the temporary file is gone, and its place was empty before
        have herase : w₁.storage.erase temporary = s := by
          rw [hw₁, Storage.erase_set_of_get?_eq_none hfree]
        have hlocate : w₁.storage.locate path = s.locate path := by
          rw [hw₁]
          rfl
        rw [hstorage, herase, hlocate]

/-- A file is replaced as a whole, or the storage is as it was. -/
theorem replaceFile_cases (path : Path) (contents : Bytes) (w : World) :
    (∃ e w', World.host.replaceFile path contents w = (.error e, w') ∧
        w'.storage = w.storage) ∨
      ∃ w', World.host.replaceFile path contents w = (.ok (), w') ∧
        w'.storage = w.storage.set (w.storage.locate path) (.file contents) ∧
        w'.storage.contents path = .ok contents := by
  rcases create_cases path.parent w with ⟨e, hcreate⟩ | ⟨fresh, hfree, hcreate⟩
  · refine Or.inl ⟨e, w, ?_, rfl⟩
    simp only [Host.replaceFile, bind, StateT.bind, host, hcreate]
    rfl
  · have hnew : (w.setFile fresh []).storage = w.storage.set fresh (.file []) := rfl
    have hcreate' : World.host.create path.parent w = (.ok fresh, w.setFile fresh []) := hcreate
    rcases fill_cases path contents hfree hnew with
      ⟨e, w₁, part, hfill, hw₁⟩ | ⟨w₁, hfill, hw₁, hcontents⟩
    · -- what was written so far is discarded
      refine Or.inl ⟨e, { w₁ with storage := w₁.storage.erase fresh }, ?_, ?_⟩
      · simp only [Host.replaceFile, bind, StateT.bind, hcreate', hfill]
        rfl
      · rw [hw₁, Storage.erase_set_of_get?_eq_none hfree]
    · refine Or.inr ⟨w₁, ?_, hw₁, hcontents⟩
      simp only [Host.replaceFile, bind, StateT.bind, hcreate', hfill]
      rfl

end Replacing

end World

end AsmFormat
