import InputDocs.Command.Directory

/-!
# Proofs.Command.Directory -- a directory is a lawful file system

A path that is found leads to a file that the directory holds (`Directory.mem_of_locate`). So
writing there keeps the names, on which alone it depends where paths lead, and the path still leads
to that file afterwards (`Directory.locate_write`). The file is told from the others by its name.
-/

namespace InputDocs.Command

set_option autoImplicit false

/-- A step that came after another succeeded only if that one did. -/
theorem exists_of_bind_eq_ok {ε α β : Type} {first : Except ε α} {next : α → Except ε β} {last : β}
    (done : first >>= next = .ok last) : ∃ found, first = .ok found ∧ next found = .ok last := by
  cases first with
  | error fault => cases done
  | ok found => exact ⟨found, rfl, done⟩

namespace Directory

variable {directory : Directory}

/-! ## Following paths -/

/-- If the place is a file the directory holds it. -/
def Place.Held (directory : Directory) : Place → Prop
  | .file name => name ∈ directory.files
  | .inside _ _ => True

/-- A part of a path leads to no file that the directory does not hold. -/
theorem held_of_follow {place next : Place} {part : String}
    (followed : directory.follow place part = .ok next) : next.Held directory := by
  cases place with
  | file name => cases followed
  | inside rooted parts =>
      simp only [follow] at followed
      split at followed
      · cases followed
        trivial
      split at followed
      · cases followed
        trivial
      split at followed
      · cases followed
      split at followed
      · rename_i held
        cases followed
        exact held
      split at followed <;> cases followed
      trivial

/-- Neither do all parts of a path. -/
theorem held_of_foldlM {place last : Place} {parts : List String} (held : place.Held directory)
    (followed : parts.foldlM directory.follow place = .ok last) : last.Held directory := by
  induction parts generalizing place with
  | nil =>
      cases followed
      exact held
  | cons part rest ih =>
      rw [List.foldlM_cons] at followed
      obtain ⟨next, step, later⟩ := exists_of_bind_eq_ok followed
      exact ih (held_of_follow step) later

/-- **A path that is found leads to a file of the directory.** -/
theorem mem_of_locate {path name : String} (located : directory.locate path = .ok name) :
    name ∈ directory.files := by
  simp only [locate] at located
  split at located
  · cases located
  split at located
  · cases located
  obtain ⟨last, followed, ends⟩ := exists_of_bind_eq_ok located
  have begins (rooted : Bool) : (Place.inside rooted []).Held directory := trivial
  have held : last.Held directory := held_of_foldlM (begins _) followed
  cases last with
  | inside rooted parts => cases ends
  | file found =>
      cases ends
      exact held

/-! ## Names -/

/-- Two directories that hold files under the same names. -/
def SameNames (first second : Directory) : Prop :=
  ∀ name, name ∈ first.files ↔ name ∈ second.files

namespace SameNames

variable {first second : Directory}

theorem follow_eq (same : SameNames first second) : first.follow = second.follow := by
  have keys (p : String → Bool) : first.files.keys.any p = second.files.keys.any p := by
    rw [Bool.eq_iff_iff, List.any_eq_true, List.any_eq_true]
    simp only [Std.ExtTreeMap.mem_keys, same _]
  funext place part
  cases place with
  | file name => rfl
  | inside rooted parts => simp only [follow, same _, keys]

/-- Where a path leads depends on the names of the files. -/
theorem locate_eq (same : SameNames first second) : first.locate = second.locate := by
  funext path
  rw [locate, locate, same.follow_eq]

end SameNames

/-- A write that succeeds puts the bytes at the name that the path leads to. -/
theorem write_eq_ok {path name : String} {bytes : ByteArray} {after : Directory}
    (located : directory.locate path = .ok name)
    (writes : directory.write path bytes = (after, .ok ())) :
    after = ⟨directory.files.insert name bytes⟩ := by
  rw [write, located] at writes
  cases writes
  rfl

/-- Bytes at a name that is held make no new name. -/
theorem sameNames_insert {name : String} (held : name ∈ directory.files) (bytes : ByteArray) :
    SameNames ⟨directory.files.insert name bytes⟩ directory := by
  intro other
  rw [Std.ExtTreeMap.mem_insert]
  constructor
  · rintro (same | among)
    · rwa [← Std.compare_eq_iff_eq.1 same]
    · exact among
  · exact .inr

/-- **Writing changes nowhere a path leads.** -/
theorem locate_write {path name : String} {bytes : ByteArray} {after : Directory}
    (located : directory.locate path = .ok name)
    (writes : directory.write path bytes = (after, .ok ())) : after.locate = directory.locate := by
  rw [write_eq_ok located writes]
  exact (sameNames_insert (mem_of_locate located) bytes).locate_eq

/-! ## Laws -/

theorem locate_eq_ok_iff {path name : String} :
    (directory.locate path).toOption = some name ↔ directory.locate path = .ok name := by
  cases directory.locate path <;> simp [Except.toOption]

instance : LawfulFileSystem Directory where
  read := read
  write := write
  File := String
  locate directory path := (directory.locate path).toOption
  bytes directory name := directory.files[name]?
  bytes_of_read {directory path found} reads := by
    obtain ⟨name, located, same⟩ := exists_of_bind_eq_ok reads
    refine ⟨name, locate_eq_ok_iff.2 located, ?_⟩
    cases same
    rw [Std.ExtTreeMap.getD_eq_getD_getElem?]
    obtain ⟨bytes, held⟩ := Option.isSome_iff_exists.1
      (Std.ExtTreeMap.mem_iff_isSome_getElem?.1 (mem_of_locate located))
    rw [held, Option.getD_some]
  locate_of_write located writes := by
    rw [locate_write (locate_eq_ok_iff.1 located) writes]
    exact located
  bytes_of_write {directory after path new name} located writes := by
    rw [write_eq_ok (locate_eq_ok_iff.1 located) writes]
    refine ⟨Std.ExtTreeMap.getElem?_insert_self, fun other apart => ?_⟩
    rw [Std.ExtTreeMap.getElem?_insert, if_neg]
    simpa using apart.symm

end Directory

end InputDocs.Command
