import DashboardCompiler.Proofs.Except
import DashboardCompiler.Storage.FileTree

/-!
# Storing files

Where a path leads depends on its parts alone, if it leads anywhere, and a tree with more directories lets it through
as well. So directories may be made on the way without moving what is there: storing a file sets the file at one place
and leaves what is at all others.
-/

namespace DashboardCompiler.FileTree

/-! ## Places -/

/-- Where parts lead from a place, whatever is there. -/
def destination (here : Place) (parts : List String) : Place :=
  parts.foldl (fun here part => if part = ".." then here.dropLast else here ++ [part]) here

theorem destination_append (here : Place) (parts more : List String) :
    destination here (parts ++ more) = destination (destination here parts) more := List.foldl_append

/-- Parts that do not go up are the names below a place. -/
theorem destination_down (here : Place) {parts : List String} (h : ".." ∉ parts) :
    destination here parts = here ++ parts := by
  induction parts generalizing here with
  | nil => exact (List.append_nil here).symm
  | cons part parts ih =>
    obtain ⟨hpart, hparts⟩ := not_or.1 (mt List.mem_cons.2 h)
    rw [destination, List.foldl_cons, if_neg (Ne.symm hpart), ← destination, ih _ hparts, List.append_assoc]
    rfl

variable {t next : FileTree} {here place : Place} {p : Path}

theorem follow_ok {parts : List String} (h : t.follow here parts = .ok place) : place = destination here parts := by
  induction parts generalizing here with
  | nil => exact (Except.ok.inj h).symm
  | cons part parts ih =>
    unfold follow at h
    split at h
    · split at h
      · cases h
      · exact ih h
    · split at h <;> cases h

theorem placeOf_ok (h : t.placeOf p = .ok place) : place = destination (t.start p) p.parts := by
  unfold placeOf at h
  split at h
  · cases h
  · split at h
    · cases h
    · exact follow_ok h

/-! ## More directories -/

/-- What can be read at a place. -/
def storedAt? (t : FileTree) (place : Place) : Option StoredFile :=
  if t.isDirectoryAt place then none else t.fileAt? place

/-- All directories are still there, and maybe further ones. -/
structure Keeps (t next : FileTree) : Prop where
  workingDirectory : next.workingDirectory = t.workingDirectory
  directories : ∀ place, t.isDirectoryAt place = true → next.isDirectoryAt place = true

/-- A tree with the same files, and maybe further directories. -/
structure Grows (t next : FileTree) : Prop extends Keeps t next where
  stored : ∀ place, next.storedAt? place = t.storedAt? place

theorem Keeps.refl (t : FileTree) : Keeps t t := ⟨rfl, fun _ h => h⟩

theorem Keeps.trans {last : FileTree} (h : Keeps t next) (h' : Keeps next last) : Keeps t last :=
  ⟨h'.workingDirectory.trans h.workingDirectory, fun place hplace => h'.directories place (h.directories place hplace)⟩

theorem Grows.trans {last : FileTree} (h : Grows t next) (h' : Grows next last) : Grows t last :=
  ⟨h.toKeeps.trans h'.toKeeps, fun place => (h'.stored place).trans (h.stored place)⟩

theorem Keeps.start_eq (h : Keeps t next) (p : Path) : next.start p = t.start p := by
  rw [start, start, h.workingDirectory]

theorem Keeps.follow (hkeeps : Keeps t next) {parts : List String} (h : t.follow here parts = .ok place) :
    next.follow here parts = .ok place := by
  induction parts generalizing here with
  | nil => exact h
  | cons part parts ih =>
    unfold FileTree.follow at h ⊢
    split at h
    · rename_i hhere
      rw [if_pos (hkeeps.directories here hhere)]
      split at h
      · cases h
      · rename_i hshort
        rw [if_neg hshort]
        exact ih h
    · split at h <;> cases h

/-- Nothing that could be reached gets lost. -/
theorem Keeps.placeOf (hkeeps : Keeps t next) (h : t.placeOf p = .ok place) : next.placeOf p = .ok place := by
  unfold FileTree.placeOf at h ⊢
  split at h
  · cases h
  · rename_i hnull
    rw [if_neg hnull]
    split at h
    · cases h
    · rename_i hshort
      rw [if_neg hshort, hkeeps.start_eq]
      exact hkeeps.follow h

theorem grows_makeDirectory (h : t.makeDirectory p = .ok next) : Grows t next := by
  obtain ⟨place, -, h⟩ := bind_ok_iff.1 h
  split at h
  · cases h
  · rename_i hfree
    cases h
    rw [Bool.or_eq_true, not_or, Bool.not_eq_true, Option.not_isSome_iff_eq_none] at hfree
    have hadded (other : Place) : isDirectoryAt { t with directories := t.directories ++ [place] } other =
        (t.isDirectoryAt other || decide (other = place)) := by
      simp [isDirectoryAt, Bool.or_assoc]
    refine ⟨⟨rfl, fun other hother => by rw [hadded, hother, Bool.true_or]⟩, fun other => ?_⟩
    by_cases hother : other = place
    · -- There was nothing at the new place, so there still is nothing to be read.
      rw [storedAt?, storedAt?, hadded, hother, hfree.1, hfree.2, decide_eq_true rfl]
      rfl
    · rw [storedAt?, storedAt?, hadded, decide_eq_false hother, Bool.or_false]
      rfl

theorem grows_ensureDirectory (h : t.ensureDirectory p = .ok next) : Grows t next := by
  unfold ensureDirectory at h
  split at h
  · rename_i hmade
    cases h
    exact grows_makeDirectory hmade
  · split at h
    · cases h
      exact ⟨.refl t, fun _ => rfl⟩
    · cases h

theorem grows_ensureDirectories {depth : Nat} (h : t.ensureDirectories p depth = .ok next) : Grows t next := by
  induction depth generalizing p next with
  | zero => exact grows_ensureDirectory h
  | succ depth ih =>
    unfold ensureDirectories at h
    split at h
    · obtain ⟨above, habove, h⟩ := bind_ok_iff.1 h
      exact (ih habove).trans (grows_ensureDirectory h)
    · exact grows_ensureDirectory h

/-! ## Writing -/

theorem lookup_putFile (place : Place) (file : StoredFile) (files : List (Place × StoredFile)) :
    (putFile place file files).lookup place = some file := by
  induction files with
  | nil => simp [putFile]
  | cons entry files ih =>
    obtain ⟨other, old⟩ := entry
    unfold putFile
    split
    · simp
    · rename_i hother
      rw [List.lookup_cons, beq_false_of_ne (Ne.symm hother), ih]

theorem lookup_putFile_of_ne {place other : Place} (hne : other ≠ place) (file : StoredFile)
    (files : List (Place × StoredFile)) : (putFile place file files).lookup other = files.lookup other := by
  induction files with
  | nil => rw [putFile, List.lookup_cons, beq_false_of_ne hne]
  | cons entry files ih =>
    obtain ⟨first, old⟩ := entry
    unfold putFile
    split
    · rename_i hfirst
      rw [List.lookup_cons, List.lookup_cons, hfirst, beq_false_of_ne hne]
    · rw [List.lookup_cons, List.lookup_cons, ih]

/-- Whether the file at a place, if there is one, may be run. -/
def isExecutableAt (t : FileTree) (place : Place) : Bool := ((t.storedAt? place).map (·.executable)).getD false

/-- One file is set, and nothing else is changed but for further directories. -/
structure Sets (t next : FileTree) (place : Place) (content : ByteArray) (executable : Bool) : Prop
    extends Keeps t next where
  here : next.storedAt? place = some ⟨content, executable || t.isExecutableAt place⟩
  elsewhere : ∀ other, other ≠ place → next.storedAt? other = t.storedAt? other

variable {content : ByteArray} {executable : Bool}

theorem sets_write (h : t.write p content executable = .ok next) :
    ∃ place, t.placeOf p = .ok place ∧ Sets t next place content executable := by
  unfold write at h
  split at h
  · cases h
  · rename_i place hplace
    split at h
    · cases h
    · rename_i hfree
      cases h
      have hstored : t.storedAt? place = t.fileAt? place := if_neg hfree
      refine ⟨place, hplace, ⟨rfl, fun _ h => h⟩, ?_, fun other hne => ?_⟩
      · rw [isExecutableAt, hstored]
        exact (if_neg hfree).trans (lookup_putFile _ _ _)
      · rw [storedAt?, storedAt?, fileAt?, fileAt?, lookup_putFile_of_ne hne]
        rfl

/-- Storing a file sets it where its path leads. -/
theorem sets_store (h : t.store p content executable = .ok next) :
    ∃ place, next.placeOf p = .ok place ∧ Sets t next place content executable := by
  obtain ⟨ready, hready, h⟩ := bind_ok_iff.1 h
  have hgrows := grows_ensureDirectories hready
  obtain ⟨place, hplace, hsets⟩ := sets_write h
  refine ⟨place, hsets.toKeeps.placeOf hplace, hgrows.toKeeps.trans hsets.toKeeps, ?_,
    fun other hother => (hsets.elsewhere other hother).trans (hgrows.stored other)⟩
  rw [hsets.here, isExecutableAt, hgrows.stored, isExecutableAt]

end DashboardCompiler.FileTree
