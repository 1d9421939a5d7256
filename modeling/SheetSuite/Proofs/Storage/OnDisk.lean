import SheetSuite.Update
import SheetSuite.Proofs.Task
import SheetSuite.Proofs.FileTree.Repetition

namespace SheetSuite

namespace FileTree

variable {t t' : FileTree} {path : Path} {data : List UInt8}

theorem not_directory_iff {l : Location} : t.get? l ≠ some .directory ↔
    t.get? l = none ∨ ∃ old, t.get? l = some (.file old) := by
  cases t.get? l with
  | none => simp
  | some node => cases node <;> simp

theorem replace_error_grown {fault : FileFault} (h : t.replace path data = (.error fault, t')) :
    Grown (·.IsStartOf path.directory) ∅ t t' :=
  (makeDirectories_grown t path.directory).agree (replace_error h) (by simp)

/-- A file that was replaced was none or a file before, and it is all that has changed but for new directories
above it. -/
theorem replace_ok_grown (h : t.replace path data = (.ok (), t')) :
    ∃ target, t'.locate path = .ok target ∧ t'.get? target = some (.file data) ∧
      t.get? target ≠ some .directory ∧ Grown (·.IsStartOf path.directory) {target} t t' := by
  have grown := makeDirectories_grown t path.directory
  obtain ⟨target, located, found, free, agree⟩ := replace_ok h
  refine ⟨target, located, found, ?_, grown.agree agree (by simpa using free)⟩
  intro directory
  exact free (grown.directories target directory)

theorem makeDirectories_twice (h : t.makeDirectories path = (.ok (), t')) :
    t'.makeDirectories path = (.ok (), t') := by
  by_cases empty : path = ""
  · simp [makeDirectories, makeDirectoriesFrom, empty]
  · exact makeDirectories_again (isDirectoryAt_of_makeDirectories empty h)

end FileTree

namespace Storage

open FileTree (Grown)

variable {t t' : FileTree}

theorem ends_onTree (f : FileTree → Except FileFault Unit × FileTree) (t : FileTree) :
    (onTree f).ends t = ((f t).1.mapError .file, (f t).2) := rfl

theorem ends_createDirectory (base path : Path) (t : FileTree) :
    ((onDisk base).createDirectory path).ends t = match t.makeDirectories (base.join path) with
      | (.error fault, t') => (.error (.file fault), t')
      | (.ok (), t') => (.ok (), t') := by
  rw [onDisk, ends_onTree]
  rcases t.makeDirectories (base.join path) with ⟨result, t'⟩
  cases result <;> rfl

theorem ends_writeFile (base path : Path) (data : List UInt8) (t : FileTree) :
    ((onDisk base).writeFile path data).ends t = match t.replace (base.join path) data with
      | (.error fault, t') => (.error (.file fault), t')
      | (.ok (), t') => (.ok (), t') := by
  unfold onDisk
  rw [Task.ends_bind, ends_onTree]
  rcases t.replace (base.join path) data with ⟨result, t'⟩
  cases result <;> rfl

/-- What a failed operation may leave behind: directories at starts of a path, and nothing else. -/
structure Failed (start : Path) (e : Failure) (t t' : FileTree) : Prop where
  cause : ∃ fault, e = .file fault
  files : ∀ l data, t'.get? l = some (.file data) ↔ t.get? l = some (.file data)
  grown : Grown (·.IsStartOf start) ∅ t t'

theorem failed_of_grown {start : Path} (fault : FileFault) (grown : Grown (·.IsStartOf start) ∅ t t') :
    Failed start (.file fault) t t' :=
  ⟨⟨fault, rfl⟩, grown.file_iff, grown⟩

/-- A file that was written is read back; it was absent or a file before. A directory that was made is there,
unless no path is given for it, and making it again succeeds without a change. All other entries are kept, and
what is new besides the file are directories at starts of the path, or of that of the directory which holds
the file. An operation that fails for reasons of the disk leaves no more than such directories. -/
theorem onDisk_effects (base path : Path) (data : List UInt8) (t : FileTree) :
    (match ((onDisk base).writeFile path data).ends t with
      | (.ok (), t') => t'.read (base.join path) = .ok data ∧
          ∃ target, t'.locate (base.join path) = .ok target ∧
            (t.get? target = none ∨ ∃ old, t.get? target = some (.file old)) ∧
              Grown (·.IsStartOf (base.join path).directory) {target} t t'
      | (.error e, t') => Failed (base.join path).directory e t t') ∧
    (match ((onDisk base).createDirectory path).ends t with
      | (.ok (), t') => (base.join path ≠ "" → t'.isDirectoryAt (base.join path) = true) ∧
          Grown (·.IsStartOf (base.join path)) ∅ t t' ∧
            ((onDisk base).createDirectory path).ends t' = (.ok (), t')
      | (.error e, t') => Failed (base.join path) e t t') := by
  constructor
  · rw [ends_writeFile]
    rcases replaced : t.replace (base.join path) data with ⟨result, t'⟩
    cases result with
    | error fault => exact failed_of_grown fault (FileTree.replace_error_grown replaced)
    | ok _ =>
        obtain ⟨target, located, found, free, grown⟩ := FileTree.replace_ok_grown replaced
        exact ⟨FileTree.read_of_locate located found, target, located,
          FileTree.not_directory_iff.1 free, grown⟩
  · have grown := FileTree.makeDirectories_grown t (base.join path)
    rw [ends_createDirectory]
    rcases made : t.makeDirectories (base.join path) with ⟨result, t'⟩
    rw [made] at grown
    cases result with
    | error fault => exact failed_of_grown fault grown
    | ok _ =>
        refine ⟨fun full => FileTree.isDirectoryAt_of_makeDirectories full made, grown, ?_⟩
        rw [ends_createDirectory, FileTree.makeDirectories_twice made]

end Storage

end SheetSuite
