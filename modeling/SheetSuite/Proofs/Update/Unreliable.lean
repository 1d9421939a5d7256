import SheetSuite.Proofs.Update.Phases

namespace SheetSuite

namespace Storage.Table

def addDirectory (t : Table) (path : Path) : Table :=
  { t with directories := t.directories.filter (· != path) ++ [path] }

def putFile (t : Table) (path : Path) (data : List UInt8) : Table :=
  { t with files := t.files.filter (·.1 != path) ++ [(path, data)] }

end Storage.Table

namespace Update

theorem ends_save_failing (settings : Settings) (onDirectory onFile : Option Failure) (suite : Suite)
    (t : Storage.Table) : (save settings (Storage.inMemory.failing onDirectory onFile) suite).ends t =
      match onDirectory, onFile with
      | some e, _ => (.error e, t)
      | none, some e => (.error e, t.addDirectory suiteDirectory)
      | none, none => (.ok (settings.outputDir.join suiteFile),
          (t.addDirectory suiteDirectory).putFile suiteFile (content settings suite)) := by
  unfold save detail
  cases onDirectory with
  | some e => rfl
  | none => cases onFile <;> rfl

inductive Action where
  | parse (feed : Feed)
  | save

structure Attempt where
  action : Action
  onDirectory : Option Failure := none
  onFile : Option Failure := none

/-- How far a trial has come: the table, the suite that was parsed last, and the one that was saved last. -/
structure Trial where
  table : Storage.Table := {}
  suite : Suite := []
  saved : Option Suite := none

namespace Trial

variable {settings : Settings} {trial : Trial}

def next (settings : Settings) (trial : Trial) (attempt : Attempt) : Trial :=
  match attempt.action with
  | .parse feed =>
    match (parse feed).ends trial.table with
    | (.ok suite, table) => { trial with table, suite }
    | (.error _, table) => { trial with table }
  | .save =>
    match (save settings (Storage.inMemory.failing attempt.onDirectory attempt.onFile) trial.suite).ends
      trial.table with
    | (.ok _, table) => { trial with table, saved := some trial.suite }
    | (.error _, table) => { trial with table }

def after (settings : Settings) (attempts : List Attempt) : Trial :=
  attempts.foldl (next settings) {}

/-- What every step maintains: nothing but the directory and the file is there, the file never without the
directory, and the file holds what was saved last. -/
structure Consistent (settings : Settings) (trial : Trial) : Prop where
  directories : trial.table.directories = [] ∨ trial.table.directories = [suiteDirectory]
  files : trial.table.files = (trial.saved.map fun suite => (suiteFile, content settings suite)).toList
  beside : trial.saved ≠ none → trial.table.directories = [suiteDirectory]

theorem Consistent.addDirectory (h : trial.Consistent settings) :
    (trial.table.addDirectory suiteDirectory).directories = [suiteDirectory] := by
  rcases h.directories with none | one
  · simp [Storage.Table.addDirectory, none]
  · simp [Storage.Table.addDirectory, one]

theorem Consistent.putFile (h : trial.Consistent settings) (data : List UInt8) :
    (trial.table.putFile suiteFile data).files = [(suiteFile, data)] := by
  rw [Storage.Table.putFile, h.files]
  cases trial.saved <;> simp

theorem Consistent.lookup (h : trial.Consistent settings) :
    trial.table.files.lookup suiteFile = trial.saved.map (content settings) := by
  rw [h.files]
  cases trial.saved <;> simp

theorem Consistent.eq_of_mem_directories (h : trial.Consistent settings) {path : Path}
    (inside : path ∈ trial.table.directories) : path = suiteDirectory := by
  rcases h.directories with none | one
  · simp [none] at inside
  · simpa [one] using inside

theorem Consistent.eq_of_mem_files (h : trial.Consistent settings) {file : Path × List UInt8}
    (inside : file ∈ trial.table.files) : file.1 = suiteFile := by
  rw [h.files, Option.mem_toList, Option.map_eq_some_iff] at inside
  obtain ⟨suite, -, rfl⟩ := inside
  rfl

theorem Consistent.mem_directories (h : trial.Consistent settings)
    (there : trial.table.files.lookup suiteFile ≠ none) : suiteDirectory ∈ trial.table.directories := by
  rw [h.lookup] at there
  rw [h.beside fun none => there (by rw [none, Option.map_none])]
  exact List.mem_singleton_self suiteDirectory

theorem Consistent.next (h : trial.Consistent settings) (attempt : Attempt) :
    (trial.next settings attempt).Consistent settings := by
  obtain ⟨action, onDirectory, onFile⟩ := attempt
  cases action with
  | parse feed => exact ⟨h.directories, h.files, h.beside⟩
  | save =>
      unfold Trial.next
      dsimp only
      rw [ends_save_failing]
      cases onDirectory with
      | some e => exact h
      | none =>
          cases onFile with
          | some e => exact ⟨.inr h.addDirectory, h.files, fun _ => h.addDirectory⟩
          | none => exact ⟨.inr h.addDirectory, h.putFile _, fun _ => h.addDirectory⟩

theorem after_consistent (settings : Settings) (attempts : List Attempt) :
    (after settings attempts).Consistent settings := by
  have run (trial : Trial) (h : trial.Consistent settings) :
      (attempts.foldl (Trial.next settings) trial).Consistent settings := by
    induction attempts generalizing trial with
    | nil => exact h
    | cons attempt attempts ih => exact ih (trial.next settings attempt) (h.next attempt)
  exact run {} ⟨.inl rfl, rfl, fun saved => absurd rfl saved⟩

end Trial

/-- However parsing and saving follow each other, and whatever fails: at most the directory and the file are
there, the file never without the directory, and it holds what the last successful save was given; there is none
before. The next save fails exactly with the failure that strikes first, and then leaves the files alone; the next
parsing leaves everything alone. -/
theorem unreliable_history (settings : Settings) (attempts : List Attempt) :
    let trial := Trial.after settings attempts
    (∀ path ∈ trial.table.directories, path = suiteDirectory) ∧
    (∀ file ∈ trial.table.files, file.1 = suiteFile) ∧
    (trial.table.files.lookup suiteFile ≠ none → suiteDirectory ∈ trial.table.directories) ∧
    trial.table.files.lookup suiteFile = trial.saved.map (fun suite =>
      Text.utf8 (suite.encode (if settings.pretty then .indented else .compact)).toList) ∧
    (∀ onDirectory onFile, ∃ result table,
      (save settings (Storage.inMemory.failing onDirectory onFile) trial.suite).ends trial.table =
        (result, table) ∧
      match onDirectory.or onFile with
      | some e => result = .error e ∧ table.files = trial.table.files
      | none => result = .ok (settings.outputDir.join suiteFile)) ∧
    ∀ feed, (parse feed).ends trial.table = (.ok (Suite.ofFeed feed), trial.table) := by
  intro trial
  have consistent : trial.Consistent settings := Trial.after_consistent settings attempts
  refine ⟨fun path => consistent.eq_of_mem_directories, fun file => consistent.eq_of_mem_files,
    consistent.mem_directories, consistent.lookup, ?_, fun feed => rfl⟩
  intro onDirectory onFile
  refine ⟨_, _, ends_save_failing settings onDirectory onFile trial.suite trial.table, ?_⟩
  cases onDirectory with
  | some e => exact ⟨rfl, rfl⟩
  | none =>
      cases onFile with
      | some e => exact ⟨rfl, rfl⟩
      | none => rfl

end Update

end SheetSuite
