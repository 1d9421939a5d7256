import SheetSuite.Update
import SheetSuite.Proofs.Storage.OnDisk

namespace SheetSuite

namespace Stages

variable {σ : Type}

theorem ends_run (s : Stages σ) (x : σ) : s.run.ends x = match s.preview.ends x with
    | (.ok suite, y) => (s.save suite).ends y
    | (.error e, y) => (.error e, y) := by
  unfold run milestone
  rw [Task.ends_bind]
  rcases s.preview.ends x with ⟨result, y⟩
  cases result with
  | error e => rfl
  | ok suite =>
      simp only [Task.ends_bind, Task.ends_log, Task.ends_pure]
      rcases (s.save suite).ends y with ⟨saved, z⟩
      cases saved <;> rfl

theorem asks_run (s : Stages σ) (x : σ) : s.run.asks x = s.preview.asks x ++ match s.preview.ends x with
    | (.ok suite, y) => (s.save suite).asks y
    | (.error _, _) => [] := by
  unfold run milestone
  rw [Task.asks_bind]
  rcases s.preview.ends x with ⟨result, y⟩
  cases result with
  | error e => rfl
  | ok suite =>
      simp only [Task.asks_bind, Task.asks_log, Task.asks_pure, Task.ends_log, List.nil_append]
      rcases (s.save suite).ends y with ⟨saved, z⟩
      cases saved <;> simp

end Stages

namespace Update

variable {σ : Type}

def received (settings : Settings) (server : Http.Peer) : Except Failure Feed := do
  let reception ← (server.ask settings.timeoutSeconds settings.feedUrl).result.mapError .fetch
  let body ← (do reception.checkStatus; reception.text).mapError .fetch
  (Feed.decode body).mapError .feed

variable {settings : Settings} {server : Http.Peer}

theorem received_error {e : Failure} (h : received settings server = .error e) :
    (∃ fault, e = .fetch fault) ∨ ∃ error, e = .feed error := by
  rcases bind_eq_error.1 h with h | ⟨reception, -, h⟩
  · obtain ⟨fault, -, rfl⟩ := mapError_eq_error.1 h
    exact Or.inl ⟨fault, rfl⟩
  · rcases bind_eq_error.1 h with h | ⟨body, -, h⟩
    · obtain ⟨fault, -, rfl⟩ := mapError_eq_error.1 h
      exact Or.inl ⟨fault, rfl⟩
    · obtain ⟨error, -, rfl⟩ := mapError_eq_error.1 h
      exact Or.inr ⟨error, rfl⟩

theorem ends_fetch (settings : Settings) (server : Http.Peer) (s : σ) :
    (fetch settings server).ends s = (received settings server, s) := by
  unfold fetch received detail
  cases asked : (server.ask settings.timeoutSeconds settings.feedUrl).result.mapError Failure.fetch with
  | error e => simp [Task.ends_bind, asked]
  | ok reception =>
      cases read : (do reception.checkStatus; reception.text).mapError Failure.fetch with
      | error e => simp [Task.ends_bind, asked, read]
      | ok body =>
          cases decoded : (Feed.decode body).mapError Failure.feed <;>
            simp [Task.ends_bind, asked, read, decoded]

theorem ends_preview (settings : Settings) (server : Http.Peer) (t : FileTree) :
    (preview settings server).ends t = ((received settings server).map Suite.ofFeed, t) := by
  unfold preview Stages.preview stages Stages.milestone parse
  cases feed : received settings server <;>
    simp [Task.ends_bind, ends_fetch, feed, Except.map]

def content (settings : Settings) (suite : Suite) : List UInt8 :=
  Text.utf8 (suite.encode settings.layout).toList

theorem ends_save (settings : Settings) (base : Path) (suite : Suite) (t : FileTree) :
    (save settings (.onDisk base) suite).ends t =
      match t.makeDirectories (base.join suiteDirectory) with
      | (.error fault, t) => (.error (.file fault), t)
      | (.ok (), t) => match t.replace (base.join suiteFile) (content settings suite) with
        | (.error fault, t) => (.error (.file fault), t)
        | (.ok (), t) => (.ok (settings.outputDir.join suiteFile), t) := by
  unfold save content detail
  rw [Task.ends_bind, Storage.ends_createDirectory]
  rcases t.makeDirectories (base.join suiteDirectory) with ⟨result, t₁⟩
  cases result with
  | error fault => rfl
  | ok _ =>
      simp only [Task.ends_bind, Task.ends_log, Task.ends_pure, Storage.ends_writeFile]
      rcases t₁.replace (base.join suiteFile) (Text.utf8 (suite.encode settings.layout).toList) with
        ⟨result, t₂⟩
      cases result <;> rfl

theorem join_suiteFile_directory (base : Path) :
    (base.join suiteFile).directory = "." ∨
      (base.join suiteFile).directory.IsStartOf (base.join suiteDirectory) :=
  Path.directory_join_name base (by decide) (by decide) (by decide) (by decide)

theorem grown_beside (base : Path) (t : FileTree) :
    FileTree.Grown (·.IsStartOf (base.join suiteDirectory)) ∅ t
      (t.makeDirectories (base.join suiteFile).directory).2 := by
  -- The directory of the file is on the way to the one beside it, and it may be the working directory.
  rcases join_suiteFile_directory base with dot | start
  · rw [dot, FileTree.makeDirectories_dot]
    exact .refl _ t
  · exact (FileTree.makeDirectories_grown t _).mono fun _ h => h.trans start

variable {settings : Settings} {base : Path} {suite : Suite} {t t' : FileTree}

theorem save_error {e : Failure} (h : (save settings (.onDisk base) suite).ends t = (.error e, t')) :
    (∃ fault, e = .file fault) ∧ FileTree.Grown (·.IsStartOf (base.join suiteDirectory)) ∅ t t' := by
  have grown := FileTree.makeDirectories_grown t (base.join suiteDirectory)
  rw [ends_save] at h
  split at h
  · rename_i fault t₁ made
    cases h
    rw [made] at grown
    exact ⟨⟨fault, rfl⟩, grown⟩
  · rename_i t₁ made
    rw [made] at grown
    split at h
    · rename_i fault t₂ failed
      cases h
      refine ⟨⟨fault, rfl⟩, (grown.trans (grown_beside base t₁)).agree (FileTree.replace_error failed) ?_⟩
      simp
    · cases h

theorem save_ok {p : String} (h : (save settings (.onDisk base) suite).ends t = (.ok p, t')) :
    p = settings.outputDir.join suiteFile ∧ t'.isDirectoryAt (base.join suiteDirectory) = true ∧
      ∃ target, t'.locate (base.join suiteFile) = .ok target ∧
        t'.get? target = some (.file (content settings suite)) ∧
          FileTree.Grown (·.IsStartOf (base.join suiteDirectory)) {target} t t' := by
  have grown := FileTree.makeDirectories_grown t (base.join suiteDirectory)
  rw [ends_save] at h
  split at h
  · cases h
  · rename_i t₁ made
    rw [made] at grown
    split at h
    · cases h
    · rename_i t₂ replaced
      cases h
      obtain ⟨target, located, found, free, agree⟩ := FileTree.replace_ok replaced
      have beside := grown_beside base t₁
      have free : ∀ l ∈ ({target} : Set Location),
          (t₁.makeDirectories (base.join suiteFile).directory).2.get? l ≠ some .directory := by
        simpa using free
      refine ⟨rfl, ?_, target, located, found, (grown.trans beside).agree agree free⟩
      have there := FileTree.isDirectoryAt_of_makeDirectories
        (Path.join_name_ne_empty base (by decide)) made
      exact FileTree.isDirectoryAt_mono agree.home (agree.directories free)
        (FileTree.isDirectoryAt_mono beside.home beside.directories there)

theorem ends_run (settings : Settings) (server : Http.Peer) (t : FileTree) :
    (run settings server).ends t = match received settings server with
      | .error e => (.error e, t)
      | .ok feed => (save settings (.onDisk settings.outputDir) (Suite.ofFeed feed)).ends t := by
  have previewed := ends_preview settings server t
  unfold preview at previewed
  rw [run, Stages.ends_run, previewed]
  cases received settings server <;> rfl

end Update

end SheetSuite
