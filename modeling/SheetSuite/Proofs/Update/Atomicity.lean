import SheetSuite.Proofs.Update.Phases

namespace SheetSuite.Update

open FileTree (Grown)

variable {settings : Settings} {server : Http.Peer} {t : FileTree} {o : Outcome FileTree String}

def constantServer (body : String) : Http.Server where
  address := "127.0.0.1:7070"
  fallback := .answer { body := .whole (Text.utf8 body.toList) }

def constantSettings (outputDir : Path) : Settings where
  feedUrl := "http://127.0.0.1:7070/"
  outputDir := outputDir

def noRows : String :=
  "\x7b\"feed\":\x7b\x7d\x7d"

def oneRow : String :=
  "\x7b\"feed\":\x7b\"entry\":[\x7b\"content\":\x7b\"$t\":\"expr:1\"\x7d\x7d]\x7d\x7d"

def oldSuite : FileTree :=
  .ofList [] [("out/suite.json", .file [7])]

/-- A failed update: every file is as before, nothing was removed, and all that is new are directories
named by starts of the path of the directory beside the suite. Without a feed there is nothing new. -/
theorem run_error_atomic (ran : (run settings server).run t = o) {e : Failure}
    (failed : o.result = .error e) :
    (∀ l data, o.store.get? l = some (.file data) ↔ t.get? l = some (.file data)) ∧
      Grown (·.IsStartOf (settings.outputDir.join suiteDirectory)) ∅ t o.store ∧
        ((∃ fault, e = .fetch fault) ∨ (∃ error, e = .feed error) → o.store = t) := by
  have ends : (run settings server).ends t = (.error e, o.store) := by
    rw [Task.ends, ran, failed]
  rw [ends_run] at ends
  split at ends
  · cases ends
    exact ⟨fun l data => Iff.rfl, .refl _ _, fun _ => rfl⟩
  · obtain ⟨⟨fault, rfl⟩, grown⟩ := save_error ends
    refine ⟨grown.file_iff, grown, ?_⟩
    rintro (⟨fault, impossible⟩ | ⟨error, impossible⟩)
    · cases impossible
    · cases impossible

def misplaced : Outcome FileTree String :=
  (run (constantSettings "new/../out") (constantServer noRows)).run
    (.ofList [] [("out/suite.json/kept", .file [7])])

theorem run_error_atomic_misplaced :
    misplaced.result = .error (.file .isDirectory) ∧
      Grown (·.IsStartOf ((constantSettings "new/../out").outputDir.join suiteDirectory)) ∅
        (.ofList [] [("out/suite.json/kept", .file [7])]) misplaced.store := by
  have failed : misplaced.result = .error (.file .isDirectory) := by decide +kernel
  exact ⟨failed, (run_error_atomic rfl failed).2.1⟩

end SheetSuite.Update
