import SheetSuite.Proofs.Program.Phases
import SheetSuite.Proofs.Update.Atomicity

/-!
# What exit codes say

There are five ways in which the work can go (`Course`, `course_work`): the settings are no good, no feed is
received, the suite is previewed, it is not saved, or it is saved. Each has its own exit code, the preview and
the save apart, so that the code tells what was asked and what was written (`exitCode_truthful`).
-/

namespace SheetSuite

namespace FileTree

def fileAt? (t : FileTree) (l : Location) : Option (List UInt8) :=
  match t.get? l with
  | some (.file data) => some data
  | _ => none

theorem fileAt?_eq_some {t : FileTree} {l : Location} {data : List UInt8} :
    t.fileAt? l = some data ↔ t.get? l = some (.file data) := by
  unfold fileAt?
  split <;> simp_all

theorem Grown.fileAt?_eq {named : Path → Prop} {aside : Set Location} {t t' : FileTree}
    (grown : Grown named aside t t') {l : Location} (outside : l ∉ aside) :
    t'.fileAt? l = t.fileAt? l := by
  apply Option.ext
  intro data
  rw [fileAt?_eq_some, fileAt?_eq_some]
  exact grown.file_iff_of_notMem outside data

end FileTree

namespace Program

open FileTree (Grown)

/-- How the work can go: its result, the tree that it leaves and the requests that it sends. -/
inductive Course (o : Options) (env : Environment) (t : FileTree) :
    Except Failure Unit → FileTree → List String → Prop
  | stopped {e : Failure} : e.category = .config → Course o env t (.error e) t []
  | unfetched {e : Failure} {requests : List String} :
      e.category = .fetch → Course o env t (.error e) t requests
  | previewed {requests : List String} : o.dryRun = true → Course o env t (.ok ()) t requests
  | unsaved {e : Failure} {s : Settings} {t' : FileTree} {requests : List String} :
      o.dryRun = false → e.category = .io →
        Grown (·.IsStartOf (s.outputDir.join Update.suiteDirectory)) ∅ t t' →
          Course o env t (.error e) t' requests
  | saved {s : Settings} {names : Settings.Names} {t' : FileTree} {target : Location}
      {requests : List String} : o.dryRun = false → inForce o env t = .ok (s, names) →
        t'.locate (s.outputDir.join Update.suiteFile) = .ok target →
          Grown (·.IsStartOf (s.outputDir.join Update.suiteDirectory)) {target} t t' →
            Course o env t (.ok ()) t' requests

theorem category_of_received_error {s : Settings} {server : Http.Peer} {e : Failure}
    (h : Update.received s server = .error e) : e.category = .fetch := by
  rcases Update.received_error h with ⟨fault, rfl⟩ | ⟨error, rfl⟩
  · rfl
  · rfl

theorem course_proceed {o : Options} {env : Environment} {t : FileTree} {s : Settings}
    {names : Settings.Names} (known : inForce o env t = .ok (s, names)) (server : Http.Peer)
    (requests : List String) :
    Course o env t ((proceed server o.dryRun s).ends t).1 ((proceed server o.dryRun s).ends t).2
      requests := by
  cases dry : o.dryRun with
  | true =>
      rw [ends_proceed_dry]
      cases received : Update.received s server with
      | error e => exact .unfetched (category_of_received_error received)
      | ok feed => exact .previewed dry
  | false =>
      rw [ends_proceed, Update.ends_run]
      cases received : Update.received s server with
      | error e => exact .unfetched (category_of_received_error received)
      | ok feed =>
          dsimp only
          rcases saved : (Update.save s (.onDisk s.outputDir) (Suite.ofFeed feed)).ends t with
            ⟨result, t'⟩
          cases result with
          | error e =>
              obtain ⟨⟨fault, rfl⟩, grown⟩ := Update.save_error saved
              exact .unsaved dry rfl grown
          | ok path =>
              obtain ⟨-, -, target, located, -, grown⟩ := Update.save_ok saved
              exact .saved dry known located grown

theorem course_work (o : Options) (env : Environment) (server : Http.Peer) (t : FileTree) :
    Course o env t ((work o env server).ends t).1 ((work o env server).ends t).2
      ((work o env server).asks t) := by
  rw [ends_work, asks_work]
  cases settings : checked o env t with
  | error e => exact .stopped (checked_error settings)
  | ok s =>
      obtain ⟨names, known⟩ := checked_eq_ok settings
      exact course_proceed known server _

theorem exitCode_of_category {e : Failure} {c : Category} (h : e.category = c) :
    e.exitCode = c.exitCode := by
  rw [Failure.exitCode, h]

/-- Arguments that make no sense, or ask for help, have no effect. Else the exit code is 0 if the work was
done and that of the failure if not. With 1, nothing was asked and nothing written; with 2, nothing was
written; with 3, it was no dry run and no file is new or changed. A dry run writes nothing. Where a file is
new or changed, the exit code is 0 and the file is the suite in the output directory in force. -/
theorem exitCode_truthful {arguments : List String} {around : Surroundings} {report : Report}
    (ran : run arguments around = report) :
    match Options.parse arguments with
    | .error fault => report.exitCode = (if fault = .help then 0 else 2) ∧
        report.requests = [] ∧ report.tree = around.tree
    | .ok o =>
        (report.exitCode = match ((work o around.environment around.server).run around.tree).result with
          | .ok () => 0
          | .error e => e.exitCode) ∧
        (report.exitCode = 1 → report.requests = [] ∧ report.tree = around.tree) ∧
        (report.exitCode = 2 → report.tree = around.tree) ∧
        (report.exitCode = 3 →
          o.dryRun = false ∧ ∀ l, report.tree.fileAt? l = around.tree.fileAt? l) ∧
        (o.dryRun = true → report.tree = around.tree) ∧
        ∀ l, report.tree.fileAt? l ≠ around.tree.fileAt? l →
          report.exitCode = 0 ∧ ∃ s names, inForce o around.environment around.tree = .ok (s, names) ∧
            report.tree.locate (s.outputDir.join Update.suiteFile) = .ok l := by
  subst ran
  cases parsed : Options.parse arguments with
  | error fault =>
      rw [run_of_refused parsed]
      refine ⟨?_, rfl, rfl⟩
      cases fault <;> rfl
  | ok o =>
      have course := course_work o around.environment around.server around.tree
      dsimp only
      rw [run_of_parse parsed, exitCode_runWith, tree_runWith, requests_runWith]
      refine ⟨rfl, ?_⟩
      generalize ((work o around.environment around.server).ends around.tree).1 = result at course ⊢
      generalize ((work o around.environment around.server).ends around.tree).2 = t at course ⊢
      generalize (work o around.environment around.server).asks around.tree = requests at course ⊢
      cases course with
      | stopped kind => simp [exitCode_of_category kind, Category.exitCode]
      | unfetched kind => simp [exitCode_of_category kind, Category.exitCode]
      | previewed dry => simp [dry]
      | unsaved wet kind grown =>
          have same (l : Location) : t.fileAt? l = around.tree.fileAt? l :=
            grown.fileAt?_eq (Set.notMem_empty l)
          simp [exitCode_of_category kind, Category.exitCode, wet, same]
      | @saved s names _ target _ wet known located grown =>
          refine ⟨by simp, by simp, by simp, by simp [wet], fun l changed => ⟨rfl, s, names, known, ?_⟩⟩
          -- The only location that is set aside is the one where the suite goes.
          have inside : l = target := by
            by_contra outside
            exact changed (grown.fileAt?_eq outside)
          rw [inside, located]

def replacingCall : List String :=
  ["--config=c.toml", "--output-dir=elsewhere"]

def replacingSurroundings : Surroundings where
  tree := .ofList [] [("out/suite.json", .file [7]), ("c.toml", .file (Text.utf8
    "[source]\nendpoint = \"http://127.0.0.1:7070/\"\n[load]\noutput_dir = \"out\"\n".toList))]
  server := Update.constantServer Update.noRows

theorem exitCode_truthful_replacing :
    (run replacingCall replacingSurroundings).tree.fileAt? ["suite.json", "out"] = some [0x5B, 0x5D] ∧
      (run replacingCall replacingSurroundings).exitCode = 0 := by
  have changed : (run replacingCall replacingSurroundings).tree.fileAt? ["suite.json", "out"] =
      some [0x5B, 0x5D] := by
    decide +kernel
  have before : replacingSurroundings.tree.fileAt? ["suite.json", "out"] = some [7] := by
    decide +kernel
  have parsed : Options.parse replacingCall =
      .ok { config := some "c.toml", outputDir := "elsewhere" } := by
    decide +kernel
  have truthful := exitCode_truthful (rfl : run replacingCall replacingSurroundings = _)
  rw [parsed] at truthful
  refine ⟨changed, (truthful.2.2.2.2.2 ["suite.json", "out"] ?_).1⟩
  rw [changed, before]
  decide

end Program

end SheetSuite
