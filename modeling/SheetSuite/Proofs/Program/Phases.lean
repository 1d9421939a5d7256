import SheetSuite.Program
import SheetSuite.Proofs.Update.Phases

namespace SheetSuite

theorem Settings.refuse_error {field value : String} {problem? : Option Setting.Problem} {e : Failure}
    (h : refuse field value problem? = .error e) :
    ∃ problem, problem? = some problem ∧ e = .setting field value problem := by
  cases problem? with
  | none => cases h
  | some problem =>
      cases h
      exact ⟨problem, rfl, rfl⟩

theorem Settings.validate_error {names : Names} {s : Settings} {e : Failure}
    (h : s.validate names = .error e) : ∃ field value problem, e = .setting field value problem := by
  unfold validate at h
  rcases bind_eq_error.1 h with h | ⟨-, -, h⟩
  · obtain ⟨problem, -, rfl⟩ := refuse_error h
    exact ⟨_, _, problem, rfl⟩
  · rcases bind_eq_error.1 h with h | ⟨-, -, h⟩
    · obtain ⟨problem, -, rfl⟩ := refuse_error h
      exact ⟨_, _, problem, rfl⟩
    · cases timeout : s.timeoutSeconds with
      | none =>
          rw [timeout] at h
          cases h
      | some n =>
          rw [timeout] at h
          obtain ⟨problem, -, rfl⟩ := refuse_error h
          exact ⟨_, _, problem, rfl⟩

theorem Settings.ofText_error {env : Environment} {input : String} {e : Failure}
    (h : ofText env input = .error e) : ∃ fault, e = .config fault := by
  unfold ofText at h
  split at h
  · cases h
    exact ⟨_, rfl⟩
  · split at h
    · cases h
    · cases h
      exact ⟨_, rfl⟩

theorem Settings.ofFile_error {env : Environment} {t : FileTree} {path : Path} {e : Failure}
    (h : ofFile env t path = .error e) : ∃ fault, e = .config fault := by
  unfold ofFile at h
  split at h
  · exact ofText_error h
  · cases h
    exact ⟨_, rfl⟩

namespace Program

variable {o : Options} {env : Environment} {server : Http.Peer} {t : FileTree}

/-- The settings in force, and what they are called where they come from: those of the configuration file
if there is one, else those of the options. -/
def inForce (o : Options) (env : Environment) (t : FileTree) :
    Except Failure (Settings × Settings.Names) :=
  match o.config with
  | none => .ok (o.settings, Options.names)
  | some path => (Settings.ofFile env t path).map (·, Settings.fileNames)

theorem inForce_of_options (h : o.config = none) :
    inForce o env t = .ok (o.settings, Options.names) := by
  rw [inForce, h]

theorem inForce_of_file {path : Path} (h : o.config = some path) :
    inForce o env t = (Settings.ofFile env t path).map (·, Settings.fileNames) := by
  rw [inForce, h]

def checked (o : Options) (env : Environment) (t : FileTree) : Except Failure Settings := do
  let (settings, names) ← inForce o env t
  settings.validate names
  return settings

theorem ends_settings (o : Options) (env : Environment) (t : FileTree) :
    (settings o env).ends t = (inForce o env t, t) := by
  unfold settings inForce milestone
  cases o.config with
  | none => rfl
  | some path =>
      simp only [Task.ends_bind, Task.ends_log, Task.ends_update, Task.ends_pure]
      cases Settings.ofFile env t path <;> rfl

theorem asks_settings (o : Options) (env : Environment) (t : FileTree) :
    (settings o env).asks t = [] := by
  unfold settings milestone
  cases o.config with
  | none => rfl
  | some path =>
      simp only [Task.asks_bind, Task.asks_log, Task.ends_log, Task.asks_update, Task.ends_update,
        List.nil_append]
      cases Settings.ofFile env t path <;> rfl

theorem checked_eq_ok {s : Settings} (h : checked o env t = .ok s) :
    ∃ names, inForce o env t = .ok (s, names) := by
  obtain ⟨⟨settings, names⟩, known, h⟩ := bind_eq_ok.1 h
  obtain ⟨-, -, h⟩ := bind_eq_ok.1 h
  cases h
  exact ⟨names, known⟩

theorem checked_error {e : Failure} (h : checked o env t = .error e) : e.category = .config := by
  rcases bind_eq_error.1 h with h | ⟨⟨settings, names⟩, -, h⟩
  · cases config : o.config with
    | none =>
        rw [inForce_of_options config] at h
        cases h
    | some path =>
        rw [inForce_of_file config] at h
        obtain ⟨fault, rfl⟩ := Settings.ofFile_error (map_eq_error.1 h)
        rfl
  · rcases bind_eq_error.1 h with h | ⟨-, -, h⟩
    · obtain ⟨field, value, problem, rfl⟩ := Settings.validate_error h
      rfl
    · cases h

theorem ends_work (o : Options) (env : Environment) (server : Http.Peer) (t : FileTree) :
    (work o env server).ends t = match checked o env t with
      | .error e => (.error e, t)
      | .ok s => (proceed server o.dryRun s).ends t := by
  unfold work checked milestone
  simp only [Task.ends_bind, Task.ends_log, ends_settings]
  cases inForce o env t with
  | error e => rfl
  | ok found =>
      obtain ⟨s, names⟩ := found
      simp only [ok_bind, Task.ends_ofExcept]
      cases s.validate names <;> rfl

theorem asks_work (o : Options) (env : Environment) (server : Http.Peer) (t : FileTree) :
    (work o env server).asks t = match checked o env t with
      | .error _ => []
      | .ok s => (proceed server o.dryRun s).asks t := by
  unfold work checked milestone
  simp only [Task.asks_bind, Task.asks_log, Task.ends_log, asks_settings, ends_settings,
    List.nil_append]
  cases inForce o env t with
  | error e => rfl
  | ok found =>
      obtain ⟨s, names⟩ := found
      simp only [ok_bind, Task.asks_ofExcept, Task.ends_ofExcept, List.nil_append]
      cases s.validate names <;> rfl

theorem ends_proceed_dry (server : Http.Peer) (s : Settings) (t : FileTree) :
    (proceed server true s).ends t = ((Update.received s server).map fun _ => (), t) := by
  unfold proceed milestone
  simp only [if_true, Task.ends_bind, Task.ends_log, Task.ends_print, Update.ends_preview]
  cases Update.received s server <;> rfl

theorem ends_proceed (server : Http.Peer) (s : Settings) (t : FileTree) :
    (proceed server false s).ends t =
      (((Update.run s server).ends t).1.map fun _ => (), ((Update.run s server).ends t).2) := by
  unfold proceed
  simp only [Bool.false_eq_true, if_false, Task.ends_bind, Task.ends_print]
  rcases (Update.run s server).ends t with ⟨result, t'⟩
  cases result <;> rfl

variable {around : Surroundings}

theorem exitCode_runWith (o : Options) (around : Surroundings) : (runWith o around).exitCode =
    match ((work o around.environment around.server).ends around.tree).1 with
      | .ok () => 0
      | .error e => e.exitCode := by
  unfold runWith Task.ends
  dsimp only
  split <;> simp_all

theorem tree_runWith (o : Options) (around : Surroundings) : (runWith o around).tree =
    ((work o around.environment around.server).ends around.tree).2 := by
  unfold runWith Task.ends
  dsimp only
  split <;> rfl

theorem requests_runWith (o : Options) (around : Surroundings) : (runWith o around).requests =
    (work o around.environment around.server).asks around.tree := by
  unfold runWith Task.asks
  dsimp only
  split <;> rfl

theorem stderr_runWith (o : Options) (around : Surroundings) : (runWith o around).stderr =
    match ((work o around.environment around.server).ends around.tree).1 with
      | .ok () => ""
      | .error e => told e := by
  unfold runWith Task.ends
  dsimp only
  split <;> simp_all

theorem run_of_parse {arguments : List String} (h : Options.parse arguments = .ok o) :
    run arguments around = runWith o around := by
  unfold run
  rw [h]

theorem run_of_refused {arguments : List String} {fault : UsageFault}
    (h : Options.parse arguments = .error fault) : run arguments around = refuse fault around := by
  unfold run
  rw [h]

end Program

end SheetSuite
