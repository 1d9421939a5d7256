import SheetSuite.Proofs.Options.Attached
import SheetSuite.Proofs.Program.Phases
import SheetSuite.Proofs.Settings.File
import SheetSuite.Proofs.Update.Atomicity

namespace SheetSuite

theorem Settings.validate_cases (s : Settings) : (∀ names, s.validate names = .ok ()) ∨
    ∃ field ∈ [Names.feedUrl, Names.outputDir, Names.timeoutSeconds], ∃ value problem,
      ∀ names, s.validate names = .error (.setting (field names) value problem) := by
  cases url : Setting.urlProblem? s.feedUrl with
  | some problem =>
      exact Or.inr ⟨Names.feedUrl, by simp, s.feedUrl, problem, fun names => by simp [validate, url, refuse]⟩
  | none =>
      cases path : Setting.pathProblem? s.outputDir with
      | some problem =>
          refine Or.inr ⟨Names.outputDir, by simp, s.outputDir, problem, fun names => ?_⟩
          simp [validate, url, path, refuse]
      | none =>
          cases timeout : s.timeoutSeconds with
          | none => exact Or.inl fun names => by simp [validate, url, path, timeout, refuse]
          | some n =>
              cases number : Setting.numberProblem? n 1 with
              | none => exact Or.inl fun names => by simp [validate, url, path, timeout, number, refuse]
              | some problem =>
                  refine Or.inr ⟨Names.timeoutSeconds, by simp, toString n, problem, fun names => ?_⟩
                  simp [validate, url, path, timeout, number, refuse]

namespace Program

open Options (Given)

theorem checked_of_inForce {o : Options} {env : Environment} {t : FileTree} {s : Settings}
    {names : Settings.Names} (known : inForce o env t = .ok (s, names)) :
    checked o env t = (s.validate names).map fun _ => s := by
  rw [checked, known, ok_bind]
  dsimp only
  cases s.validate names <;> rfl

/-- Two calls, the settings of the first being given by options and those of the second by a file, have done
the same and printed the same, up to the name of a setting whose value is refused. -/
structure Alike (direct filed : Report) : Prop where
  exitCode : direct.exitCode = filed.exitCode
  requests : direct.requests = filed.requests
  tree : direct.tree = filed.tree
  stderr : direct.stderr = filed.stderr ∨
    ∃ field ∈ [Settings.Names.feedUrl, Settings.Names.outputDir, Settings.Names.timeoutSeconds],
      ∃ value problem, direct.stderr = told (.setting (field Options.names) value problem) ∧
        filed.stderr = told (.setting (field Settings.fileNames) value problem)

theorem alike_of_inForce {o o' : Options} {around : Surroundings} {s : Settings}
    (known : inForce o around.environment around.tree = .ok (s, Options.names))
    (known' : inForce o' around.environment around.tree = .ok (s, Settings.fileNames))
    (dry : o.dryRun = o'.dryRun) : Alike (runWith o around) (runWith o' around) := by
  have ends := ends_work o around.environment around.server around.tree
  have ends' := ends_work o' around.environment around.server around.tree
  have asks := asks_work o around.environment around.server around.tree
  have asks' := asks_work o' around.environment around.server around.tree
  rw [checked_of_inForce known] at ends asks
  rw [checked_of_inForce known'] at ends' asks'
  rcases s.validate_cases with valid | ⟨field, one, value, problem, refused⟩
  · -- Both go on with the same settings.
    simp only [valid, Except.map, dry] at ends ends' asks asks'
    constructor
    · rw [exitCode_runWith, exitCode_runWith, ends, ends']
    · rw [requests_runWith, requests_runWith, asks, asks']
    · rw [tree_runWith, tree_runWith, ends, ends']
    · exact Or.inl (by rw [stderr_runWith, stderr_runWith, ends, ends'])
  · -- Both stop at the same setting.
    simp only [refused, Except.map] at ends ends' asks asks'
    constructor
    · rw [exitCode_runWith, exitCode_runWith, ends, ends']
      rfl
    · rw [requests_runWith, requests_runWith, asks, asks']
    · rw [tree_runWith, tree_runWith, ends, ends']
    · refine Or.inr ⟨field, one, value, problem, ?_, ?_⟩
      · rw [stderr_runWith, ends]
      · rw [stderr_runWith, ends']

def dryRunOption (dry : Bool) : List Given :=
  if dry then [.flag .dryRun] else []

def givenBy (s : Settings) : List Given :=
  [.value .feedUrl s.feedUrl, .value .outputDir s.outputDir] ++
    (s.timeoutSeconds.map fun n => Given.value .timeoutSeconds (toString n)).toList ++
      if s.pretty then [.flag .pretty] else []

def voided : List OptionName :=
  [.value .feedUrl, .value .outputDir, .value .timeoutSeconds, .flag .pretty]

theorem givenBy_nodup (s : Settings) (dry : Bool) :
    ((givenBy s ++ dryRunOption dry).map Given.name).Nodup := by
  obtain ⟨feedUrl, outputDir, timeout, pretty⟩ := s
  cases timeout <;> cases pretty <;> cases dry <;> simp [givenBy, dryRunOption, Given.name]

theorem givenBy_fits {s : Settings} (fits : ∀ n ∈ s.timeoutSeconds, n < UInt64.size) (dry : Bool) :
    ∀ g ∈ givenBy s ++ dryRunOption dry, g.Fits := by
  obtain ⟨feedUrl, outputDir, timeout, pretty⟩ := s
  cases timeout with
  | none => cases pretty <;> cases dry <;> simp [givenBy, dryRunOption, Given.Fits]
  | some n =>
      have read := Options.number_toDigits (fits n rfl)
      cases pretty <;> cases dry <;> simp [givenBy, dryRunOption, Given.Fits, read]

theorem foldl_givenBy {s : Settings} (fits : ∀ n ∈ s.timeoutSeconds, n < UInt64.size) (dry : Bool) :
    (givenBy s ++ dryRunOption dry).foldl Given.put {} =
      { feedUrl := s.feedUrl, outputDir := s.outputDir, timeoutSeconds := s.timeoutSeconds,
        pretty := s.pretty, dryRun := dry } := by
  obtain ⟨feedUrl, outputDir, timeout, pretty⟩ := s
  cases timeout with
  | none => cases pretty <;> cases dry <;> rfl
  | some n =>
      have read := Options.number_toDigits (fits n rfl)
      cases pretty <;> cases dry <;> simp [givenBy, dryRunOption, Given.put, read]

theorem parse_givenBy {s : Settings} {dry : Bool} {gs : List Given}
    (given : gs.Perm (givenBy s ++ dryRunOption dry)) (fits : ∀ n ∈ s.timeoutSeconds, n < UInt64.size) :
    ∃ o, Options.parse (gs.map Given.argument) = .ok o ∧ o.config = none ∧ o.settings = s ∧
      o.dryRun = dry := by
  have once := (given.map Given.name).nodup_iff.2 (givenBy_nodup s dry)
  have fit (g : Given) (inside : g ∈ gs) : g.Fits := givenBy_fits fits dry g (given.mem_iff.1 inside)
  have parsed := Options.parse_arguments once fit
  rw [Options.foldl_put_perm given once, foldl_givenBy fits] at parsed
  exact ⟨_, parsed, rfl, rfl, rfl⟩

theorem foldl_voided {extras : List Given} (extra : ∀ g ∈ extras, g.name ∈ voided) (o : Options) :
    (extras.foldl Given.put o).config = o.config ∧ (extras.foldl Given.put o).dryRun = o.dryRun := by
  induction extras generalizing o with
  | nil => exact ⟨rfl, rfl⟩
  | cons g extras ih =>
      obtain ⟨first, extra⟩ := List.forall_mem_cons.1 extra
      have kept : (g.put o).config = o.config ∧ (g.put o).dryRun = o.dryRun := by
        rcases g with ⟨_ | _ | _ | _, text⟩ | ⟨_ | _ | _ | _⟩ <;>
          simp [Given.name, voided] at first <;> exact ⟨rfl, rfl⟩
      rw [List.foldl_cons, (ih extra _).1, (ih extra _).2]
      exact kept

theorem voided_nodup {path : Path} {extras : List Given} (once : (extras.map Given.name).Nodup)
    (extra : ∀ g ∈ extras, g.name ∈ voided) (dry : Bool) :
    ((Given.value .config path :: (extras ++ dryRunOption dry)).map Given.name).Nodup := by
  have absent (name : OptionName) (other : name ∉ voided) : name ∉ extras.map Given.name := by
    intro inside
    obtain ⟨g, within, rfl⟩ := List.mem_map.1 inside
    exact other (extra g within)
  have config := absent (.value .config) (by decide)
  have dryRun := absent (.flag .dryRun) (by decide)
  rw [List.map_cons, List.map_append]
  cases dry with
  | false =>
      have none : (dryRunOption false).map Given.name = [] := rfl
      rw [none, List.append_nil]
      exact List.nodup_cons.2 ⟨config, once⟩
  | true =>
      have one : (dryRunOption true).map Given.name = [.flag .dryRun] := rfl
      rw [one]
      refine List.nodup_cons.2 ⟨?_, once.append (List.nodup_singleton _) ?_⟩
      · rw [List.mem_append, not_or]
        exact ⟨config, by simp [Given.name]⟩
      · exact List.disjoint_singleton.2 dryRun

theorem parse_voided {path : Path} {dry : Bool} {gs extras : List Given}
    (given : gs.Perm (.value .config path :: (extras ++ dryRunOption dry)))
    (once : (extras.map Given.name).Nodup) (extra : ∀ g ∈ extras, g.name ∈ voided ∧ g.Fits) :
    ∃ o, Options.parse (gs.map Given.argument) = .ok o ∧ o.config = some path ∧ o.dryRun = dry := by
  have names (g : Given) (inside : g ∈ extras) : g.name ∈ voided := (extra g inside).1
  have once := (given.map Given.name).nodup_iff.2 (voided_nodup once names dry)
  have fit (g : Given) (inside : g ∈ gs) : g.Fits := by
    rcases List.mem_cons.1 (given.mem_iff.1 inside) with rfl | inside
    · trivial
    · rcases List.mem_append.1 inside with inside | inside
      · exact (extra g inside).2
      · cases dry with
        | false => cases inside
        | true =>
            obtain rfl := List.mem_singleton.1 inside
            trivial
  have parsed := Options.parse_arguments once fit
  rw [Options.foldl_put_perm given once] at parsed
  refine ⟨_, parsed, ?_⟩
  obtain ⟨config, dryRun⟩ := foldl_voided names (Given.put {} (.value .config path))
  rw [List.foldl_cons, List.foldl_append]
  cases dry with
  | false => exact ⟨config, dryRun⟩
  | true => exact ⟨config, rfl⟩

/-- Settings that are given by options in some order, and the same settings in a configuration file that is
named by an option, beside other options of the settings, whose values are void: both calls go by these
settings, and are alike. -/
theorem run_alike {s : Settings} {dry : Bool} {text : String} {path : Path} {around : Surroundings}
    {direct filed extras : List Given} (written : s.IsWritten text) (literal : '$' ∉ text.toList)
    (fits : ∀ n ∈ s.timeoutSeconds, n < UInt64.size)
    (held : around.tree.read path = .ok (Text.utf8 text.toList))
    (givenDirect : direct.Perm (givenBy s ++ dryRunOption dry))
    (givenFiled : filed.Perm (.value .config path :: (extras ++ dryRunOption dry)))
    (once : (extras.map Given.name).Nodup) (extra : ∀ g ∈ extras, g.name ∈ voided ∧ g.Fits) :
    (∃ o, Options.parse (direct.map Given.argument) = .ok o ∧ o.dryRun = dry ∧
      inForce o around.environment around.tree = .ok (s, Options.names)) ∧
    (∃ o, Options.parse (filed.map Given.argument) = .ok o ∧ o.dryRun = dry ∧
      inForce o around.environment around.tree = .ok (s, Settings.fileNames)) ∧
    Alike (run (direct.map Given.argument) around) (run (filed.map Given.argument) around) := by
  obtain ⟨o, parsed, none, settings, dryRun⟩ := parse_givenBy givenDirect fits
  obtain ⟨o', parsed', some, dryRun'⟩ := parse_voided givenFiled once extra
  have known : inForce o around.environment around.tree = .ok (s, Options.names) := by
    rw [inForce_of_options none, settings]
  have known' : inForce o' around.environment around.tree = .ok (s, Settings.fileNames) := by
    rw [inForce_of_file some, Settings.ofFile_of_isWritten written literal fits _ held]
    rfl
  refine ⟨⟨o, parsed, dryRun, known⟩, ⟨o', parsed', dryRun', known'⟩, ?_⟩
  rw [run_of_parse parsed, run_of_parse parsed']
  exact alike_of_inForce known known' (dryRun.trans dryRun'.symm)

def impatient : Settings where
  feedUrl := "http://127.0.0.1:7070/"
  outputDir := "out"
  timeoutSeconds := some 0
  pretty := true

def impatientSurroundings : Surroundings where
  tree := .ofList [] [("c.toml", .file (Text.utf8 impatient.fileText.toList))]
  server := Update.constantServer Update.noRows

theorem run_alike_impatient :
    Alike
        (run ["--pretty", "--timeout-seconds=0", "--output-dir=out", "--feed-url=http://127.0.0.1:7070/"]
          impatientSurroundings)
        (run ["--timeout-seconds=+5", "--config=c.toml", "--output-dir=elsewhere"] impatientSurroundings) ∧
      (run ["--timeout-seconds=+5", "--config=c.toml", "--output-dir=elsewhere"] impatientSurroundings).stderr =
        told (.setting "source.timeout_seconds" "0" (.tooSmall 1)) := by
  have written : impatient.IsWritten impatient.fileText :=
    Settings.isWritten_fileText (by decide) (by decide)
  have held : impatientSurroundings.tree.read "c.toml" = .ok (Text.utf8 impatient.fileText.toList) := by
    decide +kernel
  have direct : [Given.flag .pretty, .value .timeoutSeconds "0", .value .outputDir "out",
      .value .feedUrl "http://127.0.0.1:7070/"].Perm (givenBy impatient ++ dryRunOption false) := by
    decide +kernel
  have filed : [Given.value .timeoutSeconds "+5", .value .config "c.toml", .value .outputDir "elsewhere"].Perm
      (.value .config "c.toml" :: ([.value .timeoutSeconds "+5", .value .outputDir "elsewhere"] ++
        dryRunOption false)) := by
    decide +kernel
  have extra : ∀ g ∈ [Given.value .timeoutSeconds "+5", .value .outputDir "elsewhere"],
      g.name ∈ voided ∧ g.Fits := by
    simp only [List.forall_mem_cons]
    exact ⟨⟨by decide, 5, rfl⟩, ⟨by decide, trivial⟩, by simp⟩
  exact ⟨(run_alike written (by decide +kernel) (by decide) held direct filed (by decide) extra).2.2,
    by decide +kernel⟩

end Program

end SheetSuite
