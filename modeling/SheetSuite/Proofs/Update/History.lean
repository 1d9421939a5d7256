import SheetSuite.Proofs.FileTree.Repetition
import SheetSuite.Proofs.Update.Atomicity

/-!
# Updates one after another

However updates and previews follow each other, the file with the suite is the one of the last update that
succeeded; before the first one it is as it was (`suiteFile_history`). What failed updates leave behind are
directories on the way to the directory beside it, and none of them lies at or below the file
(`grown_below`). A successful update that is repeated changes nothing (`run_again`).
-/

namespace SheetSuite

/-! ## Beside a path -/

namespace Path

theorem filter_countedNames (absolute : Bool) (names : List String) :
    (countedNames absolute names).filter (· != ".") = names.filter (· != ".") := by
  cases names with
  | nil => rfl
  | cons name rest =>
      by_cases dropped : (name == "." && absolute) = true
      · rw [countedNames_cons_of_dropped dropped]
        have dot : name = "." := by
          simp only [Bool.and_eq_true, beq_iff_eq] at dropped
          exact dropped.1
        simp [dot]
      · rw [countedNames_cons_of_kept dropped]
        simp [List.filter_cons]

theorem filter_steps (path : Path) : path.steps.filter (· != ".") = path.names.filter (· != ".") := by
  rw [steps_eq_countedNames, filter_countedNames]

theorem dots_mem_steps {path : Path} : ".." ∈ path.steps ↔ ".." ∈ path.names := by
  have same := congrArg (".." ∈ ·) (filter_steps path)
  simpa using same

end Path

namespace FileTree

def find? (t : FileTree) (path : Path) : Option Node :=
  match t.locate path with
  | .ok l => t.get? l
  | .error _ => none

variable {t t' : FileTree} {base : Path} {name other : String}

/-- No start of the path of one entry leads to a sibling or below it. -/
theorem spelled_start_ne {start : Path} (h : start.IsStartOf (base.join other))
    (isName : Path.IsName name) (undotted : name ≠ ".") (isName' : Path.IsName other)
    (undotted' : other ≠ ".") (different : name ≠ other) (l : Location) (below : List String) :
    spelled l start.names ≠ below ++ spelled l (base.join name).names := by
  intro equal
  have front : start.names.filter (· != ".") <+: base.names.filter (· != ".") ++ [other] := by
    have steps := h.2
    rw [Path.steps_join_name base isName' undotted'] at steps
    simpa [Path.filter_steps, undotted'] using steps.filter (· != ".")
  have whole : (base.join name).names.filter (· != ".") = base.names.filter (· != ".") ++ [name] := by
    rw [Path.names_join isName.isAbsolute, Path.names_of_isName isName, List.filter_append]
    simp [undotted]
  rw [spelled, spelled, whole, ← List.append_assoc, List.append_cancel_right_eq,
    ← List.reverse_inj, List.reverse_reverse, List.reverse_append, List.reverse_reverse] at equal
  rw [equal, List.append_assoc, List.prefix_append_right_inj] at front
  exact different (List.cons_prefix_cons.1 front).1

theorem Grown.below (grown : Grown (·.IsStartOf (base.join other)) ∅ t t')
    (straight : ".." ∉ base.names) (isName : Path.IsName name) (undotted : name ≠ ".")
    (isName' : Path.IsName other) (plain' : other ≠ "." ∧ other ≠ "..") (different : name ≠ other)
    (below : List String) :
    t'.get? (below ++ spelled (t.startOf (base.join name)) (base.join name).names) =
      t.get? (below ++ spelled (t.startOf (base.join name)) (base.join name).names) := by
  cases before : t.get? (below ++ spelled (t.startOf (base.join name)) (base.join name).names) with
  | some node => exact grown.kept (Set.notMem_empty _) before
  | none =>
      by_contra after
      obtain ⟨node, after⟩ := Option.ne_none_iff_exists'.1 after
      obtain ⟨-, start, starts, located⟩ := grown.added (Set.notMem_empty _) before after
      have within : ".." ∉ start.names := by
        rw [← Path.dots_mem_steps]
        intro member
        have member := starts.2.subset member
        rw [Path.steps_join_name base isName' plain'.1, List.mem_append, List.mem_singleton,
          Path.dots_mem_steps] at member
        exact member.elim straight fun dots => plain'.2 dots.symm
      have place := walk_eq_spelled within (locate_ok.1 located).2.1
      have origin : t'.startOf start = t.startOf (base.join name) := by
        rw [startOf, startOf, grown.home, starts.1, Path.isAbsolute_join isName.isAbsolute,
          Path.isAbsolute_join isName'.isAbsolute]
      rw [origin] at place
      exact spelled_start_ne starts isName undotted isName' plain'.1 different _ below place.symm

end FileTree

namespace Update

open FileTree (Grown AgreeBut)

variable {dir : Path} {t t' : FileTree}

/-! ## What failed updates leave -/

theorem suiteFile_endsIn (dir : Path) : (dir.join suiteFile).EndsIn suiteFile :=
  Path.endsIn_join dir (by decide) (by decide)

theorem suiteFile_straight (straight : ".." ∉ dir.names) : ".." ∉ (dir.join suiteFile).names := by
  rw [Path.names_join (by decide), List.mem_append, not_or]
  exact ⟨straight, by decide⟩

theorem suiteFile_slashless (dir : Path) : (dir.join suiteFile).endsInSlash = false := by
  have last : suiteFile.toList.getLast? = some 'n' := by decide
  unfold Path.join
  split
  · decide
  · split
    · simp [Path.endsInSlash, last]
    · simp [Path.endsInSlash, List.getLast?_cons, last]

/-- The file with the suite is left alone, and so is all that is below it, should it be a directory. -/
theorem grown_below (grown : Grown (·.IsStartOf (dir.join suiteDirectory)) ∅ t t')
    (straight : ".." ∉ dir.names) {l : Location} (located : t.locate (dir.join suiteFile) = .ok l ∨
      t'.locate (dir.join suiteFile) = .ok l) (below : List String) :
    t'.get? (below ++ l) = t.get? (below ++ l) := by
  have place : l = FileTree.spelled (t.startOf (dir.join suiteFile)) (dir.join suiteFile).names := by
    rcases located with located | located
    · exact FileTree.walk_eq_spelled (suiteFile_straight straight) (FileTree.locate_ok.1 located).2.1
    · rw [← FileTree.startOf_congr grown.home]
      exact FileTree.walk_eq_spelled (suiteFile_straight straight) (FileTree.locate_ok.1 located).2.1
  rw [place]
  exact grown.below straight (by decide) (by decide) (by decide) (by decide) (by decide) below

theorem locate_grown (grown : Grown (·.IsStartOf (dir.join suiteDirectory)) ∅ t t') {l : Location}
    (located : t.locate (dir.join suiteFile) = .ok l) : t'.locate (dir.join suiteFile) = .ok l := by
  obtain ⟨-, -, -, -, some⟩ := FileTree.locateLast_of_locate (suiteFile_endsIn dir) located
  obtain ⟨node, found⟩ := Option.isSome_iff_exists.1 some
  exact FileTree.locate_kept (suiteFile_endsIn dir) located grown.home grown.directories
    (grown.kept (Set.notMem_empty l) found) (by simp [suiteFile_slashless])

theorem find?_grown (rooted : t.Rooted) (straight : ".." ∉ dir.names)
    (grown : Grown (·.IsStartOf (dir.join suiteDirectory)) ∅ t t') :
    t'.find? (dir.join suiteFile) = t.find? (dir.join suiteFile) := by
  cases located : t.locate (dir.join suiteFile) with
  | ok l =>
      have same := grown_below grown straight (Or.inl located) []
      simpa [FileTree.find?, located, locate_grown grown located] using same
  | error fault =>
      cases located' : t'.locate (dir.join suiteFile) with
      | error fault' => simp [FileTree.find?, located, located']
      | ok l =>
          -- Something is there now, so it was there before, and the path led to it.
          obtain ⟨-, -, -, -, some⟩ := FileTree.locateLast_of_locate (suiteFile_endsIn dir) located'
          have same : t'.get? l = t.get? l := grown_below grown straight (Or.inr located') []
          rw [same] at some
          obtain ⟨node, found⟩ := Option.isSome_iff_exists.1 some
          have led := rooted.locate_of_locate (suiteFile_endsIn dir) (suiteFile_straight straight)
            grown.home located' found (by simp [suiteFile_slashless])
          rw [located] at led
          cases led

/-! ## Calls one after another -/

inductive Call where
  | run (settings : Settings) (server : Http.Peer)
  | preview (settings : Settings) (server : Http.Peer)

def Call.settings : Call → Settings
  | run settings _ => settings
  | preview settings _ => settings

/-- How far calls have come: the tree that they have left, and what the last update that succeeded has
saved, with its settings. -/
structure Progress where
  tree : FileTree
  saved : Option (Settings × Suite) := none

namespace Progress

/-- One more call. An update that succeeds has saved what a preview in its place would have shown. -/
def next (p : Progress) : Call → Progress
  | .run settings server =>
    match (run settings server).ends p.tree with
    | (.ok _, tree) =>
      ⟨tree, ((preview settings server).ends p.tree).1.toOption.map (settings, ·)⟩
    | (.error _, tree) => ⟨tree, p.saved⟩
  | .preview settings server => ⟨((preview settings server).ends p.tree).2, p.saved⟩

def after (t : FileTree) (calls : List Call) : Progress :=
  calls.foldl next ⟨t, none⟩

/-- What calls for one directory maintain: before the first success, directories beside the file with the
suite are all that is new, and after it, the file holds what was saved last. -/
def Maintained (dir : Path) (t : FileTree) (p : Progress) : Prop :=
  match p.saved with
  | none => Grown (·.IsStartOf (dir.join suiteDirectory)) ∅ t p.tree
  | some (settings, suite) => ∃ l, p.tree.locate (dir.join suiteFile) = .ok l ∧
      p.tree.get? l = some (.file (content settings suite))

theorem Maintained.grown {p : Progress} {tree : FileTree} (h : Maintained dir t p)
    (grown : Grown (·.IsStartOf (dir.join suiteDirectory)) ∅ p.tree tree) :
    Maintained dir t ⟨tree, p.saved⟩ := by
  unfold Maintained at h ⊢
  dsimp only
  split at h
  · exact h.trans grown
  · obtain ⟨l, located, found⟩ := h
    exact ⟨l, locate_grown grown located, grown.kept (Set.notMem_empty l) found⟩

theorem Maintained.next {p : Progress} (h : Maintained dir t p) {call : Call}
    (same : call.settings.outputDir = dir) : Maintained dir t (p.next call) := by
  cases call with
  | preview settings server =>
      have unchanged : ((Update.preview settings server).ends p.tree).2 = p.tree := by
        rw [ends_preview]
      unfold Progress.next
      dsimp only
      rw [unchanged]
      exact h
  | run settings server =>
      obtain rfl : settings.outputDir = dir := same
      have shown := ends_preview settings server p.tree
      rcases ran : (run settings server).ends p.tree with ⟨result, tree⟩
      unfold Progress.next
      dsimp only
      rw [ran, shown]
      rw [ends_run] at ran
      cases known : received settings server with
      | error e =>
          rw [known] at ran
          cases ran
          exact h
      | ok feed =>
          rw [known] at ran
          cases result with
          | error e =>
              obtain ⟨-, grown⟩ := save_error ran
              exact h.grown grown
          | ok path =>
              obtain ⟨-, -, l, located, found, -⟩ := save_ok ran
              exact ⟨l, located, found⟩

theorem after_maintained {calls : List Call} (same : ∀ call ∈ calls, call.settings.outputDir = dir) :
    Maintained dir t (after t calls) := by
  have run (p : Progress) (h : Maintained dir t p) : Maintained dir t (calls.foldl Progress.next p) := by
    induction calls generalizing p with
    | nil => exact h
    | cons call calls ih =>
        rw [List.forall_mem_cons] at same
        exact ih same.2 (p.next call) (h.next same.1)
  exact run ⟨t, none⟩ (.refl _ t)

end Progress

/-! ## The same update again -/

theorem save_again {settings : Settings} {base : Path} {suite : Suite} {p : String}
    (saved : (save settings (.onDisk base) suite).ends t = (.ok p, t')) :
    ∃ t'', (save settings (.onDisk base) suite).ends t' = (.ok p, t'') ∧ AgreeBut ∅ t' t'' := by
  obtain ⟨rfl, beside, l, located, found, -⟩ := save_ok saved
  obtain ⟨t₁, replaced⟩ : ∃ t₁, FileTree.replace t₁ (base.join suiteFile) (content settings suite) =
      (.ok (), t') := by
    rw [ends_save] at saved
    split at saved
    · cases saved
    · split at saved
      · cases saved
      · rename_i replaced
        cases saved
        exact ⟨_, replaced⟩
  obtain ⟨t'', again, -, found', agree⟩ := FileTree.replace_again (suiteFile_endsIn base)
    (FileTree.replace_directory replaced) located found (FileTree.replace_accepts replaced)
  refine ⟨t'', ?_, ?_⟩
  · rw [ends_save, FileTree.makeDirectories_again beside]
    dsimp only
    rw [again]
  · apply AgreeBut.remove (l := l)
    · simpa using agree
    · rw [found, found']

theorem run_again {settings : Settings} {server : Http.Peer} {p : String}
    (ran : (run settings server).ends t = (.ok p, t')) :
    ∃ t'', (run settings server).ends t' = (.ok p, t'') ∧ AgreeBut ∅ t' t'' := by
  rw [ends_run] at ran ⊢
  split at ran
  · cases ran
  · exact save_again ran

/-! ## The file with the suite -/

/-- After any calls for one directory whose path has no two dots in it, the file with the suite there holds
what the last successful update has saved, laid out as its settings say. Before the first one, the path
names what it named in the beginning, unchanged down to the entries below it. A successful update that is
repeated comes to the same and leaves the whole tree as it is. -/
theorem suiteFile_history (straight : ".." ∉ dir.names) (rooted : t.Rooted) {calls : List Call}
    (same : ∀ call ∈ calls, call.settings.outputDir = dir) :
    (match (Progress.after t calls).saved with
      | some (settings, suite) => (Progress.after t calls).tree.read (dir.join suiteFile) =
          .ok (Text.utf8 (suite.encode (if settings.pretty then .indented else .compact)).toList)
      | none => (Progress.after t calls).tree.find? (dir.join suiteFile) = t.find? (dir.join suiteFile) ∧
          ∀ l, t.locate (dir.join suiteFile) = .ok l →
            ∀ below, (Progress.after t calls).tree.get? (below ++ l) = t.get? (below ++ l)) ∧
    ∀ settings server (t t' : FileTree) p, (run settings server).ends t = (.ok p, t') →
      ∃ t'', (run settings server).ends t' = (.ok p, t'') ∧ AgreeBut ∅ t' t'' := by
  refine ⟨?_, fun settings server t t' p => run_again⟩
  have maintained : (Progress.after t calls).Maintained dir t := Progress.after_maintained same
  unfold Progress.Maintained at maintained
  split at maintained
  · rename_i none
    rw [none]
    refine ⟨find?_grown rooted straight maintained, fun l located below => ?_⟩
    exact grown_below maintained straight (Or.inl located) below
  · rename_i settings suite saved
    rw [saved]
    obtain ⟨l, located, found⟩ := maintained
    exact FileTree.read_of_locate located found

def threeCalls : List Call :=
  [.run (constantSettings "out") (constantServer oneRow),
    .run (constantSettings "out") (constantServer "lost"),
    .preview (constantSettings "out") (constantServer noRows)]

theorem suiteFile_history_threeCalls :
    (Progress.after oldSuite threeCalls).saved = some (constantSettings "out", [{ expr := "1" }]) ∧
      (Progress.after oldSuite threeCalls).tree.read (Path.join "out" suiteFile) =
        .ok (Text.utf8 (Suite.encode .compact [{ expr := "1" }]).toList) := by
  have saved : (Progress.after oldSuite threeCalls).saved =
      some (constantSettings "out", [{ expr := "1" }]) := by
    decide +kernel
  have straight : ".." ∉ Path.names "out" := by decide
  have rooted : oldSuite.Rooted := FileTree.rooted_of_entries (by decide)
  have same : ∀ call ∈ threeCalls, call.settings.outputDir = "out" := by
    simp [threeCalls, Call.settings, constantSettings]
  have history := suiteFile_history straight rooted same
  simp only [saved] at history
  exact ⟨saved, history.1⟩

end Update

end SheetSuite
