import SheetSuite.Settings
import SheetSuite.Proofs.Except
import SheetSuite.Proofs.Template.Expansion
import SheetSuite.Proofs.Text.Utf8
import SheetSuite.Proofs.Toml.Tables
import Mathlib.Data.List.Perm.Basic

namespace SheetSuite

theorem lookup_perm {α : Type} {l l' : List (String × α)} (same : l.Perm l')
    (distinct : (l.map Prod.fst).Nodup) (key : String) : l.lookup key = l'.lookup key := by
  induction same with
  | nil => rfl
  | cons x _ ih =>
      obtain ⟨-, distinct⟩ := List.nodup_cons.1 distinct
      rw [List.lookup_cons, List.lookup_cons, ih distinct]
  | swap x y l =>
      obtain ⟨k, a⟩ := x
      obtain ⟨k', a'⟩ := y
      have other : k' ≠ k := by
        rintro rfl
        simp at distinct
      by_cases first : key = k
      · have second : key ≠ k' := fun equal => other (equal.symm.trans first)
        simp only [List.lookup_cons, beq_iff_eq.2 first, beq_eq_false_iff_ne.2 second]
      · simp only [List.lookup_cons, beq_eq_false_iff_ne.2 first]
  | trans first _ ih ih' =>
      exact (ih distinct).trans (ih' ((first.map Prod.fst).nodup_iff.1 distinct))

namespace Settings

open Toml (Literal)

def members (first second : String) (l : Literal) (m : Option Literal) : List (String × Literal) :=
  (first, l) :: (m.map fun l => (second, l)).toList

def sourceMembers (s : Settings) : List (String × Literal) :=
  members "endpoint" "timeout_seconds" (.text s.feedUrl) (s.timeoutSeconds.map .number)

def loadMembers (s : Settings) (pretty : Option Bool) : List (String × Literal) :=
  members "output_dir" "pretty" (.text s.outputDir) (pretty.map .flag)

/-- The text is a document of two tables that give the settings. That nothing is indented need not be said. -/
def IsWritten (s : Settings) (text : String) : Prop :=
  ∃ (tables : Toml.Tables) (source load : List (String × Literal)) (pretty : Option Bool),
    source.Perm s.sourceMembers ∧ load.Perm (s.loadMembers pretty) ∧ pretty.getD false = s.pretty ∧
      tables.Perm [("source", source), ("load", load)] ∧ Toml.Document tables.statements text.toList

def fileText (s : Settings) : String :=
  let tables : Toml.Tables := [("source", s.sourceMembers), ("load", s.loadMembers (some s.pretty))]
  String.ofList (tables.statements.flatMap fun st => st.write ++ ['\n'])

theorem isWritten_fileText {s : Settings} (url : Toml.IsPlain s.feedUrl.toList)
    (dir : Toml.IsPlain s.outputDir.toList) : s.IsWritten s.fileText := by
  refine ⟨_, _, _, some s.pretty, .refl _, .refl _, rfl, .refl _, ?_⟩
  rw [fileText, String.toList_ofList]
  apply Toml.document_write
  -- The texts are plain by assumption, and all keys are bare.
  cases timeout : s.timeoutSeconds <;>
    simp [Toml.Tables.statements, Toml.membersOf, sourceMembers, loadMembers, members, timeout,
      Toml.Statement.IsWritable, url, dir] <;>
    decide

theorem members_nodup {first second : String} (other : first ≠ second) (l : Literal) (m : Option Literal) :
    ((members first second l m).map Prod.fst).Nodup := by
  cases m <;> simp [members, other]

theorem Section.read_members {α β : Type} (s : Section α β) (other : s.first ≠ s.second) {l : Literal}
    {m : Option Literal} {ms : List (String × Literal)} (same : ms.Perm (members s.first s.second l m))
    {a : α} {b : Option β} (first : s.readFirst l.value = .ok a)
    (second : optional s.readSecond (m.map Literal.value) = .ok b) :
    s.read (.table .header (Toml.entriesOf ms)) = .ok (a, b) := by
  have found (key : String) : (Toml.entriesOf ms).lookup key =
      (Toml.entriesOf (members s.first s.second l m)).lookup key := by
    refine lookup_perm (same.map _) ?_ key
    rw [List.map_map]
    exact (same.map Prod.fst).nodup_iff.2 (members_nodup other l m)
  have foundFirst : (Toml.entriesOf ms).lookup s.first = some l.value := by
    rw [found]
    simp [Toml.entriesOf, members]
  have foundSecond : (Toml.entriesOf ms).lookup s.second = m.map Literal.value := by
    rw [found]
    cases m <;> simp [Toml.entriesOf, members, List.lookup_cons, beq_eq_false_iff_ne.2 other.symm]
  rw [read, ofEntries, foundFirst, foundSecond, second]
  simp [optional, first]

theorem word_integer {n : Nat} (small : n < UInt64.size) : word (.integer n) = .ok n := by
  have inside : (n : Int) < fullWord := by
    unfold UInt64.size at small
    unfold fullWord
    omega
  simp [word, inside]

theorem read_source {s : Settings} {source : List (String × Literal)} (same : source.Perm s.sourceMembers)
    (fits : ∀ n ∈ s.timeoutSeconds, n < UInt64.size) :
    sourceSection.read (.table .header (Toml.entriesOf source)) = .ok (s.feedUrl, s.timeoutSeconds) := by
  refine sourceSection.read_members (by decide) same rfl ?_
  cases timeout : s.timeoutSeconds with
  | none => rfl
  | some n => simp [Section.optional, sourceSection, Literal.value, word_integer (fits n timeout)]

theorem read_load {s : Settings} {load : List (String × Literal)} {pretty : Option Bool}
    (same : load.Perm (s.loadMembers pretty)) :
    loadSection.read (.table .header (Toml.entriesOf load)) = .ok (s.outputDir, pretty) := by
  refine loadSection.read_members (by decide) same rfl ?_
  cases pretty <;> rfl

theorem ofText_of_expand {s : Settings} {text : String} {env : Environment}
    (written : IsWritten s (Template.expand env.value? text))
    (fits : ∀ n ∈ s.timeoutSeconds, n < UInt64.size) : ofText env text = .ok s := by
  obtain ⟨tables, source, load, pretty, sameSource, sameLoad, indented, sameTables, document⟩ := written
  have names : (tables.map Prod.fst).Nodup := (sameTables.map Prod.fst).nodup_iff.2 (by simp)
  have keys : ∀ table ∈ tables, (table.2.map Prod.fst).Nodup := by
    intro table inside
    rcases List.mem_pair.1 (sameTables.mem_iff.1 inside) with rfl | rfl
    · exact (sameSource.map Prod.fst).nodup_iff.2 (members_nodup (by decide) _ _)
    · exact (sameLoad.map Prod.fst).nodup_iff.2 (members_nodup (by decide) _ _)
  have found (key : String) : tables.entries.lookup key =
      (Toml.Tables.entries [("source", source), ("load", load)]).lookup key := by
    refine lookup_perm (sameTables.map _) ?_ key
    rw [List.map_map]
    exact names
  have made : ofEntries tables.entries = .ok s := by
    simp only [ofEntries, found]
    simp [Toml.Tables.entries, Section.optional, read_source sameSource fits, read_load sameLoad, indented,
      List.lookup_cons]
  rw [ofText, Toml.document?_tables document names keys]
  simp [made]

theorem ofText_of_isWritten {s : Settings} {text : String} (written : IsWritten s text)
    (literal : '$' ∉ text.toList) (fits : ∀ n ∈ s.timeoutSeconds, n < UInt64.size) (env : Environment) :
    ofText env text = .ok s := by
  refine ofText_of_expand ?_ fits
  rwa [Template.expand_of_notMem literal]

theorem ofFile_of_isWritten {s : Settings} {text : String} (written : IsWritten s text)
    (literal : '$' ∉ text.toList) (fits : ∀ n ∈ s.timeoutSeconds, n < UInt64.size) (env : Environment)
    {t : FileTree} {path : Path} (held : t.read path = .ok (Text.utf8 text.toList)) :
    ofFile env t path = .ok s := by
  have read : readText t path = .ok text := by
    rw [readText, held, ok_bind, Text.strict?_utf8]
  rw [ofFile, read]
  exact ofText_of_isWritten written literal fits env

end Settings

end SheetSuite
