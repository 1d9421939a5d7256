import SheetSuite.Proofs.Settings.File
import SheetSuite.Proofs.Toml.Expansion

namespace SheetSuite

open Template (IsClosed isClosed_literal isClosed_text expand_text)

variable {lookup : String → Option String}

namespace Template

def Part.HasPlainValue (lookup : String → Option String) : Part → Prop
  | literal _ => True
  | reference name => ∀ value ∈ lookup name, Toml.IsPlain value.toList

instance (lookup : String → Option String) : DecidablePred (Part.HasPlainValue lookup)
  | .literal _ => isTrue trivial
  | .reference name => inferInstanceAs (Decidable (∀ value ∈ lookup name, Toml.IsPlain value.toList))

structure IsSafe (lookup : String → Option String) (parts : List Part) : Prop where
  proper : ∀ part ∈ parts, part.IsProper
  plain : ∀ part ∈ parts, part.HasPlainValue lookup

instance (lookup : String → Option String) (parts : List Part) : Decidable (IsSafe lookup parts) :=
  decidable_of_iff ((∀ part ∈ parts, part.IsProper) ∧ ∀ part ∈ parts, part.HasPlainValue lookup)
    ⟨fun ⟨proper, plain⟩ => ⟨proper, plain⟩, fun safe => ⟨safe.proper, safe.plain⟩⟩

namespace IsSafe

variable {parts : List Part}

theorem meaning_plain (safe : IsSafe lookup parts) (plain : Toml.IsPlain (text parts).toList) :
    Toml.IsPlain (meaning lookup parts).toList := by
  intro c inside
  rcases mem_meaning inside with own | ⟨name, value, there, found, inside⟩
  · exact plain c own
  · exact safe.plain _ there value found c inside

end IsSafe

end Template

namespace Toml

def expandMembers (lookup : String → Option String) (ms : List (String × Literal)) :
    List (String × Literal) :=
  ms.map fun m => (m.1, m.2.expand lookup)

def Tables.expand (lookup : String → Option String) (tables : Tables) : Tables :=
  tables.map fun table => (table.1, expandMembers lookup table.2)

theorem statements_expand (tables : Tables) :
    (tables.expand lookup).statements = tables.statements.map (Statement.expand lookup) := by
  simp only [Tables.statements, Tables.expand, List.flatMap_map, List.map_flatMap, List.map_cons, membersOf,
    expandMembers, List.map_map]
  rfl

theorem forall_said_statements {P : List Char → Prop} (empty : P []) (tables : Tables) :
    (∀ st ∈ tables.statements, P st.said) ↔ ∀ table ∈ tables, ∀ m ∈ table.2, P m.2.said := by
  have inTable (name : String) (ms : List (String × Literal)) :
      (∀ st ∈ Statement.header name :: membersOf ms, P st.said) ↔ ∀ m ∈ ms, P m.2.said := by
    rw [List.forall_mem_cons, membersOf, List.forall_mem_map]
    exact and_iff_right empty
  simp only [Tables.statements, List.forall_mem_flatMap, inTable]

end Toml

namespace Settings

open Toml (Literal IsPlain HasComment IsSettled)

def expand (lookup : String → Option String) (s : Settings) : Settings :=
  { s with feedUrl := Template.expand lookup s.feedUrl, outputDir := Template.expand lookup s.outputDir }

theorem sourceMembers_expand (s : Settings) :
    Toml.expandMembers lookup s.sourceMembers = (s.expand lookup).sourceMembers := by
  cases timeout : s.timeoutSeconds <;>
    simp [sourceMembers, members, Toml.expandMembers, expand, Literal.expand, timeout]

theorem loadMembers_expand (s : Settings) (pretty : Option Bool) :
    Toml.expandMembers lookup (s.loadMembers pretty) = (s.expand lookup).loadMembers pretty := by
  cases pretty <;> simp [loadMembers, members, Toml.expandMembers, expand, Literal.expand]

theorem forall_said_members {P : List Char → Prop} (empty : P []) (first second : String) (l : Literal)
    {m : Option Literal} (unsaid : ∀ l ∈ m, l.said = []) :
    (∀ x ∈ members first second l m, P x.2.said) ↔ P l.said := by
  cases m with
  | none => simp [members]
  | some l' => simp [members, unsaid l' rfl, empty]

theorem forall_said {P : List Char → Prop} (empty : P []) {s : Settings} {tables : Toml.Tables}
    {source load : List (String × Literal)} {pretty : Option Bool} (sameSource : source.Perm s.sourceMembers)
    (sameLoad : load.Perm (s.loadMembers pretty))
    (sameTables : tables.Perm [("source", source), ("load", load)]) :
    (∀ st ∈ tables.statements, P st.said) ↔ P s.feedUrl.toList ∧ P s.outputDir.toList := by
  have url : (∀ m ∈ source, P m.2.said) ↔ P s.feedUrl.toList := by
    simp only [sameSource.mem_iff]
    refine forall_said_members empty _ _ (.text s.feedUrl) fun l given => ?_
    obtain ⟨n, -, rfl⟩ := Option.map_eq_some_iff.1 given
    rfl
  have dir : (∀ m ∈ load, P m.2.said) ↔ P s.outputDir.toList := by
    simp only [sameLoad.mem_iff]
    refine forall_said_members empty _ _ (.text s.outputDir) fun l given => ?_
    obtain ⟨b, -, rfl⟩ := Option.map_eq_some_iff.1 given
    rfl
  rw [Toml.forall_said_statements empty]
  simp only [sameTables.mem_iff, List.mem_pair, forall_eq_or_imp, forall_eq, url, dir]

theorem IsWritten.plain {s : Settings} {text : String} (written : s.IsWritten text) :
    IsPlain s.feedUrl.toList ∧ IsPlain s.outputDir.toList := by
  obtain ⟨tables, source, load, pretty, sameSource, sameLoad, -, sameTables, document⟩ := written
  have nothing : IsPlain [] := by decide
  exact (forall_said nothing sameSource sameLoad sameTables).1 document.plain

theorem IsWritten.expand {s : Settings} {text : String} (written : s.IsWritten text)
    (comments : ∀ c, HasComment text.toList c → IsSettled lookup c)
    (closed : IsClosed lookup s.feedUrl.toList ∧ IsClosed lookup s.outputDir.toList)
    (plain : IsPlain (Template.expanded lookup s.feedUrl.toList) ∧
      IsPlain (Template.expanded lookup s.outputDir.toList)) :
    (s.expand lookup).IsWritten (Template.expand lookup text) := by
  obtain ⟨tables, source, load, pretty, sameSource, sameLoad, indented, sameTables, document⟩ := written
  have said {P : List Char → Prop} (empty : P []) := forall_said empty sameSource sameLoad sameTables
  refine ⟨tables.expand lookup, Toml.expandMembers lookup source, Toml.expandMembers lookup load, pretty,
    ?_, ?_, indented, ?_, ?_⟩
  · rw [← sourceMembers_expand]
    exact sameSource.map _
  · rw [← loadMembers_expand]
    exact sameLoad.map _
  · exact sameTables.map _
  · rw [Toml.statements_expand, Template.toList_expand]
    apply document.expanded comments
    · exact (said (isClosed_literal lookup List.not_mem_nil).1).2 closed
    · exact (said (P := fun s => IsPlain (Template.expanded lookup s)) (by simp [IsPlain])).2 plain

/-- Comments are expanded, too: a reference that one leaves open would reach into the settings after it, and a
value with several lines would end it. -/
theorem ofText_of_templates {s : Settings} {text : String} {env : Environment}
    {endpoint outputDir : List Template.Part} (written : s.IsWritten text)
    (url : s.feedUrl = Template.text endpoint) (dir : s.outputDir = Template.text outputDir)
    (safe : Template.IsSafe env.value? endpoint) (safe' : Template.IsSafe env.value? outputDir)
    (comments : ∀ c, HasComment text.toList c → IsSettled env.value? c)
    (fits : ∀ n ∈ s.timeoutSeconds, n < UInt64.size) :
    ofText env text = .ok { s with
      feedUrl := Template.meaning env.value? endpoint
      outputDir := Template.meaning env.value? outputDir } := by
  obtain ⟨plain, plain'⟩ := written.plain
  rw [url] at plain
  rw [dir] at plain'
  obtain ⟨closed, same⟩ := isClosed_text env.value? safe.proper
  obtain ⟨closed', same'⟩ := isClosed_text env.value? safe'.proper
  have expanded : (s.expand env.value?).IsWritten (Template.expand env.value? text) := by
    apply written.expand comments
    · rw [url, dir]
      exact ⟨closed, closed'⟩
    · rw [url, dir, same, same']
      exact ⟨safe.meaning_plain plain, safe'.meaning_plain plain'⟩
  rw [Settings.expand, url, dir, expand_text safe.proper, expand_text safe'.proper] at expanded
  exact ofText_of_expand expanded fits

def commented (comment text : String) : String :=
  "#" ++ comment ++ "\n" ++ text

theorem IsWritten.commented {s : Settings} {comment text : String} (written : s.IsWritten text)
    (inline : Toml.IsInline comment.toList) : s.IsWritten (commented comment text) := by
  obtain ⟨tables, source, load, pretty, sameSource, sameLoad, indented, sameTables, document⟩ := written
  refine ⟨tables, source, load, pretty, sameSource, sameLoad, indented, sameTables, ?_⟩
  have nothing : Toml.AreBlanks [] := by simp [Toml.AreBlanks]
  have line : Toml.IsRest ('#' :: comment.toList ++ ['\n']) text.toList :=
    .mk nothing (.some inline) (.feed _)
  simpa [Settings.commented] using document.rest (by simp) line

theorem hasComment_commented {comment text : String} (inline : Toml.IsInline comment.toList)
    (signless : '#' ∉ comment.toList) (uncommented : ∀ line ∈ Toml.linesOf text.toList, '#' ∉ line)
    {c : List Char} (has : HasComment (commented comment text).toList c) : c = comment.toList := by
  obtain ⟨front, -, line⟩ := has
  have first : Toml.IsInline ('#' :: comment.toList) := List.forall_mem_cons.2 ⟨rfl, inline⟩
  have lines : Toml.linesOf (commented comment text).toList =
      ('#' :: comment.toList) :: Toml.linesOf text.toList := by
    rw [← Toml.linesOf_append first (show Toml.isControl '\n' = true by decide)]
    simp [commented]
  rw [lines, List.mem_cons] at line
  rcases line with equal | later
  · cases front with
    | nil => exact (List.cons.inj equal).2
    | cons x front =>
        rw [← (List.cons.inj equal).2] at signless
        simp at signless
  · exact absurd (by simp) (uncommented _ later)

def nested : Settings where
  feedUrl := "$\x7bHOST\x7d/feed\x7d"
  outputDir := "$\x7bDIR\x7d$\x7bNONE\x7d"

def nestedVariables : Environment :=
  [("HOST", "http://$\x7bDIR\x7d"), ("DIR", "out")]

def nestedText : String :=
  commented " the parts of $\x7bHOST\x7d go to $\x7bDIR\x7d, for 1$" nested.fileText

theorem ofText_of_templates_nested : ofText nestedVariables nestedText =
    .ok { feedUrl := "http://$\x7bDIR\x7d/feed\x7d", outputDir := "out$\x7bNONE\x7d" } := by
  have written : nested.IsWritten nestedText :=
    (isWritten_fileText (by decide) (by decide)).commented (by decide)
  have url : nested.feedUrl = Template.text [.reference "HOST", .literal "/feed\x7d"] := by decide +kernel
  have dir : nested.outputDir = Template.text [.reference "DIR", .reference "NONE"] := by decide +kernel
  have settled (c : List Char) (has : HasComment nestedText.toList c) : IsSettled nestedVariables.value? c := by
    obtain rfl := hasComment_commented (by decide) (by decide) (by decide +kernel) has
    exact ⟨by decide, by decide +kernel⟩
  rw [ofText_of_templates written url dir (by decide +kernel) (by decide +kernel) settled (by decide)]
  decide +kernel

def hosted : Settings where
  feedUrl := "http://$\x7bHOST\x7d/feed"
  outputDir := "out"

def hostedText : String :=
  commented " $\x7b begins a reference" hosted.fileText

/-- A comment that leaves a reference open keeps the one in the settings from being replaced. -/
theorem ofText_after_stray : hosted.IsWritten hostedText ∧
    hosted.feedUrl = Template.text [.literal "http://", .reference "HOST", .literal "/feed"] ∧
    Template.IsSafe Template.oneHost.value? [.literal "http://", .reference "HOST", .literal "/feed"] ∧
    Template.meaning Template.oneHost.value? [.literal "http://", .reference "HOST", .literal "/feed"] =
      "http://example.org/feed" ∧
    ofText Template.oneHost hostedText = .ok hosted := by
  refine ⟨(isWritten_fileText (by decide) (by decide)).commented (by decide), ?_, ?_, ?_, ?_⟩ <;>
    decide +kernel

end Settings

end SheetSuite
