import SheetSuite.Proofs.Template.Expansion
import Mathlib.Data.List.Infix

/-!
# One way to divide a text

A text is a literal, followed by references with a literal each. A name is not empty and has no closing brace, and
no reference begins in a literal: where `${` stands in it, `}` follows at once, and only the last literal may also
leave it open (`Division.IsProper`). Each text has such a division, which the scan for references finds
(`Division.exists_toPieces`), and it has no other one (`Division.IsProper.pieces_join`). So expanding replaces the
references of this division and does not look at what it puts there (`expand_of_division`).
-/

namespace SheetSuite.Template

variable {s : List Char}

/-! ## Literals -/

/-- Wherever `${` stands in the text, `}` follows at once. -/
def Nameless (s : List Char) : Prop :=
  ∀ t ∈ s.tails, ['$', '{'] <+: t → ['$', '{', '}'] <+: t

/-- Wherever `${` stands in the text, `}` follows at once or nowhere. -/
def NamelessAtEnd (s : List Char) : Prop :=
  ∀ t ∈ s.tails, ['$', '{'] <+: t → ['$', '{', '}'] <+: t ∨ '}' ∉ t

instance : DecidablePred Nameless :=
  fun s => inferInstanceAs (Decidable (∀ t ∈ s.tails, ['$', '{'] <+: t → ['$', '{', '}'] <+: t))

instance : DecidablePred NamelessAtEnd :=
  fun s => inferInstanceAs (Decidable (∀ t ∈ s.tails, ['$', '{'] <+: t → ['$', '{', '}'] <+: t ∨ '}' ∉ t))

theorem nameless_nil : Nameless [] := by
  simp [Nameless]

theorem namelessAtEnd_nil : NamelessAtEnd [] := by
  simp [NamelessAtEnd]

theorem pieces_of_namelessAtEnd (h : NamelessAtEnd s) : pieces s = ⟨s, []⟩ := by
  apply Text.cut_of_free
  intro c t suffix
  exact referenceLength?_eq_none.2 (h _ ((List.mem_tails _ _).2 suffix))

theorem Nameless.pieces_append (h : Nameless s) {rest : List Char} (apart : rest.head? ≠ some '{') :
    pieces (s ++ rest) = (pieces rest).prepend s := by
  apply Text.cut_append
  intro c t suffix
  apply referenceLength?_eq_none.2
  intro start
  have empty := h _ ((List.mem_tails _ _).2 suffix) (start_of_append apart start)
  exact Or.inl (empty.trans (List.prefix_append _ rest))

theorem NamelessAtEnd.cons {c : Char} (none : referenceLength? (c :: s) = none) (h : NamelessAtEnd s) :
    NamelessAtEnd (c :: s) := by
  intro t member
  rcases List.mem_cons.1 member with rfl | member
  · exact referenceLength?_eq_none.1 none
  · exact h t member

theorem Nameless.cons {c : Char} {name rest : List Char}
    (none : referenceLength? (c :: (s ++ (reference name ++ rest))) = none) (h : Nameless s) :
    Nameless (c :: s) := by
  intro t member start
  rcases List.mem_cons.1 member with rfl | member
  · have later := start.trans (List.prefix_append (c :: s) (reference name ++ rest))
    -- Something closes the brace, at the latest the reference, so it has to be closed at once.
    rcases referenceLength?_eq_none.1 none later with empty | unended
    · obtain ⟨after, equal⟩ := start
      cases equal
      cases after with
      | nil => simp [reference] at empty
      | cons d after => simpa using empty
    · simp [reference] at unended
  · exact h t member start

/-! ## Divisions -/

/-- A text divided into literals and references: the first literal, then the names, each with the literal after
its reference. -/
structure Division where
  lead : String
  rest : List (String × String)
  deriving Repr, DecidableEq

namespace Division

def parts (d : Division) : List Part :=
  .literal d.lead :: d.rest.flatMap fun (name, literal) => [.reference name, .literal literal]

def names (d : Division) : List String :=
  d.rest.map Prod.fst

def WellDivided : String → List (String × String) → Prop
  | literal, [] => NamelessAtEnd literal.toList
  | literal, (name, next) :: rest =>
      Nameless literal.toList ∧ (Part.reference name).IsProper ∧ WellDivided next rest

instance decidableWellDivided : ∀ literal rest, Decidable (WellDivided literal rest)
  | literal, [] => inferInstanceAs (Decidable (NamelessAtEnd literal.toList))
  | literal, (name, next) :: rest =>
    have : Decidable (WellDivided next rest) := decidableWellDivided next rest
    inferInstanceAs (Decidable
      (Nameless literal.toList ∧ (Part.reference name).IsProper ∧ WellDivided next rest))

/-- No reference begins in a literal, and the names can be referred to. -/
def IsProper (d : Division) : Prop :=
  WellDivided d.lead d.rest

instance : DecidablePred IsProper :=
  fun d => decidableWellDivided d.lead d.rest

def toPieces (d : Division) : Text.Pieces :=
  ⟨d.lead.toList, d.rest.map fun (name, literal) => (reference name.toList, literal.toList)⟩

theorem toPieces_cons (lead name next : String) (rest : List (String × String)) :
    toPieces ⟨lead, (name, next) :: rest⟩ =
      ((toPieces ⟨next, rest⟩).mark (reference name.toList)).prepend lead.toList := by
  simp [toPieces, Text.Pieces.mark, Text.Pieces.prepend]

theorem toPieces_injective : Function.Injective toPieces := by
  intro ⟨lead, rest⟩ ⟨lead', rest'⟩ equal
  simp only [toPieces, Text.Pieces.mk.injEq, String.toList_inj] at equal
  have same : rest = rest' := by
    apply List.map_injective_iff.2 _ equal.2
    intro ⟨name, literal⟩ ⟨name', literal'⟩ equal
    simpa [reference, String.toList_inj] using equal
  rw [equal.1, same]

theorem toList_meaning_parts (lookup : String → Option String) (d : Division) :
    (meaning lookup d.parts).toList =
      d.toPieces.lead ++ d.toPieces.parts.flatMap fun part => resolve lookup part.1 ++ part.2 := by
  have literal (text : String) : (Part.literal text).meaning lookup = text := rfl
  simp [meaning, parts, toPieces, List.map_flatMap, List.flatMap_map, List.flatMap_assoc, literal,
    Part.toList_meaning_reference]

theorem join_toPieces (d : Division) : d.toPieces.join = (text d.parts).toList := by
  have same (found : List Char) : resolve (fun _ => none) found = found := rfl
  simp [← meaning_none, toList_meaning_parts, same, Text.Pieces.join, List.flatMap_def]

/-! ## The scan finds a division -/

def push (c : Char) (d : Division) : Division :=
  { d with lead := String.singleton c ++ d.lead }

def mark (name : String) (d : Division) : Division :=
  ⟨"", (name, d.lead) :: d.rest⟩

theorem toPieces_push (c : Char) (d : Division) : (d.push c).toPieces = d.toPieces.push c := by
  simp [push, toPieces, Text.Pieces.push]

theorem toPieces_mark (name : String) (d : Division) :
    (d.mark name).toPieces = d.toPieces.mark (reference name.toList) := rfl

theorem IsProper.push {c : Char} {d : Division} (none : referenceLength? (c :: d.toPieces.join) = none)
    (proper : d.IsProper) : (d.push c).IsProper := by
  obtain ⟨lead, rest⟩ := d
  have longer : (Division.push c ⟨lead, rest⟩).lead.toList = c :: lead.toList := by simp [Division.push]
  cases rest with
  | nil =>
      change NamelessAtEnd (Division.push c ⟨lead, []⟩).lead.toList
      rw [longer]
      exact NamelessAtEnd.cons (by simpa [toPieces, Text.Pieces.join] using none) proper
  | cons part rest =>
      obtain ⟨nameless, known, later⟩ := proper
      refine ⟨?_, known, later⟩
      rw [toPieces_cons, Text.Pieces.join_prepend, Text.Pieces.join_mark] at none
      rw [longer]
      exact nameless.cons none

theorem IsProper.mark {name : String} {d : Division} (known : (Part.reference name).IsProper)
    (proper : d.IsProper) : (d.mark name).IsProper :=
  ⟨nameless_nil, known, proper⟩

theorem exists_toPieces (s : List Char) : ∃ d : Division, d.IsProper ∧ d.toPieces = pieces s := by
  have pos : ∀ s n, referenceLength? s = some n → 0 < n := fun _ _ => referenceLength?_pos
  refine Text.cut_induction (motive := fun _ p => ∃ d : Division, d.IsProper ∧ d.toPieces = p) pos
    ⟨⟨"", []⟩, namelessAtEnd_nil, rfl⟩ ?_ ?_ s
  · rintro c s none ⟨d, proper, equal⟩
    refine ⟨d.push c, proper.push ?_, ?_⟩
    · rwa [equal, Text.join_cut pos]
    · rw [toPieces_push, equal]
  · rintro s n found ⟨d, proper, equal⟩
    obtain ⟨name, rest, rfl, rfl, full, braceless⟩ := referenceLength?_eq_some found
    rw [List.drop_left] at equal ⊢
    refine ⟨d.mark (String.ofList name), proper.mark ?_, ?_⟩
    · exact ⟨by simpa using full, by simpa using braceless⟩
    · rw [toPieces_mark, equal, String.toList_ofList, List.take_left]

/-! ## The scan leaves no choice -/

theorem IsProper.pieces_join {d : Division} (proper : d.IsProper) : pieces d.toPieces.join = d.toPieces := by
  obtain ⟨lead, rest⟩ := d
  induction rest generalizing lead with
  | nil =>
      have join : Text.Pieces.join (toPieces ⟨lead, []⟩) = lead.toList := by simp [toPieces, Text.Pieces.join]
      rw [join]
      exact pieces_of_namelessAtEnd proper
  | cons part rest ih =>
      obtain ⟨name, next⟩ := part
      obtain ⟨nameless, known, later⟩ := proper
      have full : name.toList ≠ [] := by simpa using known.1
      rw [toPieces_cons, Text.Pieces.join_prepend, Text.Pieces.join_mark,
        nameless.pieces_append (by simp [reference]), pieces_reference_append full known.2, ih next later]

theorem existsUnique_isProper (t : String) : ∃! d : Division, d.IsProper ∧ text d.parts = t := by
  obtain ⟨d, proper, equal⟩ := exists_toPieces t.toList
  refine ⟨d, ⟨proper, ?_⟩, ?_⟩
  · rw [← String.toList_inj, ← join_toPieces, equal, join_pieces]
  · rintro d' ⟨proper', rfl⟩
    apply toPieces_injective
    rw [equal, ← join_toPieces, proper'.pieces_join]

theorem IsProper.expand_text {d : Division} (proper : d.IsProper) (lookup : String → Option String) :
    expand lookup (text d.parts) = meaning lookup d.parts := by
  rw [← String.toList_inj, toList_expand, toList_meaning_parts, expanded, ← join_toPieces, proper.pieces_join]

theorem mem_names {d : Division} {name : String} (inside : .reference name ∈ d.parts) : name ∈ d.names := by
  simpa [parts, names] using inside

end Division

/-- Every text is divided into literals and references in one way. Expanding it replaces each of these references by
the value of its variable, or leaves it if there is none. So nothing changes if none of the names is defined, and
variables that only the values refer to do not count. -/
theorem expand_of_division (t : String) :
    (∃! d : Division, d.IsProper ∧ text d.parts = t) ∧
      ∀ d : Division, d.IsProper → text d.parts = t → ∀ lookup : String → Option String,
        expand lookup t = meaning lookup d.parts ∧
          ((∀ name ∈ d.names, lookup name = none) → expand lookup t = t) ∧
          ∀ other : String → Option String, (∀ name ∈ d.names, other name = lookup name) →
            expand other t = expand lookup t := by
  refine ⟨Division.existsUnique_isProper t, ?_⟩
  rintro d proper rfl lookup
  have counted {one other : String → Option String} (same : ∀ name ∈ d.names, other name = one name) :
      meaning other d.parts = meaning one d.parts :=
    meaning_congr fun name inside => same name (Division.mem_names inside)
  refine ⟨proper.expand_text lookup, fun undefined => ?_, fun other same => ?_⟩
  · rw [proper.expand_text, ← meaning_none, counted undefined]
  · rw [proper.expand_text, proper.expand_text, counted same]

-- An empty name is none, a sign before a reference is a literal, and a name may have an opening brace in it.
example : let d : Division := ⟨"$\x7b\x7d$", [("A", ""), ("$\x7bB", "$\x7b")]⟩
    d.IsProper ∧ text d.parts = "$\x7b\x7d$$\x7bA\x7d$\x7b$\x7bB\x7d$\x7b" := by
  decide +kernel

end SheetSuite.Template
