import SheetSuite.Template
import SheetSuite.Proofs.Text.Cut

namespace SheetSuite.Template

variable {lookup : String → Option String} {s t : List Char}

def expanded (lookup : String → Option String) (s : List Char) : List Char :=
  (pieces s).lead ++ (pieces s).parts.flatMap fun part => resolve lookup part.1 ++ part.2

theorem toList_expand (lookup : String → Option String) (text : String) :
    (expand lookup text).toList = expanded lookup text.toList := by
  simp [expand, expanded]

@[simp] theorem expanded_nil : expanded lookup [] = [] := rfl

def reference (name : List Char) : List Char :=
  '$' :: '{' :: (name ++ ['}'])

theorem name_reference (name : List Char) : Template.name (reference name) = String.ofList name := by
  simp [Template.name, reference]

theorem takeWhile_braceless {name rest : List Char} (braceless : '}' ∉ name) (stop : ∀ c ∈ rest.head?, c = '}') :
    (name ++ rest).takeWhile (· != '}') = name := by
  refine Text.takeWhile_run ?_ ?_
  · intro c member
    rw [bne_iff_ne]
    rintro rfl
    exact braceless member
  · intro c first
    simp [stop c first]

theorem referenceLength?_reference {name : List Char} (full : name ≠ []) (braceless : '}' ∉ name)
    (rest : List Char) : referenceLength? (reference name ++ rest) = some (reference name).length := by
  have scanned : (name ++ '}' :: rest).takeWhile (· != '}') = name := takeWhile_braceless braceless (by simp)
  have text : reference name ++ rest = '$' :: '{' :: (name ++ '}' :: rest) := by simp [reference]
  rw [text, referenceLength?]
  simp [scanned, full, reference]

theorem referenceLength?_eq_none :
    referenceLength? s = none ↔ (['$', '{'] <+: s → ['$', '{', '}'] <+: s ∨ '}' ∉ s) := by
  unfold referenceLength?
  split
  · rename_i s
    by_cases ended : '}' ∈ s
    · obtain ⟨name, tail, rfl, braceless⟩ := List.eq_append_cons_of_mem ended
      have scanned : (name ++ '}' :: tail).takeWhile (· != '}') = name := takeWhile_braceless braceless (by simp)
      cases name with
      | nil => simp
      | cons c name =>
          have other : '}' ≠ c := List.ne_of_not_mem_cons braceless
          simp only [scanned]
          simp [other]
    · have whole : (s ++ []).takeWhile (· != '}') = s := takeWhile_braceless ended (by simp)
      rw [List.append_nil] at whole
      simp [whole, ended]
  · rename_i other
    have apart : ¬['$', '{'] <+: s := by
      rintro ⟨rest, rfl⟩
      exact other rest rfl
    simp [apart]

theorem referenceLength?_eq_some {n : Nat} (h : referenceLength? s = some n) :
    ∃ name rest, s = reference name ++ rest ∧ n = (reference name).length ∧ name ≠ [] ∧ '}' ∉ name := by
  have found : ¬(['$', '{'] <+: s → ['$', '{', '}'] <+: s ∨ '}' ∉ s) := by
    rw [← referenceLength?_eq_none, h]
    simp
  obtain ⟨⟨after, rfl⟩, named⟩ := Classical.not_imp.1 found
  obtain ⟨later, ended⟩ := not_or.1 named
  have ended : '}' ∈ after := by simpa using ended
  obtain ⟨name, rest, rfl, braceless⟩ := List.eq_append_cons_of_mem ended
  have full : name ≠ [] := by
    rintro rfl
    exact later ⟨rest, rfl⟩
  have text : ['$', '{'] ++ (name ++ '}' :: rest) = reference name ++ rest := by simp [reference]
  rw [text, referenceLength?_reference full braceless] at h
  exact ⟨name, rest, text, (Option.some.inj h).symm, full, braceless⟩

theorem start_of_append {c : Char} {rest : List Char} (apart : rest.head? ≠ some '{')
    (start : ['$', '{'] <+: c :: (s ++ rest)) : ['$', '{'] <+: c :: s := by
  cases s with
  | nil =>
      obtain ⟨after, rfl⟩ : ['{'] <+: rest := (List.cons_prefix_cons.1 start).2
      exact absurd rfl apart
  | cons d s => simpa using start

theorem expanded_literal_append (free : '$' ∉ s) (rest : List Char) :
    expanded lookup (s ++ rest) = s ++ expanded lookup rest := by
  have cut : pieces (s ++ rest) = (pieces rest).prepend s := by
    refine Text.cut_append fun c s' suffix => referenceLength?_eq_none.2 fun start => ?_
    obtain ⟨rfl, -⟩ := List.cons_prefix_cons.1 start
    exact absurd (suffix.mem List.mem_cons_self) free
  simp [expanded, cut, Text.Pieces.prepend]

theorem pieces_reference_append {name : List Char} (full : name ≠ []) (braceless : '}' ∉ name)
    (rest : List Char) : pieces (reference name ++ rest) = (pieces rest).mark (reference name) :=
  Text.cut_match_append (by simp [reference]) (referenceLength?_reference full braceless rest)

theorem expanded_reference_append {name : List Char} (full : name ≠ []) (braceless : '}' ∉ name)
    (rest : List Char) : expanded lookup (reference name ++ rest) =
      resolve lookup (reference name) ++ expanded lookup rest := by
  simp [expanded, pieces_reference_append full braceless, Text.Pieces.mark]

/-- No reference is left open at the end of the text, so whatever follows is expanded by itself. -/
def IsClosed (lookup : String → Option String) (s : List Char) : Prop :=
  ∀ rest, expanded lookup (s ++ rest) = expanded lookup s ++ expanded lookup rest

theorem isClosed_of_append {s' : List Char}
    (h : ∀ rest, expanded lookup (s ++ rest) = s' ++ expanded lookup rest) :
    IsClosed lookup s ∧ expanded lookup s = s' := by
  have same : expanded lookup s = s' := by simpa using h []
  refine ⟨fun rest => ?_, same⟩
  rw [h, same]

theorem isClosed_literal (lookup : String → Option String) (free : '$' ∉ s) :
    IsClosed lookup s ∧ expanded lookup s = s :=
  isClosed_of_append (expanded_literal_append free)

theorem expand_of_notMem {text : String} (free : '$' ∉ text.toList) (lookup : String → Option String) :
    expand lookup text = text := by
  rw [← String.toList_inj, toList_expand]
  exact (isClosed_literal lookup free).2

theorem IsClosed.append (first : IsClosed lookup s) (second : IsClosed lookup t) :
    IsClosed lookup (s ++ t) := by
  intro rest
  rw [List.append_assoc, first, second, first, List.append_assoc]

inductive Part where
  | literal (text : String)
  | reference (name : String)
  deriving Repr, DecidableEq

namespace Part

/-- A literal has no dollar sign. A name is not empty and has no closing brace. -/
def IsProper : Part → Prop
  | literal text => '$' ∉ text.toList
  | reference name => name ≠ "" ∧ '}' ∉ name.toList

instance : DecidablePred IsProper
  | literal text => inferInstanceAs (Decidable ('$' ∉ text.toList))
  | reference name => inferInstanceAs (Decidable (name ≠ "" ∧ '}' ∉ name.toList))

def text : Part → String
  | literal text => text
  | reference name => "$\x7b" ++ name ++ "\x7d"

def meaning (lookup : String → Option String) : Part → String
  | literal text => text
  | reference name => (lookup name).getD (text (.reference name))

theorem toList_text_reference (name : String) :
    (text (.reference name)).toList = Template.reference name.toList := by
  simp [text, Template.reference]

theorem toList_meaning_reference (lookup : String → Option String) (name : String) :
    (meaning lookup (.reference name)).toList = resolve lookup (Template.reference name.toList) := by
  rw [meaning, resolve, name_reference, String.ofList_toList]
  cases lookup name with
  | none => exact toList_text_reference name
  | some value => rfl

theorem IsProper.expanded_append {part : Part} (proper : part.IsProper) (rest : List Char) :
    expanded lookup (part.text.toList ++ rest) =
      (part.meaning lookup).toList ++ expanded lookup rest := by
  cases part with
  | literal text => exact expanded_literal_append proper rest
  | reference name =>
      rw [toList_text_reference, toList_meaning_reference]
      exact expanded_reference_append (by simpa using proper.1) proper.2 rest

end Part

def text (parts : List Part) : String :=
  String.join (parts.map Part.text)

def meaning (lookup : String → Option String) (parts : List Part) : String :=
  String.join (parts.map (Part.meaning lookup))

theorem toList_text_cons (part : Part) (parts : List Part) :
    (text (part :: parts)).toList = part.text.toList ++ (text parts).toList := by
  simp [text]

theorem toList_meaning_cons (lookup : String → Option String) (part : Part) (parts : List Part) :
    (meaning lookup (part :: parts)).toList =
      (part.meaning lookup).toList ++ (meaning lookup parts).toList := by
  simp [meaning]

theorem meaning_none (parts : List Part) : meaning (fun _ => none) parts = text parts := by
  refine congrArg String.join (List.map_congr_left fun part _ => ?_)
  cases part with
  | literal => rfl
  | reference => rfl

theorem meaning_congr {other : String → Option String} {parts : List Part}
    (same : ∀ name, .reference name ∈ parts → other name = lookup name) :
    meaning other parts = meaning lookup parts := by
  refine congrArg String.join (List.map_congr_left fun part member => ?_)
  cases part with
  | literal => rfl
  | reference name => rw [Part.meaning, Part.meaning, same name member]

theorem expanded_text_append {parts : List Part} (proper : ∀ part ∈ parts, part.IsProper)
    (rest : List Char) : expanded lookup ((text parts).toList ++ rest) =
      (meaning lookup parts).toList ++ expanded lookup rest := by
  induction parts with
  | nil => simp [text, meaning]
  | cons part parts ih =>
      obtain ⟨first, proper⟩ := List.forall_mem_cons.1 proper
      rw [toList_text_cons, toList_meaning_cons, List.append_assoc, first.expanded_append, ih proper,
        List.append_assoc]

/-- A template is closed, and it is expanded to what it stands for. -/
theorem isClosed_text (lookup : String → Option String) {parts : List Part}
    (proper : ∀ part ∈ parts, part.IsProper) : IsClosed lookup (text parts).toList ∧
      expanded lookup (text parts).toList = (meaning lookup parts).toList :=
  isClosed_of_append (expanded_text_append proper)

theorem expand_text {parts : List Part} (proper : ∀ part ∈ parts, part.IsProper) :
    expand lookup (text parts) = meaning lookup parts := by
  rw [← String.toList_inj, toList_expand]
  exact (isClosed_text lookup proper).2

theorem mem_meaning {parts : List Part} {c : Char} (inside : c ∈ (meaning lookup parts).toList) :
    c ∈ (text parts).toList ∨
      ∃ name value, .reference name ∈ parts ∧ lookup name = some value ∧ c ∈ value.toList := by
  have own : ∃ part ∈ parts, c ∈ (part.meaning lookup).toList := by simpa [meaning] using inside
  obtain ⟨part, there, inside⟩ := own
  have kept (inside : c ∈ part.text.toList) : c ∈ (text parts).toList := by
    simpa [text] using ⟨part, there, inside⟩
  cases part with
  | literal text => exact .inl (kept inside)
  | reference name =>
      rw [Part.meaning] at inside
      cases found : lookup name with
      | none =>
          rw [found] at inside
          exact .inl (kept inside)
      | some value =>
          rw [found] at inside
          exact .inr ⟨name, value, there, found, inside⟩

end SheetSuite.Template
