import SheetSuite.Row
import SheetSuite.Proofs.Text.Cut

/-!
# The grammar of rows

A row is a chunk, followed by markers with a chunk each. The grammar says what a marker is, that no chunk
holds a label with its colon, and that the comma before a marker and the space after it belong to the
marker if they are there (`WellCut`). It leaves no choice: the scan for markers finds the one way to read
a row by the grammar (`pieces_eq_iff`), as long as the labels can be told from each other and from the
signs around them (`Separable`).
-/

namespace SheetSuite.Row

variable {labels : List (List Char)} {s rest marker : List Char}

/-! ## Markers and chunks -/

/-- The labels have none of the signs of a marker in them, and none is the end of another one. -/
structure Separable (labels : List (List Char)) : Prop where
  full : ∀ label ∈ labels, label ≠ []
  plain : ∀ label ∈ labels, ',' ∉ label ∧ ' ' ∉ label ∧ ':' ∉ label
  apart : ∀ a ∈ labels, ∀ b ∈ labels, a <:+ b → a = b

/-- A marker: an optional comma with a space, a label with a colon, an optional space. -/
def IsMarker (labels : List (List Char)) (marker : List Char) : Prop :=
  ∃ comma label space, (comma = [] ∨ comma = [',', ' ']) ∧ label ∈ labels ∧
    (space = [] ∨ space = [' ']) ∧ marker = comma ++ (label ++ ':' :: space)

def Starts (labels : List (List Char)) (s : List Char) : Prop :=
  ∃ label ∈ labels, label ++ [':'] <+: s

/-- Somewhere in the text there is a label with its colon. -/
def Marked (labels : List (List Char)) (s : List Char) : Prop :=
  ∃ label ∈ labels, label ++ [':'] <:+: s

instance (labels : List (List Char)) (s : List Char) : Decidable (Marked labels s) :=
  inferInstanceAs (Decidable (∃ label ∈ labels, label ++ [':'] <:+: s))

/-- A chunk and the markers with chunks after it are as the grammar wants them. -/
def WellParted (labels : List (List Char)) :
    List Char → List (List Char × List Char) → Prop
  | chunk, [] => ¬Marked labels chunk
  | chunk, (marker, next) :: parts =>
      ¬Marked labels chunk ∧ IsMarker labels marker ∧
        (¬[',', ' '] <+: marker → ¬[',', ' '] <:+ chunk) ∧
        (¬[' '] <:+ marker → ¬[' '] <+: next) ∧ WellParted labels next parts

/-- The pieces are chunks and markers as the grammar wants them. -/
def WellCut (labels : List (List Char)) (p : Text.Pieces) : Prop :=
  WellParted labels p.lead p.parts

theorem separable_labels : Separable Row.labels where
  full := by decide +kernel
  plain := by decide +kernel
  apart := by decide +kernel

theorem marked_cons {c : Char} : Marked labels (c :: s) ↔ Starts labels (c :: s) ∨ Marked labels s := by
  simp only [Marked, Starts, List.infix_cons_iff]
  constructor
  · rintro ⟨label, known, start | inside⟩
    · exact Or.inl ⟨label, known, start⟩
    · exact Or.inr ⟨label, known, inside⟩
  · rintro (⟨label, known, start⟩ | ⟨label, known, inside⟩)
    · exact ⟨label, known, Or.inl start⟩
    · exact ⟨label, known, Or.inr inside⟩

theorem Starts.marked (h : Starts labels s) : Marked labels s := by
  obtain ⟨label, known, start⟩ := h
  exact ⟨label, known, start.isInfix⟩

theorem Starts.append (h : Starts labels s) (rest : List Char) : Starts labels (s ++ rest) := by
  obtain ⟨label, known, start⟩ := h
  exact ⟨label, known, start.trans (List.prefix_append s rest)⟩

theorem Marked.mono {t : List Char} (h : Marked labels s) (inside : s <:+: t) : Marked labels t := by
  obtain ⟨label, known, found⟩ := h
  exact ⟨label, known, found.trans inside⟩

theorem not_marked_nil : ¬Marked labels [] := by
  rintro ⟨label, known, found⟩
  simp at found

/-! ## What the matcher finds -/

theorem startsWithLabel_iff {label : List Char} :
    startsWithLabel s label = true ↔ label ++ [':'] <+: s := by
  rw [startsWithLabel, List.isPrefixOf_iff_prefix]

theorem labelLength?_eq_none : labelLength? labels s = none ↔ ¬Starts labels s := by
  simp [labelLength?, Starts, startsWithLabel_iff]

theorem markerLength?_eq_none : markerLength? labels s = none ↔
    ¬Starts labels s ∧ ∀ rest, s = ',' :: ' ' :: rest → ¬Starts labels rest := by
  unfold markerLength?
  split
  · rename_i rest
    rw [Option.or_eq_none_iff, Option.map_eq_none_iff, labelLength?_eq_none, labelLength?_eq_none]
    constructor
    · rintro ⟨later, now⟩
      refine ⟨now, ?_⟩
      rintro rest' equal
      cases equal
      exact later
    · rintro ⟨now, later⟩
      exact ⟨later rest rfl, now⟩
  · rename_i other
    rw [labelLength?_eq_none]
    constructor
    · intro now
      exact ⟨now, fun rest equal => absurd equal (other rest)⟩
    · exact And.left

theorem spaceLength_cases (s : List Char) :
    (spaceLength s = 0 ∧ ¬[' '] <+: s) ∨ ∃ rest, s = ' ' :: rest ∧ spaceLength s = 1 := by
  unfold spaceLength
  split
  · rename_i rest
    exact Or.inr ⟨rest, rfl, rfl⟩
  · rename_i other
    left
    refine ⟨rfl, ?_⟩
    rintro ⟨rest, equal⟩
    exact other rest equal.symm

theorem labelLength?_some {n : Nat} (h : labelLength? labels s = some n) :
    ∃ label ∈ labels, ∃ space rest, (space = [] ∧ ¬[' '] <+: rest ∨ space = [' ']) ∧
      s = label ++ ':' :: (space ++ rest) ∧ n = (label ++ ':' :: space).length := by
  obtain ⟨label, found, rfl⟩ := Option.map_eq_some_iff.1 h
  obtain ⟨after, rfl⟩ := startsWithLabel_iff.1 (List.find?_some found)
  refine ⟨label, List.mem_of_find?_eq_some found, ?_⟩
  have dropped : (label ++ [':'] ++ after).drop (label.length + 1) = after := by
    rw [List.drop_append_of_le_length (by simp)]
    simp
  rw [dropped]
  rcases spaceLength_cases after with ⟨zero, spaceless⟩ | ⟨rest, rfl, one⟩
  · exact ⟨[], after, Or.inl ⟨rfl, spaceless⟩, by simp, by simp [zero]⟩
  · exact ⟨[' '], rest, Or.inr rfl, by simp, by simp [one]⟩

theorem exists_marker {comma : List Char} {n : Nat} (hcomma : comma = [] ∨ comma = [',', ' '])
    (h : labelLength? labels s = some n) :
    ∃ marker rest, comma ++ s = marker ++ rest ∧ n + comma.length = marker.length ∧
      IsMarker labels marker ∧ (¬[' '] <:+ marker → ¬[' '] <+: rest) := by
  obtain ⟨label, known, space, rest, hspace, rfl, rfl⟩ := labelLength?_some h
  refine ⟨comma ++ (label ++ ':' :: space), rest, by simp, by simp; omega, ?_, ?_⟩
  · exact ⟨comma, label, space, hcomma, known, hspace.imp_left And.left, rfl⟩
  · intro spaceless
    rcases hspace with ⟨-, h⟩ | rfl
    · exact h
    · exact absurd ⟨comma ++ (label ++ [':']), by simp⟩ spaceless

theorem markerLength?_some {n : Nat} (h : markerLength? labels s = some n) :
    ∃ marker rest, s = marker ++ rest ∧ n = marker.length ∧ IsMarker labels marker ∧
      (¬[' '] <:+ marker → ¬[' '] <+: rest) := by
  unfold markerLength? at h
  split at h
  · rcases Option.or_eq_some_iff.1 h with h | ⟨-, h⟩
    · obtain ⟨m, found, rfl⟩ := Option.map_eq_some_iff.1 h
      exact exists_marker (Or.inr rfl) found
    · exact exists_marker (Or.inl rfl) h
  · exact exists_marker (Or.inl rfl) h

/-! ## The scan follows the grammar -/

theorem WellParted.not_marked {chunk : List Char} {parts : List (List Char × List Char)}
    (h : WellParted labels chunk parts) : ¬Marked labels chunk := by
  cases parts with
  | nil => exact h
  | cons part parts => exact h.1

theorem WellCut.not_marked_of_mem {p : Text.Pieces} (h : WellCut labels p) {chunk : List Char}
    (mem : chunk ∈ p.chunks) : ¬Marked labels chunk := by
  obtain ⟨lead, parts⟩ := p
  induction parts generalizing lead with
  | nil => cases mem
  | cons part parts ih =>
      have rest : WellParted labels part.2 parts := h.2.2.2.2
      rcases List.mem_cons.1 mem with rfl | mem
      · exact rest.not_marked
      · exact ih part.2 rest mem

theorem IsMarker.starts (h : IsMarker labels marker) (bare : ¬[',', ' '] <+: marker)
    (rest : List Char) : Starts labels (marker ++ rest) := by
  obtain ⟨comma, label, space, rfl | rfl, known, -, rfl⟩ := h
  · exact ⟨label, known, space ++ rest, by simp⟩
  · exact absurd ⟨_, rfl⟩ bare

theorem WellCut.push {c : Char} {p : Text.Pieces} (none : markerLength? labels (c :: p.join) = none)
    (h : WellCut labels p) : WellCut labels (p.push c) := by
  obtain ⟨now, later⟩ := markerLength?_eq_none.1 none
  obtain ⟨lead, parts⟩ := p
  have clean : ¬Marked labels (c :: lead) := by
    rw [marked_cons]
    rintro (start | inside)
    · exact now (start.append _)
    · exact h.not_marked inside
  cases parts with
  | nil => exact clean
  | cons part parts =>
      obtain ⟨marker, next⟩ := part
      obtain ⟨-, isMarker, comma, space, rest⟩ := h
      refine ⟨clean, isMarker, ?_, space, rest⟩
      intro bare suffix
      rcases List.suffix_cons_iff.1 suffix with equal | inside
      · -- A comma right before the marker would have been taken with it.
        cases equal
        rw [Text.Pieces.join_cons] at later
        exact later _ rfl (isMarker.starts bare _)
      · exact comma bare inside

theorem WellCut.mark {p : Text.Pieces} (isMarker : IsMarker labels marker)
    (space : ¬[' '] <:+ marker → ¬[' '] <+: p.join) (h : WellCut labels p) :
    WellCut labels (p.mark marker) := by
  refine ⟨not_marked_nil, isMarker, fun _ suffix => ?_, ?_, h⟩
  · cases List.suffix_nil.1 suffix
  intro spaceless start
  exact space spaceless (start.trans p.lead_isPrefix_join)

theorem wellCut_pieces (labels : List (List Char)) (s : List Char) : WellCut labels (pieces labels s) := by
  have pos : ∀ s n, markerLength? labels s = some n → 0 < n := fun _ _ => markerLength?_pos
  have join : ∀ s, (Text.cut (markerLength? labels) s).join = s := Text.join_cut pos
  refine Text.cut_induction (motive := fun _ p => WellCut labels p) pos not_marked_nil ?_ ?_ s
  · intro c s none ih
    exact ih.push (by rwa [join])
  · intro s n found ih
    obtain ⟨marker, rest, rfl, rfl, isMarker, space⟩ := markerLength?_some found
    rw [List.drop_left] at ih ⊢
    rw [List.take_left]
    exact ih.mark isMarker (by rwa [join])

/-! ## The grammar leaves no choice -/

theorem eq_of_append_colon {a b x y : List Char} (ha : ':' ∉ a) (hb : ':' ∉ b)
    (h : a ++ ':' :: x = b ++ ':' :: y) : a = b := by
  induction a generalizing b with
  | nil =>
      cases b with
      | nil => rfl
      | cons c b =>
          cases h
          exact absurd List.mem_cons_self hb
  | cons d a ih =>
      cases b with
      | nil =>
          cases h
          exact absurd List.mem_cons_self ha
      | cons c b =>
          rw [List.cons_append, List.cons_append, List.cons.injEq] at h
          obtain ⟨rfl, h⟩ := h
          rw [ih (List.not_mem_of_not_mem_cons ha) (List.not_mem_of_not_mem_cons hb) h]

theorem Separable.labelLength?_append (sep : Separable labels) {label space : List Char}
    (known : label ∈ labels) (hspace : space = [] ∨ space = [' '])
    (spaceless : space = [] → ¬[' '] <+: rest) :
    labelLength? labels (label ++ ':' :: (space ++ rest)) = some (label ++ ':' :: space).length := by
  cases found : labelLength? labels (label ++ ':' :: (space ++ rest)) with
  | none => exact absurd ⟨label, known, space ++ rest, by simp⟩ (labelLength?_eq_none.1 found)
  | some n =>
      obtain ⟨label', known', space', rest', hspace', equal, rfl⟩ := labelLength?_some found
      obtain rfl : label' = label :=
        eq_of_append_colon (sep.plain _ known').2.2 (sep.plain _ known).2.2 equal.symm
      have after : space ++ rest = space' ++ rest' := by simpa using equal
      rcases hspace with rfl | rfl
      · rcases hspace' with ⟨rfl, -⟩ | rfl
        · rfl
        · exact absurd ⟨rest', after.symm⟩ (spaceless rfl)
      · rcases hspace' with ⟨rfl, spaceless'⟩ | rfl
        · exact absurd ⟨rest, after⟩ spaceless'
        · rfl

theorem Separable.markerLength?_append (sep : Separable labels) (h : IsMarker labels marker)
    (space : ¬[' '] <:+ marker → ¬[' '] <+: rest) :
    markerLength? labels (marker ++ rest) = some marker.length := by
  obtain ⟨comma, label, sp, hcomma, known, hspace, rfl⟩ := h
  have spaceless : sp = [] → ¬[' '] <+: rest := by
    rintro rfl
    apply space
    rintro ⟨front, equal⟩
    have last := congrArg List.getLast? equal
    simp at last
  have found := sep.labelLength?_append known hspace spaceless
  rcases hcomma with rfl | rfl
  · -- The first character is one of the label, so it is no comma.
    obtain ⟨c, label, rfl⟩ := List.exists_cons_of_ne_nil (sep.full label known)
    have plain : c ≠ ',' := by
      rintro rfl
      exact (sep.plain _ known).1 List.mem_cons_self
    unfold markerLength?
    split
    · rename_i equal
      simp only [List.nil_append, List.cons_append, List.cons.injEq] at equal
      exact absurd equal.1 plain
    · simpa using found
  · simpa [markerLength?] using Or.inl found

theorem Separable.not_starts_append (sep : Separable labels) {front : List Char} (full : front ≠ [])
    (clean : ¬Marked labels front) (isMarker : IsMarker labels marker) (rest : List Char) :
    ¬Starts labels (front ++ (marker ++ rest)) := by
  rintro ⟨label, known, start⟩
  rcases List.prefix_or_prefix_of_prefix start (List.prefix_append front _) with inside | ⟨after, equal⟩
  · exact clean (Starts.marked ⟨label, known, inside⟩)
  rcases List.eq_nil_or_concat after with rfl | ⟨tail, last, rfl⟩
  · rw [List.append_nil] at equal
    exact clean (Starts.marked ⟨label, known, by rw [equal]⟩)
  rw [List.concat_eq_append, ← List.append_assoc] at equal
  obtain ⟨rfl, -⟩ := List.append_inj' equal rfl
  rw [List.append_assoc, List.prefix_append_right_inj] at start
  obtain ⟨plain, -, colonless⟩ := sep.plain _ known
  obtain ⟨more, start⟩ := start
  obtain ⟨comma, label, space, rfl | rfl, known', -, rfl⟩ := isMarker
  · -- The rest of the label is the label of the marker, so it is all of it, and nothing stood before.
    obtain rfl : tail = label := by
      refine eq_of_append_colon ?_ (sep.plain _ known').2.2 (by simpa using start)
      intro inside
      exact colonless (List.mem_append_right front inside)
    have same := sep.apart _ known' _ known (List.suffix_append front tail)
    exact full (List.self_eq_append_left.1 same)
  · -- The rest of the label would start with the comma of the marker.
    cases tail with
    | nil => simp at start
    | cons c tail =>
        obtain rfl : c = ',' := by
          rw [List.cons_append, List.cons_append, List.cons_append, List.cons_append] at start
          exact (List.cons.inj start).1
        exact plain (by simp)

theorem Separable.not_starts_comma (sep : Separable labels) (rest : List Char) :
    ¬Starts labels (',' :: rest) := by
  rintro ⟨label, known, start⟩
  obtain ⟨c, label, rfl⟩ := List.exists_cons_of_ne_nil (sep.full label known)
  obtain ⟨rfl, -⟩ := List.cons_prefix_cons.1 start
  exact (sep.plain _ known).1 List.mem_cons_self

theorem Separable.not_space_marker (sep : Separable labels) (h : IsMarker labels marker)
    (rest : List Char) : ¬[' '] <+: marker ++ rest := by
  obtain ⟨comma, label, space, rfl | rfl, known, -, rfl⟩ := h
  · obtain ⟨c, label, rfl⟩ := List.exists_cons_of_ne_nil (sep.full label known)
    intro start
    obtain ⟨rfl, -⟩ := List.cons_prefix_cons.1 start
    exact (sep.plain _ known).2.1 List.mem_cons_self
  · simp

theorem markerLength?_of_not_marked (clean : ¬Marked labels s) : markerLength? labels s = none := by
  rw [markerLength?_eq_none]
  constructor
  · exact fun start => clean start.marked
  · rintro rest rfl start
    exact clean (start.marked.mono (List.suffix_append [',', ' '] rest).isInfix)

theorem Separable.markerLength?_of_not_marked (sep : Separable labels) {front : List Char}
    (full : front ≠ []) (clean : ¬Marked labels front) (isMarker : IsMarker labels marker)
    (comma : ¬[',', ' '] <+: marker → ¬[',', ' '] <:+ front) (rest : List Char) :
    markerLength? labels (front ++ (marker ++ rest)) = none := by
  rw [markerLength?_eq_none]
  refine ⟨sep.not_starts_append full clean isMarker rest, ?_⟩
  intro after equal
  match front, full with
  | [c], _ =>
      obtain ⟨-, space⟩ := List.cons.inj equal
      exact absurd ⟨after, space.symm⟩ (sep.not_space_marker isMarker rest)
  | [c, d], _ =>
      cases equal
      have signed : [',', ' '] <+: marker := by
        by_contra bare
        exact comma bare (List.suffix_refl _)
      obtain ⟨label, rfl⟩ := signed
      exact sep.not_starts_comma _
  | c :: d :: e :: front, _ =>
      cases equal
      have suffix : e :: front <:+ ',' :: ' ' :: e :: front := List.suffix_append [',', ' '] _
      have clean' : ¬Marked labels (e :: front) := fun marked => clean (marked.mono suffix.isInfix)
      exact sep.not_starts_append (List.cons_ne_nil e front) clean' isMarker rest

theorem Separable.pieces_chunk_append (sep : Separable labels) {chunk : List Char}
    (clean : ¬Marked labels chunk) (isMarker : IsMarker labels marker)
    (comma : ¬[',', ' '] <+: marker → ¬[',', ' '] <:+ chunk)
    (space : ¬[' '] <:+ marker → ¬[' '] <+: rest) :
    pieces labels (chunk ++ (marker ++ rest)) = ((pieces labels rest).mark marker).prepend chunk := by
  have full : marker ≠ [] := by
    obtain ⟨_, _, _, -, -, -, rfl⟩ := isMarker
    simp
  unfold pieces
  rw [Text.cut_append, Text.cut_match_append full (sep.markerLength?_append isMarker space)]
  intro c tail suffix
  refine sep.markerLength?_of_not_marked (List.cons_ne_nil c tail) ?_ isMarker ?_ rest
  · exact fun marked => clean (marked.mono suffix.isInfix)
  · exact fun bare ends => comma bare (ends.trans suffix)

theorem pieces_of_not_marked (clean : ¬Marked labels s) : pieces labels s = ⟨s, []⟩ := by
  apply Text.cut_of_free
  intro c tail suffix
  exact markerLength?_of_not_marked fun marked => clean (marked.mono suffix.isInfix)

theorem Separable.pieces_join (sep : Separable labels) {p : Text.Pieces} (h : WellCut labels p) :
    pieces labels p.join = p := by
  obtain ⟨chunk, parts⟩ := p
  induction parts generalizing chunk with
  | nil =>
      have join : Text.Pieces.join ⟨chunk, []⟩ = chunk := by simp [Text.Pieces.join]
      rw [join, pieces_of_not_marked h]
  | cons part parts ih =>
      obtain ⟨marker, next⟩ := part
      obtain ⟨clean, isMarker, comma, space, rest⟩ := h
      rw [Text.Pieces.join_cons, sep.pieces_chunk_append clean isMarker comma, ih next rest]
      · simp [Text.Pieces.prepend, Text.Pieces.mark]
      intro bare start
      -- The text after the marker starts with its chunk, or with the next marker if that is empty.
      cases next with
      | cons c next => exact space bare (by simpa [Text.Pieces.join] using start)
      | nil =>
          cases parts with
          | nil => simp [Text.Pieces.join] at start
          | cons part parts =>
              rw [Text.Pieces.join_cons, List.nil_append] at start
              exact sep.not_space_marker rest.2.1 _ start

theorem Separable.pieces_eq_iff (sep : Separable labels) {p : Text.Pieces} :
    pieces labels s = p ↔ WellCut labels p ∧ p.join = s := by
  constructor
  · rintro rfl
    exact ⟨wellCut_pieces labels s, join_pieces labels s⟩
  · rintro ⟨h, rfl⟩
    exact sep.pieces_join h

/-! ## Test cases -/

/-- The nine texts that the chunks after the markers are: the first one without its blank start, and
empty ones where chunks are missing. -/
def fieldsOf (chunks : List (List Char)) : List String :=
  (List.range 9).map fun
    | 0 => String.ofList (Text.trimStart (chunks.getD 0 []))
    | i + 1 => String.ofList (chunks.getD (i + 1) [])

theorem toFields_ofChunks (chunks : List (List Char)) : (ofChunks chunks).toFields = fieldsOf chunks := by
  cases chunks with
  | nil => rfl
  | cons expr rest =>
      simp [ofChunks, TestCase.ofFields, TestCase.toFields, fieldsOf, List.range_succ,
        List.getD_eq_getElem?_getD, Option.getD_map]

/-- Every row can be read by the grammar in one way, and its test case has the chunks of that reading. -/
theorem parse_of_wellCut (raw : String) :
    (∃! p : Text.Pieces, WellCut Row.labels p ∧ p.join = raw.toList) ∧
      ∀ p : Text.Pieces, WellCut Row.labels p → p.join = raw.toList →
        (parse raw).toFields = fieldsOf p.chunks := by
  constructor
  · refine ⟨pieces Row.labels raw.toList, ⟨wellCut_pieces _ _, join_pieces _ _⟩, ?_⟩
    intro p h
    exact (separable_labels.pieces_eq_iff.2 h).symm
  · intro p h join
    rw [parse, parseWith, separable_labels.pieces_eq_iff.2 ⟨h, join⟩, toFields_ofChunks]

end SheetSuite.Row
