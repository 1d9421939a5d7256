import SheetSuite.Proofs.Row.Grammar
import Mathlib.Data.List.GetD

namespace SheetSuite.Row

variable {labels : List (List Char)}

def values (pairs : List (String × String)) : List (List Char) :=
  pairs.map fun pair => pair.2.toList

@[simp] theorem values_nil : values [] = [] := rfl

@[simp] theorem values_cons (pair : String × String) (pairs : List (String × String)) :
    values (pair :: pairs) = pair.2.toList :: values pairs := rfl

def further (pairs : List (String × String)) : List Char :=
  pairs.flatMap fun pair => [',', ' '] ++ (renderPair pair).toList

theorem toList_renderPair (pair : String × String) :
    (renderPair pair).toList = (pair.1.toList ++ [':', ' ']) ++ pair.2.toList := by
  simp [renderPair]

theorem further_cons (pair : String × String) (pairs : List (String × String)) :
    further (pair :: pairs) =
      ([',', ' '] ++ (pair.1.toList ++ [':', ' '])) ++ (pair.2.toList ++ further pairs) := by
  simp [further, toList_renderPair]

theorem toList_renderPairs_cons (pair : String × String) (pairs : List (String × String)) :
    (renderPairs (pair :: pairs)).toList = (renderPair pair).toList ++ further pairs := by
  induction pairs generalizing pair with
  | nil => simp [renderPairs, further]
  | cons next pairs ih =>
      have rest := ih next
      unfold renderPairs at rest ⊢
      rw [List.map_cons] at rest
      rw [List.map_cons, List.map_cons, String.intercalate_cons_cons, String.toList_append, rest]
      simp [further]

theorem isMarker_of_mem {comma label : List Char} (hcomma : comma = [] ∨ comma = [',', ' '])
    (known : label ∈ labels) : IsMarker labels (comma ++ (label ++ [':', ' '])) :=
  ⟨comma, label, [' '], hcomma, known, Or.inr rfl, rfl⟩

theorem space_suffix (comma label : List Char) : [' '] <:+ comma ++ (label ++ [':', ' ']) :=
  ⟨comma ++ (label ++ [':']), by simp⟩

/-- The scan goes from one value to the next as long as they have no labels in them; whatever follows
does not matter. -/
theorem Separable.take_pieces (sep : Separable labels) (count : Nat) (value : List Char)
    (pairs : List (String × String)) (known : ∀ pair ∈ pairs, pair.1.toList ∈ labels)
    (clean : ∀ v ∈ (value :: values pairs).take count, ¬Marked labels v) :
    ((pieces labels (value ++ further pairs)).lead ::
      (pieces labels (value ++ further pairs)).chunks).take count =
        (value :: values pairs).take count := by
  induction count generalizing value pairs with
  | zero => rfl
  | succ count ih =>
      rw [List.take_succ_cons, List.forall_mem_cons] at clean
      rw [List.take_succ_cons, List.take_succ_cons]
      cases pairs with
      | nil =>
          have alone : pieces labels (value ++ further []) = ⟨value, []⟩ := by
            simpa [further] using pieces_of_not_marked clean.1
          simp [alone, Text.Pieces.chunks]
      | cons pair pairs =>
          rw [List.forall_mem_cons] at known
          -- The marker has its comma and its space, so nothing is asked of the values beside it.
          have isMarker := isMarker_of_mem (Or.inr rfl) known.1
          have signed : [',', ' '] <+: [',', ' '] ++ (pair.1.toList ++ [':', ' ']) :=
            List.prefix_append _ _
          rw [further_cons, sep.pieces_chunk_append clean.1 isMarker (fun bare => absurd signed bare)
            fun bare => absurd (space_suffix _ _) bare]
          rw [Text.Pieces.chunks_prepend, Text.Pieces.chunks_mark, values_cons,
            ih pair.2.toList pairs known.2 clean.2]
          simp

theorem Separable.take_chunks_renderPairs (sep : Separable labels) (count : Nat)
    (pairs : List (String × String)) (known : ∀ pair ∈ pairs, pair.1.toList ∈ labels)
    (clean : ∀ v ∈ (values pairs).take count, ¬Marked labels v) :
    (pieces labels (renderPairs pairs).toList).chunks.take count = (values pairs).take count := by
  cases pairs with
  | nil => rfl
  | cons pair pairs =>
      rw [List.forall_mem_cons] at known
      have isMarker := isMarker_of_mem (Or.inl rfl) known.1
      have row : (renderPairs (pair :: pairs)).toList =
          [] ++ (([] ++ (pair.1.toList ++ [':', ' '])) ++ (pair.2.toList ++ further pairs)) := by
        simp [toList_renderPairs_cons, toList_renderPair]
      rw [row, sep.pieces_chunk_append not_marked_nil isMarker (fun _ ends => by simp at ends)
        fun bare => absurd (space_suffix _ _) bare]
      exact sep.take_pieces count pair.2.toList pairs known.2 clean

theorem fieldsOf_take (chunks : List (List Char)) : fieldsOf (chunks.take 9) = fieldsOf chunks := by
  simp [fieldsOf, List.range_succ, List.getD_eq_getElem?_getD]

theorem toFields_parse_renderPairs (pairs : List (String × String))
    (known : ∀ pair ∈ pairs, pair.1 ∈ labelTexts)
    (clean : ∀ v ∈ (values pairs).take 9, ¬Marked Row.labels v) :
    (parse (renderPairs pairs)).toFields = fieldsOf (values pairs) := by
  have found := separable_labels.take_chunks_renderPairs 9 pairs
    (fun pair mem => List.mem_map_of_mem (known pair mem)) clean
  rw [parse, parseWith, toFields_ofChunks, ← fieldsOf_take, found, fieldsOf_take]

theorem any_isBlank_of_mem_labels : ∀ label ∈ Row.labels, label.any Text.isBlank = false := by
  decide +kernel

theorem marked_trimStart {s : List Char} :
    Marked Row.labels (Text.trimStart s) ↔ Marked Row.labels s := by
  constructor
  · intro marked
    exact marked.mono (List.dropWhile_suffix _).isInfix
  · intro marked
    induction s with
    | nil => exact marked
    | cons c s ih =>
        unfold Text.trimStart
        cases blank : Text.isBlank c with
        | false => rwa [List.dropWhile_cons_of_neg (by simp [blank])]
        | true =>
            rw [List.dropWhile_cons_of_pos blank]
            -- Labels have no blanks, so none starts at the one that goes.
            refine ih ((marked_cons.1 marked).resolve_left ?_)
            rintro ⟨label, known, start⟩
            obtain ⟨d, label, rfl⟩ := List.exists_cons_of_ne_nil (separable_labels.full label known)
            obtain ⟨rfl, -⟩ := List.cons_prefix_cons.1 start
            simpa [blank] using any_isBlank_of_mem_labels _ known

theorem not_marked_take {chunks : List (List Char)} {count : Nat} :
    (∀ chunk ∈ chunks.take count, ¬Marked labels chunk) ↔
      ∀ i < count, ¬Marked labels (chunks.getD i []) := by
  constructor
  · intro clean i bound
    by_cases inside : i < chunks.length
    · rw [List.getD_eq_getElem _ _ inside]
      exact clean _ (List.mem_take_iff_getElem.2 ⟨i, by omega, rfl⟩)
    · -- A chunk that is missing counts as empty.
      rw [List.getD_eq_default _ _ (by omega)]
      exact not_marked_nil
  · intro clean chunk mem
    obtain ⟨i, bound, rfl⟩ := List.mem_take_iff_getElem.1 mem
    have found := clean i (by omega)
    rwa [List.getD_eq_getElem _ _ (by omega)] at found

theorem not_marked_fieldsOf {chunks : List (List Char)} :
    (∀ field ∈ fieldsOf chunks, ¬Marked Row.labels field.toList) ↔
      ∀ chunk ∈ chunks.take 9, ¬Marked Row.labels chunk := by
  rw [not_marked_take, fieldsOf, List.forall_mem_map]
  refine forall_congr' fun i => imp_congr List.mem_range (not_congr ?_)
  cases i with
  | zero => rw [String.toList_ofList, marked_trimStart]
  | succ i => rw [String.toList_ofList]

theorem not_marked_parse (raw : String) :
    ∀ field ∈ (parse raw).toFields, ¬Marked Row.labels field.toList := by
  rw [parse, parseWith, toFields_ofChunks, not_marked_fieldsOf]
  intro chunk mem
  exact (wellCut_pieces _ _).not_marked_of_mem (List.mem_of_mem_take mem)

/-- A row is read back as the values it was written from exactly if the first nine of them have no label
with its colon in them, whatever the labels and the other values are. -/
theorem parse_renderPairs_iff (pairs : List (String × String))
    (known : ∀ pair ∈ pairs, pair.1 ∈ labelTexts) :
    (parse (renderPairs pairs)).toFields = fieldsOf (values pairs) ↔
      ∀ value ∈ (values pairs).take 9, ¬Marked Row.labels value := by
  constructor
  · intro equal
    rw [← not_marked_fieldsOf, ← equal]
    exact not_marked_parse _
  · exact toFields_parse_renderPairs pairs known

/-- Values may start with spaces, end with the signs that a marker starts with, and be labels. -/
theorem parse_renderPairs_lookalikes :
    (parse (renderPairs [("pyret", "  1, "), ("expr", "local"), ("pyret", ": pyret")])).toFields =
      ["1, ", "local", ": pyret", "", "", "", "", "", ""] :=
  ((parse_renderPairs_iff _ (by decide)).2 (by decide +kernel)).trans (by decide +kernel)

end SheetSuite.Row
