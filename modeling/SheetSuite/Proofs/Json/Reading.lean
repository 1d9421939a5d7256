import SheetSuite.Json.Record
import SheetSuite.Proofs.Json.Skip

/-!
# What readers make of values

A reader works on characters. What it comes to depends only on the value that they spell: it either makes
something of the value and stops right after it, or refuses it (`Reads`). This module says what texts, lists
and records are made of (`Value.text?`, `Value.list?`, `Record.ofValue?`), and that their readers agree
(`reads_text`, `Reads.list`, `Reads.record`), so that whole texts can be judged by their values
(`decode_of_isText`).
-/

namespace SheetSuite.Json

variable {α β : Type} {s t b rest u : List Char}

/-- On every text of a value, the reader gives what the function makes of the value, and what follows it. -/
def Reads (reader : Reader α) (f : Value → Option α) : Prop :=
  ∀ ⦃v s⦄, Spells v s → ∀ ⦃u rest⦄, skipSpace u = s ++ rest → (reader u).toOption = (f v).map (·, rest)

namespace Value

def text? : Value → Option String
  | string text => text
  | _ => none

def list? (item : Value → Option α) : Value → Option (List α)
  | array items => items.mapM item
  | _ => none

end Value

namespace Record

/-- The values of the fields among members, after those already seen. A key without a text, and a field
that was seen before, spoil it. -/
def gather (fields : List String) (field : Value → Option α) :
    List (String × α) → List (Option String × Value) → Option (List (String × α))
  | seen, [] => some seen
  | _, (none, _) :: _ => none
  | seen, (some key, v) :: members =>
    if key ∈ fields then
      if (seen.lookup key).isSome then none
      else (field v).bind fun a => gather fields field (seen ++ [(key, a)]) members
    else gather fields field seen members

/-- What a record is made of: an object, or a list with no more items than there are fields. -/
def ofValue? (r : Record α β) (field : Value → Option α) : Value → Option β
  | .object members => do
    let seen ← gather r.fields field [] members
    (r.build fun key => seen.lookup key).toOption
  | .array items =>
    if items.length ≤ r.fields.length then do
      let values ← items.mapM field
      (r.build fun key => (r.fields.zip values).lookup key).toOption
    else none
  | _ => none

end Record

/-! ## Items and members one after another -/

theorem SpellsItems.uncons {v : Value} {vs : List Value} (h : SpellsItems (v :: vs) s) :
    ∃ m tail, SpellsItem v m ∧ s = m ++ tail ∧
      (vs = [] ∧ tail = [] ∨ ∃ t, tail = ',' :: t ∧ SpellsItems vs t) := by
  cases h with
  | one item => exact ⟨s, [], item, by simp, Or.inl ⟨rfl, rfl⟩⟩
  | @more _ _ m t item items => exact ⟨m, ',' :: t, item, rfl, Or.inr ⟨t, rfl, items⟩⟩

theorem SpellsItems.length_le {vs : List Value} (h : SpellsItems vs s) : vs.length ≤ s.length := by
  induction vs generalizing s with
  | nil => simp
  | cons v vs ih =>
      obtain ⟨m, tail, item, rfl, ⟨rfl, rfl⟩ | ⟨t, rfl, items⟩⟩ := h.uncons
      · have := item.length_pos
        simp
        omega
      · have := ih items
        simp
        omega

theorem SpellsMembers.uncons {member : Option String × Value} {ms : List (Option String × Value)}
    (h : SpellsMembers (member :: ms) s) : ∃ m tail, SpellsMember member m ∧ s = m ++ tail ∧
      (ms = [] ∧ tail = [] ∨ ∃ t, tail = ',' :: t ∧ SpellsMembers ms t) := by
  cases h with
  | one member => exact ⟨s, [], member, by simp, Or.inl ⟨rfl, rfl⟩⟩
  | @more _ _ m t member members => exact ⟨m, ',' :: t, member, rfl, Or.inr ⟨t, rfl, members⟩⟩

theorem SpellsMembers.length_le {ms : List (Option String × Value)} (h : SpellsMembers ms s) :
    ms.length ≤ s.length := by
  induction ms generalizing s with
  | nil => simp
  | cons member ms ih =>
      obtain ⟨m, tail, member, rfl, ⟨rfl, rfl⟩ | ⟨t, rfl, members⟩⟩ := h.uncons
      · have := member.length_pos
        simp
        omega
      · have := ih members
        simp
        omega

/-! ## First characters -/

theorem Spells.kind {v : Value} (h : Spells v s) : ∃ c t, s = c :: t ∧
    (c = '"' ↔ ∃ text, v = .string text) ∧ (c = '[' ↔ ∃ items, v = .array items) ∧
      (c = '{' ↔ ∃ members, v = .object members) := by
  cases h with
  | number h =>
      obtain ⟨c, t, rfl, first⟩ := h.head
      have other := ne_of_mem_otherStarts first
      exact ⟨c, t, rfl, by simp [other '"' (by decide)], by simp [other '[' (by decide)],
        by simp [other '{' (by decide)]⟩
  | string h =>
      obtain ⟨ps, inner, -, -, rfl⟩ := h
      exact ⟨_, _, rfl, by simp⟩
  | null => exact ⟨_, _, rfl, by simp⟩
  | yes => exact ⟨_, _, rfl, by simp⟩
  | no => exact ⟨_, _, rfl, by simp⟩
  | noItems => exact ⟨_, _, rfl, by simp⟩
  | array => exact ⟨_, _, rfl, by simp⟩
  | noMembers => exact ⟨_, _, rfl, by simp⟩
  | object => exact ⟨_, _, rfl, by simp⟩

/-! ## Texts -/

theorem reads_text : Reads text Value.text? := by
  intro v s h u rest start
  obtain ⟨c, t, rfl, kind, -⟩ := h.kind
  rw [text, start]
  by_cases quote : c = '"'
  · obtain ⟨text, rfl⟩ := kind.1 quote
    obtain _ | _ | _ | _ | ⟨ps, inner, pieces, rfl, equal⟩ := h
    cases equal
    simpa [Value.text?] using string_pieces pieces rest
  · have none : v.text? = none := by
      cases v <;> simp_all [Value.text?]
    rw [none, List.cons_append]
    split
    · rename_i equal
      exact absurd (List.cons.inj equal).1 quote
    · rfl

/-! ## Lists -/

theorem SpellsItem.read {reader : Reader α} {f : Value → Option α} (reads : Reads reader f) {v : Value}
    (h : SpellsItem v s) : ∃ b, IsBlank b ∧ ∀ u rest, skipSpace u = skipSpace (s ++ rest) →
      (reader u).toOption = (f v).map (·, b ++ rest) := by
  obtain @⟨_, b, x, b', blank, h, blank'⟩ := h
  refine ⟨b', blank', fun u rest start => reads h ?_⟩
  rw [start]
  simpa using h.skipSpace_append blank (b' ++ rest)

def NextItem (first : Bool) (start u : List Char) : Prop :=
  ∃ w, nextElement first start = .ok (some (skipSpace u), w)

theorem nextElement_end (blank : IsBlank b) (first : Bool) (rest : List Char) :
    nextElement first (b ++ ']' :: rest) = .ok (none, rest) := by
  simp [nextElement, skipSpace_token blank (show isSpace ']' = false by decide)]

theorem SpellsItems.nextItem_first {vs : List Value} (h : SpellsItems vs s) (rest : List Char) :
    NextItem true (s ++ rest) (s ++ rest) := by
  obtain ⟨c, t, start, inside⟩ := h.head rest
  exact ⟨t, by simp [nextElement, start]⟩

theorem SpellsItems.nextItem_comma {vs : List Value} (h : SpellsItems vs s) (blank : IsBlank b)
    (rest : List Char) : NextItem false (b ++ ',' :: (s ++ rest)) (s ++ rest) := by
  obtain ⟨c, t, start, inside⟩ := h.head rest
  refine ⟨c :: t, ?_⟩
  simp [nextElement, skipSpace_token blank (show isSpace ',' = false by decide), start, inside]

theorem SpellsItems.elements {reader : Reader α} {f : Value → Option α} (reads : Reads reader f)
    {vs : List Value} (h : SpellsItems vs s) {n : Nat} (enough : vs.length ≤ n) {first : Bool}
    {start rest : List Char} (next : NextItem first start (s ++ ']' :: rest)) :
    (elements reader (n + 1) first start).toOption = (vs.mapM f).map (·, rest) := by
  induction vs generalizing s first start n with
  | nil => cases h
  | cons v vs ih =>
      obtain ⟨k, rfl⟩ : ∃ k, n = k + 1 := ⟨n - 1, by simp at enough; omega⟩
      obtain ⟨m, tail, item, rfl, after⟩ := h.uncons
      obtain ⟨w, next⟩ := next
      obtain ⟨b, blank, read⟩ := item.read reads
      have later : (Json.elements reader (k + 1) false (b ++ (tail ++ ']' :: rest))).toOption =
          (vs.mapM f).map (·, rest) := by
        rcases after with ⟨rfl, rfl⟩ | ⟨t, rfl, others⟩
        · simp [Json.elements, nextElement_end blank]
        · exact ih others (by simpa using enough) (others.nextItem_comma blank (']' :: rest))
      rw [Json.elements, next, ok_bind]
      dsimp only
      rw [toOption_bind, read _ (tail ++ ']' :: rest) (by simp [skipSpace_skipSpace])]
      cases made : f v with
      | none => simp [made]
      | some a =>
          simp only [made, Option.map_some, Option.bind_some, toOption_bind, later, List.mapM_cons]
          cases vs.mapM f <;> rfl

theorem Reads.list {reader : Reader α} {f : Value → Option α} (reads : Reads reader f) :
    Reads (Json.list reader) (Value.list? f) := by
  intro v s h u rest start
  obtain ⟨c, t, rfl, -, kind, -⟩ := h.kind
  rw [Json.list, start]
  by_cases bracket : c = '['
  · obtain ⟨items, rfl⟩ := kind.1 bracket
    cases h with
    | noItems blank => simp [elements, nextElement_end blank, Value.list?]
    | @array _ s spelled =>
        have enough : items.length ≤ (s ++ ']' :: rest).length := by
          have := spelled.length_le
          simp
          omega
        simpa [Value.list?] using spelled.elements reads enough (spelled.nextItem_first (']' :: rest))
  · have none : v.list? f = none := by
      cases v <;> simp_all [Value.list?]
    rw [none, List.cons_append]
    split
    · rename_i equal
      exact absurd (List.cons.inj equal).1 bracket
    · rfl

/-! ## Records -/

namespace Record

variable {fields : List String} {reader : Reader α} {f : Value → Option α}

theorem nextKey_end (blank : IsBlank b) (first : Bool) (rest : List Char) :
    nextKey first (b ++ '}' :: rest) = .ok (none, rest) := by
  simp [nextKey, skipSpace_token blank (show isSpace '}' = false by decide)]

def NextMember (first : Bool) (start u : List Char) : Prop :=
  ∀ t, skipSpace u = '"' :: t → nextKey first start = do
    let (key, rest) ← string t
    .ok (some key, rest)

theorem nextMember_first (u : List Char) : NextMember true u u := by
  intro t start
  simp [nextKey, start]

theorem nextMember_comma (blank : IsBlank b) (u : List Char) : NextMember false (b ++ ',' :: u) u := by
  intro t start
  simp [nextKey, skipSpace_token blank (show isSpace ',' = false by decide), start]

theorem nextKey_member {key : Option String} {v : Value} (h : SpellsMember (key, v) s) {first : Bool}
    {start rest : List Char} (next : NextMember first start (s ++ rest)) :
    ∃ b m, IsBlank b ∧ SpellsItem v m ∧
      (nextKey first start).toOption = key.map fun k => (some k, b ++ ':' :: (m ++ rest)) := by
  obtain @⟨_, _, b, _, b₁, m, blank, ⟨ps, inner, pieces, rfl, rfl⟩, blank₁, item⟩ := h
  refine ⟨b₁, m, blank₁, item, ?_⟩
  rw [next (inner ++ '"' :: (b₁ ++ ':' :: (m ++ rest))), toOption_bind, string_pieces pieces]
  · cases denoted ps <;> rfl
  · simpa using skipSpace_token blank (show isSpace '"' = false by decide) _

theorem members_step (reads : Reads reader f) {key : Option String} {v : Value}
    (h : SpellsMember (key, v) s) {first : Bool} {start rest : List Char} (stops : Stops rest)
    (next : NextMember first start (s ++ rest)) :
    ∃ b, IsBlank b ∧ ∀ n seen, (members fields reader (n + 1) first seen start).toOption =
      key.bind fun k =>
        if k ∈ fields then
          if (seen.lookup k).isSome then none
          else (f v).bind fun a =>
            (members fields reader n false (seen ++ [(k, a)]) (b ++ rest)).toOption
        else (members fields reader n false seen (b ++ rest)).toOption := by
  obtain ⟨b₁, m, blank₁, @⟨_, b₂, x, b₃, blank₂, spelled, blank₃⟩, found⟩ := nextKey_member h next
  have value : skipSpace (b₂ ++ (x ++ b₃) ++ rest) = x ++ (b₃ ++ rest) := by
    simpa using spelled.skipSpace_append blank₂ (b₃ ++ rest)
  refine ⟨b₃, blank₃, fun n seen => ?_⟩
  rw [members, toOption_bind, found]
  cases key with
  | none => rfl
  | some k =>
      simp only [Option.map_some, Option.bind_some, colon_blank blank₁, ok_bind]
      split
      · split
        · rfl
        · rw [toOption_bind, reads spelled value]
          cases f v <;> rfl
      · rw [skipValue_spells spelled (stops.append blank₃) value, ok_bind]

theorem members_eq (reads : Reads reader f) {ms : List (Option String × Value)}
    (h : SpellsMembers ms s) {n : Nat} (enough : ms.length ≤ n) {first : Bool} {start rest : List Char}
    (next : NextMember first start (s ++ '}' :: rest)) (seen : List (String × α)) :
    (members fields reader (n + 1) first seen start).toOption =
      (gather fields f seen ms).map (·, rest) := by
  induction ms generalizing s first start n seen with
  | nil => cases h
  | cons member ms ih =>
      obtain ⟨k, rfl⟩ : ∃ k, n = k + 1 := ⟨n - 1, by simp at enough; omega⟩
      obtain ⟨key, v⟩ := member
      obtain ⟨m, tail, member, rfl, after⟩ := h.uncons
      rw [List.append_assoc] at next
      have stops : Stops (tail ++ '}' :: rest) := by
        rcases after with ⟨-, rfl⟩ | ⟨t, rfl, -⟩
        · exact stops_cons (by simp) rest
        · exact stops_cons (by simp) _
      obtain ⟨b, blank, step⟩ := members_step reads member stops next
      have later (seen : List (String × α)) : (members fields reader (k + 1) false seen
          (b ++ (tail ++ '}' :: rest))).toOption = (gather fields f seen ms).map (·, rest) := by
        rcases after with ⟨rfl, rfl⟩ | ⟨t, rfl, others⟩
        · simp [members, nextKey_end blank, gather]
        · exact ih others (by simpa using enough) (nextMember_comma blank _) seen
      rw [step]
      simp only [later]
      cases key with
      | none => rfl
      | some key =>
          rw [gather, Option.bind_some]
          split
          · split
            · rfl
            · cases f v <;> rfl
          · rfl

theorem endOfList_blank (blank : IsBlank b) (rest : List Char) :
    endOfList (b ++ ']' :: rest) = .ok rest := by
  simp [endOfList, skipSpace_token blank (show isSpace ']' = false by decide)]

theorem endOfList_of_nextItem {first : Bool} {start u : List Char} (next : NextItem first start u) :
    (endOfList start).toOption = none := by
  obtain ⟨w, next⟩ := next
  unfold nextElement at next
  unfold endOfList
  split at next
  · cases next
  · cases next
  · rename_i other equal
    rw [equal]
    split
    · rename_i closing
      exact absurd (List.cons.inj closing).1 other
    · rfl
    · split <;> rfl
    · rfl

theorem firstElements_end (reader : Reader α) (blank : IsBlank b) (limit : Nat) (first : Bool)
    (rest : List Char) : ∃ t, firstElements reader limit first (b ++ ']' :: rest) = .ok ([], t) ∧
      endOfList t = .ok rest := by
  cases limit with
  | zero => exact ⟨_, rfl, endOfList_blank blank rest⟩
  | succ limit =>
      refine ⟨skipSpace (b ++ ']' :: rest), by simp [firstElements, nextElement_end blank], ?_⟩
      have none : IsBlank [] := by simp [IsBlank]
      simpa [skipSpace_token blank (show isSpace ']' = false by decide)] using endOfList_blank none rest

theorem firstElements_eq (reads : Reads reader f) {vs : List Value} (h : SpellsItems vs s)
    {first : Bool} {start rest : List Char} (next : NextItem first start (s ++ ']' :: rest))
    (limit : Nat) (g : List α → Option β) :
    ((firstElements reader limit first start).toOption.bind fun (values, t) =>
      (g values).bind fun made => (endOfList t).toOption.map (made, ·)) =
        (if vs.length ≤ limit then (vs.mapM f).bind g else none).map (·, rest) := by
  induction vs generalizing s first start limit g with
  | nil => cases h
  | cons v vs ih =>
      cases limit with
      | zero => simp [firstElements, endOfList_of_nextItem next]
      | succ limit =>
          obtain ⟨m, tail, item, rfl, after⟩ := h.uncons
          obtain ⟨w, next⟩ := next
          obtain ⟨b, blank, read⟩ := item.read reads
          have later (a : α) :
              ((firstElements reader limit false (b ++ (tail ++ ']' :: rest))).toOption.bind
                fun (values, t) => (g (a :: values)).bind fun made =>
                  (endOfList t).toOption.map (made, ·)) =
              (if vs.length ≤ limit then (vs.mapM f).bind fun as => g (a :: as) else none).map
                (·, rest) := by
            rcases after with ⟨rfl, rfl⟩ | ⟨t, rfl, others⟩
            · obtain ⟨t, ended, closed⟩ := firstElements_end reader blank limit false rest
              rw [List.nil_append, ended]
              cases made : g [a] <;> simp [made, closed]
            · exact ih others (others.nextItem_comma blank (']' :: rest)) limit fun as => g (a :: as)
          rw [firstElements, next, ok_bind]
          dsimp only
          rw [toOption_bind, read _ (tail ++ ']' :: rest) (by simp [skipSpace_skipSpace])]
          cases made : f v with
          | none => simp [made]
          | some a =>
              simp only [made, Option.map_some, Option.bind_some, toOption_bind, List.mapM_cons,
                List.length_cons, Nat.add_le_add_iff_right, Option.bind_assoc, toOption_ok]
              rw [later a]
              split
              · cases vs.mapM f <;> rfl
              · rfl

end Record

section
variable {r : Record α β} {reader : Reader α} {f : Value → Option α}

theorem Record.read_object (start : skipSpace u = '{' :: t) : (r.read reader u).toOption =
    (members r.fields reader (t.length + 1) true [] t).toOption.bind fun (seen, rest) =>
      (r.build fun key => seen.lookup key).toOption.map (·, rest) := by
  simp only [Record.read, start, toOption_bind]
  congr
  funext ⟨seen, rest⟩
  cases r.build fun key => seen.lookup key <;> rfl

theorem Record.read_list (start : skipSpace u = '[' :: t) : (r.read reader u).toOption =
    (firstElements reader r.fields.length true t).toOption.bind fun (values, t) =>
      (r.build fun key => (r.fields.zip values).lookup key).toOption.bind fun made =>
        (endOfList t).toOption.map (made, ·) := by
  simp only [Record.read, start, toOption_bind]
  congr
  funext ⟨values, rest⟩
  cases r.build fun key => (r.fields.zip values).lookup key with
  | error key => rfl
  | ok made => cases endOfList rest <;> rfl

theorem Record.read_other (brace : ∀ t, skipSpace u ≠ '{' :: t) (bracket : ∀ t, skipSpace u ≠ '[' :: t) :
    (r.read reader u).toOption = none := by
  unfold Record.read
  split
  · rename_i equal
    exact absurd equal (brace _)
  · rename_i equal
    exact absurd equal (bracket _)
  · rfl

theorem Reads.record (reads : Reads reader f) : Reads (r.read reader) (r.ofValue? f) := by
  intro v s h u rest start
  obtain ⟨c, t, rfl, -, list, object⟩ := h.kind
  rw [List.cons_append] at start
  cases v with
  | object ms =>
      obtain rfl : c = '{' := object.2 ⟨ms, rfl⟩
      rw [Record.read_object start, Record.ofValue?]
      cases h with
      | @noMembers b blank => simp [Record.members, Record.nextKey_end blank, Record.gather]
      | @object _ s spelled =>
          have enough : ms.length ≤ (s ++ '}' :: rest).length := by
            have := spelled.length_le
            simp
            omega
          have read : (Record.members r.fields reader ((s ++ '}' :: rest).length + 1) true []
              (s ++ '}' :: rest)).toOption = (Record.gather r.fields f [] ms).map (·, rest) :=
            Record.members_eq reads spelled enough (Record.nextMember_first _) []
          rw [List.append_assoc, List.singleton_append, read]
          cases Record.gather r.fields f [] ms <;> rfl
  | array vs =>
      obtain rfl : c = '[' := list.2 ⟨vs, rfl⟩
      rw [Record.read_list start, Record.ofValue?]
      cases h with
      | @noItems b blank =>
          obtain ⟨t, ended, closed⟩ := Record.firstElements_end reader blank r.fields.length true rest
          rw [List.append_assoc, List.singleton_append, ended]
          cases made : r.build fun _ => none <;> simp [made, closed]
      | @array _ s spelled =>
          rw [List.append_assoc, List.singleton_append]
          exact Record.firstElements_eq reads spelled (spelled.nextItem_first _) r.fields.length
            fun values => (r.build fun key => (r.fields.zip values).lookup key).toOption
  | null | boolean | number | string =>
      simp only [reduceCtorEq, exists_false, iff_false] at list object
      exact Record.read_other (by simp [start, object]) (by simp [start, list])

end

/-! ## Whole texts -/

theorem decode_of_isText {reader : Reader α} {f : Value → Option α} (reads : Reads reader f) {v : Value}
    {input : String} (h : IsText v input) : (decode reader input).toOption = f v := by
  obtain ⟨b, blank, read⟩ := SpellsItem.read reads h
  have made : (reader input.toList).toOption = (f v).map (·, b) := by
    simpa using read input.toList [] (by simp)
  unfold decode
  cases known : f v with
  | none =>
      obtain ⟨fault, refused⟩ := toOption_eq_none.1 (made.trans (by rw [known]; rfl))
      simp [refused]
  | some a =>
      have read := toOption_eq_some.1 (made.trans (by rw [known]; rfl))
      simp [read, skipSpace_blank blank]

end SheetSuite.Json
