import SheetSuite.Proofs.Json.Reading
import SheetSuite.Proofs.Json.Tokens

namespace SheetSuite.Json

variable {α β : Type} {s t b rest u : List Char}

/-! ## Items and members -/

def IsValue (s : List Char) : Prop := ∃ v, Spells v s

def AreItems (s : List Char) : Prop := ∃ vs, SpellsItems vs s

def AreMembers (s : List Char) : Prop := ∃ ms, SpellsMembers ms s

theorem AreItems.blank (h : AreItems s) (blank : IsBlank b) : AreItems (b ++ s) := by
  obtain ⟨vs, h⟩ := h
  cases h with
  | one item =>
      obtain ⟨blank₁, spelled, blank₂⟩ := item
      exact ⟨_, by simpa using SpellsItems.one (.mk (blank.append blank₁) spelled blank₂)⟩
  | more item items =>
      obtain ⟨blank₁, spelled, blank₂⟩ := item
      exact ⟨_, by simpa using SpellsItems.more (.mk (blank.append blank₁) spelled blank₂) items⟩

theorem AreMembers.blank (h : AreMembers s) (blank : IsBlank b) : AreMembers (b ++ s) := by
  obtain ⟨ms, h⟩ := h
  cases h with
  | one member =>
      obtain ⟨blank₁, key, blank₂, item⟩ := member
      exact ⟨_, by simpa using SpellsMembers.one (.mk (blank.append blank₁) key blank₂ item)⟩
  | more member members =>
      obtain ⟨blank₁, key, blank₂, item⟩ := member
      exact ⟨_, by simpa using SpellsMembers.more (.mk (blank.append blank₁) key blank₂ item) members⟩

def Follows (closing : Char) (more : List Char → Prop) (s rest : List Char) : Prop :=
  ∃ b, IsBlank b ∧
    (s = b ++ closing :: rest ∨ ∃ t, more t ∧ s = b ++ ',' :: (t ++ closing :: rest))

theorem Follows.items {x : List Char} (after : Follows ']' AreItems s rest) (blank : IsBlank b)
    (value : IsValue x) : ∃ t, AreItems t ∧ b ++ (x ++ s) = t ++ ']' :: rest := by
  obtain ⟨v, spelled⟩ := value
  obtain ⟨b', blank', rfl | ⟨t, ⟨vs, items⟩, rfl⟩⟩ := after
  · exact ⟨_, ⟨[v], .one (.mk blank spelled blank')⟩, by simp⟩
  · exact ⟨_, ⟨v :: vs, .more (.mk blank spelled blank') items⟩, by simp⟩

theorem Follows.members {key : Option String} {k b₁ b₂ x : List Char}
    (after : Follows '}' AreMembers s rest) (blank : IsBlank b) (string : IsString key k)
    (blank₁ : IsBlank b₁) (blank₂ : IsBlank b₂) (value : IsValue x) :
    ∃ t, AreMembers t ∧ b ++ (k ++ (b₁ ++ ':' :: (b₂ ++ (x ++ s)))) = t ++ '}' :: rest := by
  obtain ⟨v, spelled⟩ := value
  obtain ⟨b', blank', rfl | ⟨t, ⟨ms, members⟩, rfl⟩⟩ := after
  · exact ⟨_, ⟨_, .one (.mk blank string blank₁ (.mk blank₂ spelled blank'))⟩, by simp⟩
  · exact ⟨_, ⟨_, .more (.mk blank string blank₁ (.mk blank₂ spelled blank')) members⟩, by simp⟩

theorem isString_of_pieces {ps : List Piece} {inner : List Char} (h : ArePieces ps inner) :
    IsString ((denoted ps).map String.ofList) ('"' :: (inner ++ ['"'])) :=
  ⟨ps, inner, h, rfl, rfl⟩

/-! ## Passing over values -/

def Skips (skip : List Char → Except Fault (List Char)) : Prop :=
  ∀ ⦃u rest⦄, skip u = .ok rest → ∃ s, IsValue s ∧ skipSpace u = s ++ rest

section
variable {fuel : Nat}

theorem skipElements_step (value : Skips (skipValueWithin fuel))
    (elements : ∀ ⦃u rest⦄, skipElements fuel u = .ok rest → ∃ t, AreItems t ∧ u = t ++ ']' :: rest)
    (h : skipElements (fuel + 1) u = .ok rest) : ∃ t, AreItems t ∧ u = t ++ ']' :: rest := by
  rw [skipElements] at h
  obtain ⟨r, passed, h⟩ := bind_eq_ok.1 h
  obtain ⟨x, isValue, start⟩ := value passed
  obtain ⟨b, blank, whole⟩ := exists_blank u
  obtain ⟨b', blank', whole'⟩ := exists_blank r
  have after : Follows ']' AreItems r rest := by
    split at h
    · rename_i t comma
      obtain ⟨t, items, rfl⟩ := elements h
      exact ⟨b', blank', Or.inr ⟨t, items, by rw [← comma, ← whole']⟩⟩
    · rename_i closing
      cases h
      exact ⟨b', blank', Or.inl (by rw [← closing, ← whole'])⟩
    · cases h
    · cases h
  rw [whole, start]
  exact after.items blank isValue

theorem skipMembers_step (value : Skips (skipValueWithin fuel))
    (members : ∀ ⦃u rest⦄, skipMembers fuel u = .ok rest → ∃ t, AreMembers t ∧ u = t ++ '}' :: rest)
    (h : skipMembers (fuel + 1) u = .ok rest) : ∃ t, AreMembers t ∧ u = t ++ '}' :: rest := by
  rw [skipMembers] at h
  obtain ⟨b, blank, whole⟩ := exists_blank u
  split at h
  · rename_i t quote
    obtain ⟨k, key, afterKey⟩ := bind_eq_ok.1 h
    obtain ⟨v, sign, afterColon⟩ := bind_eq_ok.1 afterKey
    obtain ⟨r, passed, afterValue⟩ := bind_eq_ok.1 afterColon
    obtain ⟨ps, inner, pieces, rfl⟩ := skipString_ok key
    obtain ⟨b₁, blank₁, rfl⟩ := colon_ok sign
    obtain ⟨b₂, blank₂, whole₂⟩ := exists_blank v
    obtain ⟨x, isValue, start⟩ := value passed
    obtain ⟨b', blank', whole'⟩ := exists_blank r
    have after : Follows '}' AreMembers r rest := by
      split at afterValue
      · rename_i comma
        obtain ⟨t, members, rfl⟩ := members afterValue
        exact ⟨b', blank', Or.inr ⟨t, members, by rw [← comma, ← whole']⟩⟩
      · rename_i closing
        cases afterValue
        exact ⟨b', blank', Or.inl (by rw [← closing, ← whole'])⟩
      · cases afterValue
      · cases afterValue
    obtain ⟨t, members, equal⟩ :=
      after.members blank (isString_of_pieces pieces) blank₁ blank₂ isValue
    refine ⟨t, members, ?_⟩
    rw [← equal, whole, quote, whole₂, start]
    simp
  · cases h
  · cases h

theorem skipValueWithin_step
    (elements : ∀ ⦃u rest⦄, skipElements fuel u = .ok rest → ∃ t, AreItems t ∧ u = t ++ ']' :: rest)
    (members : ∀ ⦃u rest⦄, skipMembers fuel u = .ok rest → ∃ t, AreMembers t ∧ u = t ++ '}' :: rest) :
    Skips (skipValueWithin (fuel + 1)) := by
  intro u rest h
  rw [skipValueWithin] at h
  split at h
  · cases h
  · rename_i start
    exact ⟨_, ⟨_, .null⟩, by rw [start, word_ok h]; rfl⟩
  · rename_i start
    exact ⟨_, ⟨_, .yes⟩, by rw [start, word_ok h]; rfl⟩
  · rename_i start
    exact ⟨_, ⟨_, .no⟩, by rw [start, word_ok h]; rfl⟩
  · rename_i start
    obtain ⟨ps, inner, pieces, rfl⟩ := skipString_ok h
    exact ⟨_, ⟨_, .string (isString_of_pieces pieces)⟩, by simp [start]⟩
  · rename_i t start
    obtain ⟨b, blank, whole⟩ := exists_blank t
    rw [start]
    split at h
    · rename_i closing
      cases h
      exact ⟨_, ⟨_, .noItems blank⟩, by rw [whole, closing]; simp⟩
    · cases h
    · obtain ⟨x, items, equal⟩ := elements h
      obtain ⟨vs, items⟩ := items.blank blank
      exact ⟨_, ⟨_, .array items⟩, by rw [whole, equal]; simp⟩
  · rename_i t start
    obtain ⟨b, blank, whole⟩ := exists_blank t
    rw [start]
    split at h
    · rename_i closing
      cases h
      exact ⟨_, ⟨_, .noMembers blank⟩, by rw [whole, closing]; simp⟩
    · cases h
    · obtain ⟨x, members, equal⟩ := members h
      obtain ⟨ms, members⟩ := members.blank blank
      exact ⟨_, ⟨_, .object members⟩, by rw [whole, equal]; simp⟩
  · rename_i start
    split at h
    · obtain ⟨x, number, equal⟩ := skipNumber_ok h
      exact ⟨x, ⟨_, .number number⟩, start.trans equal⟩
    · cases h

/-- One induction on the number of steps carries values, items and members. -/
theorem skip_takes (fuel : Nat) : Skips (skipValueWithin fuel) ∧
    (∀ ⦃u rest⦄, skipElements fuel u = .ok rest → ∃ t, AreItems t ∧ u = t ++ ']' :: rest) ∧
    (∀ ⦃u rest⦄, skipMembers fuel u = .ok rest → ∃ t, AreMembers t ∧ u = t ++ '}' :: rest) := by
  induction fuel with
  | zero =>
      refine ⟨fun u rest h => ?_, fun u rest h => ?_, fun u rest h => ?_⟩
      · simp [skipValueWithin] at h
      · simp [skipElements] at h
      · simp [skipMembers] at h
  | succ fuel ih =>
      obtain ⟨value, elements, members⟩ := ih
      exact ⟨skipValueWithin_step elements members, fun u rest => skipElements_step value elements,
        fun u rest => skipMembers_step value members⟩

theorem skipValue_takes : Skips skipValue :=
  fun u _ h => (skip_takes (2 * u.length + 2)).1 h

end

/-! ## Readers -/

def Takes (reader : Reader α) : Prop :=
  ∀ ⦃u a rest⦄, reader u = .ok (a, rest) → ∃ s, IsValue s ∧ skipSpace u = s ++ rest

theorem takes_text : Takes text := by
  intro u a rest h
  unfold text at h
  split at h
  · rename_i start
    obtain ⟨ps, inner, pieces, rfl⟩ := string_ok h
    exact ⟨_, ⟨_, .string (isString_of_pieces pieces)⟩, by simp [start]⟩
  · cases h

/-- The text goes on with an item or a member, which in the middle comes after a comma. -/
def Opens (first : Bool) (s x : List Char) : Prop :=
  ∃ b, IsBlank b ∧ (if first then s = b ++ x else ∃ b', IsBlank b' ∧ s = b' ++ ',' :: (b ++ x))

def Closes (first : Bool) (closing : Char) (more : List Char → Prop) (s rest : List Char) : Prop :=
  if first then (∃ b, IsBlank b ∧ s = b ++ closing :: rest) ∨ ∃ t, more t ∧ s = t ++ closing :: rest
  else Follows closing more s rest

theorem closes_end {closing : Char} {more : List Char → Prop} (blank : IsBlank b) (first : Bool)
    (rest : List Char) : Closes first closing more (b ++ closing :: rest) rest := by
  cases first
  · exact ⟨b, blank, Or.inl rfl⟩
  · exact Or.inl ⟨b, blank, rfl⟩

theorem Opens.closes {first : Bool} {closing : Char} {more : List Char → Prop} {x : List Char}
    (opens : Opens first s x)
    (spelled : ∀ b, IsBlank b → ∃ t, more t ∧ b ++ x = t ++ closing :: rest) :
    Closes first closing more s rest := by
  obtain ⟨b, blank, opens⟩ := opens
  obtain ⟨t, more, equal⟩ := spelled b blank
  cases first with
  | true => exact Or.inr ⟨t, more, by rw [← equal]; exact opens⟩
  | false =>
      obtain ⟨b', blank', rfl⟩ := opens
      exact ⟨b', blank', Or.inr ⟨t, more, by rw [equal]⟩⟩

/-! ### Lists -/

theorem nextElement_none {first : Bool} (h : nextElement first s = .ok (none, rest)) :
    ∃ b, IsBlank b ∧ s = b ++ ']' :: rest := by
  obtain ⟨b, blank, whole⟩ := exists_blank s
  unfold nextElement at h
  split at h
  · cases h
  · rename_i start
    cases h
    exact ⟨b, blank, by rw [← start, ← whole]⟩
  · split at h
    · cases h
    · split at h
      · split at h <;> cases h
      · cases h

theorem nextElement_some {first : Bool} {w : List Char} (h : nextElement first s = .ok (some t, w)) :
    Opens first s (skipSpace t) := by
  obtain ⟨b, blank, whole⟩ := exists_blank s
  unfold nextElement at h
  split at h
  · cases h
  · cases h
  · rename_i c v _ start
    split at h
    · rename_i isFirst
      cases h
      exact ⟨b, blank, by rw [if_pos isFirst, ← start, skipSpace_skipSpace, ← whole]⟩
    · rename_i notFirst
      split at h
      · rename_i comma
        subst comma
        split at h
        · cases h
        · cases h
        · cases h
          obtain ⟨b', blank', whole'⟩ := exists_blank v
          refine ⟨b', blank', ?_⟩
          rw [if_neg notFirst, skipSpace_skipSpace, ← whole']
          exact ⟨b, blank, by rw [← start, ← whole]⟩
      · cases h

section
variable {reader : Reader α} (takes : Takes reader)
include takes

theorem elements_takes {fuel : Nat} {first : Bool} {as : List α}
    (h : elements reader fuel first s = .ok (as, rest)) : Closes first ']' AreItems s rest := by
  induction fuel generalizing first s as with
  | zero => cases h
  | succ fuel ih =>
      rw [elements] at h
      obtain ⟨⟨next, w⟩, found, h⟩ := bind_eq_ok.1 h
      cases next with
      | none =>
          cases h
          obtain ⟨b, blank, rfl⟩ := nextElement_none found
          exact closes_end blank first _
      | some t =>
          obtain ⟨⟨a, r⟩, read, h⟩ := bind_eq_ok.1 h
          obtain ⟨⟨as', rest'⟩, later, h⟩ := bind_eq_ok.1 h
          cases h
          obtain ⟨x, isValue, start⟩ := takes read
          have opens := nextElement_some found
          rw [start] at opens
          exact opens.closes fun b blank => Follows.items (ih later) blank isValue

theorem Takes.list : Takes (Json.list reader) := by
  intro u as rest h
  unfold Json.list at h
  split at h
  · rename_i start
    rw [start]
    rcases elements_takes takes h with ⟨b, blank, rfl⟩ | ⟨t, ⟨vs, items⟩, rfl⟩
    · exact ⟨_, ⟨_, .noItems blank⟩, by simp⟩
    · exact ⟨_, ⟨_, .array items⟩, by simp⟩
  · cases h

end

/-! ### Records -/

namespace Record

theorem nextKey_none {first : Bool} (h : nextKey first s = .ok (none, rest)) :
    ∃ b, IsBlank b ∧ s = b ++ '}' :: rest := by
  obtain ⟨b, blank, whole⟩ := exists_blank s
  unfold nextKey at h
  dsimp only at h
  split at h
  · cases h
  · rename_i start
    cases h
    exact ⟨b, blank, by rw [← start, ← whole]⟩
  · split at h
    · split at h
      · obtain ⟨⟨key, r⟩, -, h⟩ := bind_eq_ok.1 h
        cases h
      · cases h
    · split at h
      · split at h
        · obtain ⟨⟨key, r⟩, -, h⟩ := bind_eq_ok.1 h
          cases h
        · cases h
        · cases h
        · cases h
      · cases h

theorem nextKey_some {first : Bool} {key : String} (h : nextKey first s = .ok (some key, rest)) :
    ∃ text k, IsString text k ∧ Opens first s (k ++ rest) := by
  obtain ⟨b, blank, whole⟩ := exists_blank s
  unfold nextKey at h
  dsimp only at h
  split at h
  · cases h
  · cases h
  · rename_i c v _ start
    split at h
    · rename_i isFirst
      split at h
      · rename_i quote
        obtain ⟨⟨key, r⟩, read, h⟩ := bind_eq_ok.1 h
        cases h
        obtain ⟨ps, inner, pieces, rfl⟩ := string_ok read
        refine ⟨_, _, isString_of_pieces pieces, b, blank, ?_⟩
        rw [if_pos isFirst, whole, start, quote]
        simp
      · cases h
    · rename_i notFirst
      split at h
      · rename_i comma
        obtain ⟨b', blank', whole'⟩ := exists_blank v
        split at h
        · rename_i start'
          obtain ⟨⟨key, r⟩, read, h⟩ := bind_eq_ok.1 h
          cases h
          obtain ⟨ps, inner, pieces, rfl⟩ := string_ok read
          refine ⟨_, _, isString_of_pieces pieces, b', blank', ?_⟩
          rw [if_neg notFirst]
          refine ⟨b, blank, ?_⟩
          rw [whole, start, comma, whole', start']
          simp
        · cases h
        · cases h
        · cases h
      · cases h

theorem endOfList_ok (h : endOfList s = .ok rest) : skipSpace s = ']' :: rest := by
  unfold endOfList at h
  split at h
  · rename_i start
    cases h
    exact start
  · cases h
  · split at h <;> cases h
  · cases h

theorem closes_of_endOfList (h : endOfList s = .ok rest) (first : Bool) :
    Closes first ']' AreItems s rest := by
  obtain ⟨b, blank, whole⟩ := exists_blank s
  rw [whole, endOfList_ok h]
  exact closes_end blank first rest

theorem endOfList_skipSpace (s : List Char) : endOfList (skipSpace s) = endOfList s := by
  unfold endOfList
  rw [skipSpace_skipSpace]

theorem closes_of_member {first : Bool} {key : String} {r atValue r' x : List Char}
    (found : nextKey first s = .ok (some key, r)) (sign : colon r = .ok atValue) (value : IsValue x)
    (start : skipSpace atValue = x ++ r') (after : Follows '}' AreMembers r' rest) :
    Closes first '}' AreMembers s rest := by
  obtain ⟨text, k, string, opens⟩ := nextKey_some found
  obtain ⟨b₁, blank₁, rfl⟩ := colon_ok sign
  obtain ⟨b₂, blank₂, whole⟩ := exists_blank atValue
  rw [whole, start] at opens
  exact opens.closes fun b blank => after.members blank string blank₁ blank₂ value

variable {reader : Reader α} (takes : Takes reader)
include takes

theorem firstElements_takes {limit : Nat} {first : Bool} {as : List α} {r : List Char}
    (h : firstElements reader limit first s = .ok (as, r)) (ended : endOfList r = .ok rest) :
    Closes first ']' AreItems s rest := by
  induction limit generalizing first s as with
  | zero =>
      cases h
      exact closes_of_endOfList ended first
  | succ limit ih =>
      rw [firstElements] at h
      obtain ⟨⟨next, w⟩, found, h⟩ := bind_eq_ok.1 h
      cases next with
      | none =>
          cases h
          rw [endOfList_skipSpace] at ended
          exact closes_of_endOfList ended first
      | some t =>
          obtain ⟨⟨a, r'⟩, read, h⟩ := bind_eq_ok.1 h
          obtain ⟨⟨as', rest'⟩, later, h⟩ := bind_eq_ok.1 h
          cases h
          obtain ⟨x, isValue, start⟩ := takes read
          have opens := nextElement_some found
          rw [start] at opens
          exact opens.closes fun b blank => Follows.items (ih later) blank isValue

theorem members_takes {fields : List String} {fuel : Nat} {first : Bool} {seen out : List (String × α)}
    (h : members fields reader fuel first seen s = .ok (out, rest)) :
    Closes first '}' AreMembers s rest := by
  induction fuel generalizing first s seen with
  | zero => cases h
  | succ fuel ih =>
      rw [members] at h
      obtain ⟨⟨next, r⟩, found, h⟩ := bind_eq_ok.1 h
      cases next with
      | none =>
          cases h
          obtain ⟨b, blank, rfl⟩ := nextKey_none found
          exact closes_end blank first _
      | some key =>
          dsimp only at h
          split at h
          · split at h
            · cases h
            · obtain ⟨atValue, sign, h⟩ := bind_eq_ok.1 h
              obtain ⟨⟨a, r'⟩, read, later⟩ := bind_eq_ok.1 h
              obtain ⟨x, isValue, start⟩ := takes read
              exact closes_of_member found sign isValue start (ih later)
          · obtain ⟨atValue, sign, h⟩ := bind_eq_ok.1 h
            obtain ⟨r', passed, later⟩ := bind_eq_ok.1 h
            obtain ⟨x, isValue, start⟩ := skipValue_takes passed
            exact closes_of_member found sign isValue start (ih later)

end Record

theorem Takes.record {reader : Reader α} (takes : Takes reader) (r : Record α β) :
    Takes (r.read reader) := by
  intro u a rest h
  unfold Record.read at h
  split at h
  · rename_i start
    rw [start]
    obtain ⟨⟨seen, rest'⟩, read, h⟩ := bind_eq_ok.1 h
    dsimp only at h
    split at h
    · cases h
      rcases Record.members_takes takes read with ⟨b, blank, rfl⟩ | ⟨t, ⟨ms, members⟩, rfl⟩
      · exact ⟨_, ⟨_, .noMembers blank⟩, by simp⟩
      · exact ⟨_, ⟨_, .object members⟩, by simp⟩
    · cases h
  · rename_i start
    rw [start]
    obtain ⟨⟨values, r'⟩, read, h⟩ := bind_eq_ok.1 h
    dsimp only at h
    split at h
    · obtain ⟨rest', ended, h⟩ := bind_eq_ok.1 h
      cases h
      rcases Record.firstElements_takes takes read ended with ⟨b, blank, rfl⟩ | ⟨t, ⟨vs, items⟩, rfl⟩
      · exact ⟨_, ⟨_, .noItems blank⟩, by simp⟩
      · exact ⟨_, ⟨_, .array items⟩, by simp⟩
    · cases h
  · cases h

/-! ## Whole texts -/

theorem isText_of_decode {reader : Reader α} (takes : Takes reader) {input : String} {a : α}
    (h : decode reader input = .ok a) : ∃ v, IsText v input := by
  unfold decode at h
  split at h
  · cases h
  · rename_i a' rest read
    split at h
    · rename_i ended
      obtain ⟨x, ⟨v, spelled⟩, start⟩ := takes read
      obtain ⟨b, blank, whole⟩ := exists_blank input.toList
      obtain ⟨b', blank', whole'⟩ := exists_blank rest
      rw [ended, List.append_nil] at whole'
      refine ⟨v, ?_⟩
      rw [IsText, whole, start, whole']
      exact .mk blank spelled blank'
    · cases h

/-- A text is read if it says a value of which something can be made, and as what is made of it. -/
theorem decode_eq_ok {reader : Reader α} {f : Value → Option α} (reads : Reads reader f)
    (takes : Takes reader) {input : String} {a : α} :
    decode reader input = .ok a ↔ ∃ v, IsText v input ∧ f v = some a := by
  constructor
  · intro h
    obtain ⟨v, spelled⟩ := isText_of_decode takes h
    exact ⟨v, spelled, by rw [← decode_of_isText reads spelled, h, toOption_ok]⟩
  · rintro ⟨v, spelled, made⟩
    rw [← toOption_eq_some, decode_of_isText reads spelled, made]

end SheetSuite.Json
