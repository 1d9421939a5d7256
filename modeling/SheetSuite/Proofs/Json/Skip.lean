import SheetSuite.Json.Skip
import SheetSuite.Proofs.Json.Strings

namespace SheetSuite.Json

variable {s t b rest : List Char}

/-! ## Numbers -/

/-- The text does not go on with what could belong to a number. -/
def Stops (s : List Char) : Prop :=
  ∀ c ∈ s.head?, c.isDigit = false ∧ c ≠ '.' ∧ c ≠ 'e' ∧ c ≠ 'E'

theorem stops_cons {c : Char} (token : c = ',' ∨ c = ']' ∨ c = '}') (s : List Char) : Stops (c :: s) := by
  intro d hd
  obtain rfl : c = d := by simpa using hd
  rcases token with rfl | rfl | rfl <;> decide

theorem stops_blank {c : Char} (blank : isSpace c = true) (s : List Char) : Stops (c :: s) := by
  intro d hd
  obtain rfl : c = d := by simpa using hd
  simp only [isSpace, Bool.or_eq_true, beq_iff_eq] at blank
  rcases blank with ((rfl | rfl) | rfl) | rfl <;> decide

theorem Stops.append (h : Stops s) (blank : IsBlank b) : Stops (b ++ s) := by
  cases b with
  | nil => exact h
  | cons c b => exact stops_blank (blank c List.mem_cons_self) (b ++ s)

theorem digits_append {ds : List Char} (all : ∀ c ∈ ds, c.isDigit = true)
    (stops : ∀ c ∈ rest.head?, c.isDigit = false) :
    digits (ds ++ rest) = ds ∧ afterDigits (ds ++ rest) = rest := by
  have none : rest.takeWhile Char.isDigit = [] ∧ rest.dropWhile Char.isDigit = rest := by
    cases rest with
    | nil => simp
    | cons c rest => simp [stops c (by simp)]
  unfold digits afterDigits
  rw [List.takeWhile_append_of_pos all, List.dropWhile_append_of_pos all]
  simp [none]

theorem skipExponent?_append (h : IsExponent s) (stops : Stops rest) :
    skipExponent? (s ++ rest) = .ok rest := by
  rcases h with rfl | ⟨mark, sign, ds, hmark, hsign, ⟨full, all⟩, rfl⟩
  · cases rest with
    | nil => rfl
    | cons c rest => simp [skipExponent?, (stops c rfl).2.2]
  · obtain ⟨d, ds, rfl⟩ := List.exists_cons_of_ne_nil full
    rw [List.forall_mem_cons] at all
    have after := (digits_append all.2 fun c hc => (stops c hc).1).2
    have unsigned : d ≠ '+' ∧ d ≠ '-' := by
      constructor <;> rintro rfl <;> simp at all
    have passed : skipExponent (sign ++ (d :: ds ++ rest)) = .ok rest := by
      rcases hsign with rfl | rfl | rfl <;> simp [skipExponent, unsigned, all.1, after]
    rcases hmark with rfl | rfl <;> simpa [skipExponent?] using passed

theorem IsExponent.head (h : IsExponent s) (stops : Stops rest) :
    ∀ c ∈ (s ++ rest).head?, c.isDigit = false ∧ c ≠ '.' := by
  rcases h with rfl | ⟨mark, sign, ds, hmark, -, -, rfl⟩
  · intro c hc
    exact ⟨(stops c hc).1, (stops c hc).2.1⟩
  · rcases hmark with rfl | rfl <;> simp

theorem skipFraction?_append {exponent : List Char} (h : IsFraction s) (hexp : IsExponent exponent)
    (stops : Stops rest) : skipFraction? (s ++ (exponent ++ rest)) = .ok rest := by
  have head := hexp.head stops
  have later := skipExponent?_append hexp stops
  rcases h with rfl | ⟨ds, ⟨full, all⟩, rfl⟩
  · rw [List.nil_append]
    cases tail : exponent ++ rest with
    | nil => rwa [tail] at later
    | cons c tail =>
        rw [tail] at head later
        simpa [skipFraction?, (head c rfl).2] using later
  · obtain ⟨digits, after⟩ := digits_append all fun c hc => (head c hc).1
    simpa [skipFraction?, digits, after, full] using later

theorem skipNumber_append (h : IsNumber s) (stops : Stops rest) : skipNumber (s ++ rest) = .ok rest := by
  obtain ⟨sign, whole, fraction, exponent, hsign, ⟨⟨full, all⟩, zero⟩, hfrac, hexp, rfl⟩ := h
  have later := skipFraction?_append hfrac hexp stops
  have head : ∀ c ∈ (fraction ++ (exponent ++ rest)).head?, c.isDigit = false := by
    rcases hfrac with rfl | ⟨ds, -, rfl⟩
    · exact fun c hc => (hexp.head stops c hc).1
    · simp
  obtain ⟨d, ds, rfl⟩ := List.exists_cons_of_ne_nil full
  rw [List.forall_mem_cons] at all
  have unsigned : skipUnsigned (d :: ds ++ (fraction ++ (exponent ++ rest))) = .ok rest := by
    by_cases first : d = '0'
    · subst first
      obtain rfl : ds = [] := by simpa using zero rfl
      have none : digits ([] ++ (fraction ++ (exponent ++ rest))) = [] :=
        (digits_append (by simp) head).1
      rw [List.nil_append] at none
      simpa [skipUnsigned, none] using later
    · have after := (digits_append all.2 head).2
      simpa [skipUnsigned, first, all.1, after] using later
  rcases hsign with rfl | rfl
  · have positive : d ≠ '-' := by
      rintro rfl
      simp at all
    simpa [skipNumber, positive] using unsigned
  · simpa [skipNumber] using unsigned

/-! ## First characters -/

theorem IsNumber.head (h : IsNumber s) : ∃ c t, s = c :: t ∧ (c = '-' ∨ c.isDigit = true) := by
  obtain ⟨sign, whole, fraction, exponent, rfl | rfl, ⟨⟨full, all⟩, -⟩, -, -, rfl⟩ := h
  · obtain ⟨d, ds, rfl⟩ := List.exists_cons_of_ne_nil full
    exact ⟨d, _, rfl, Or.inr (all d List.mem_cons_self)⟩
  · exact ⟨'-', _, rfl, Or.inl rfl⟩

def otherStarts : List Char :=
  [' ', '\n', '\t', '\r', 'n', 't', 'f', '"', '[', ']', '\x7b', '\x7d']

theorem ne_of_mem_otherStarts {c : Char} (first : c = '-' ∨ c.isDigit = true) :
    ∀ d ∈ otherStarts, c ≠ d := by
  have none : ∀ d ∈ otherStarts, ¬(d = '-' ∨ d.isDigit = true) := by simp [otherStarts]
  rintro d hd rfl
  exact none c hd first

theorem Spells.head {v : Value} (h : Spells v s) :
    ∃ c t, s = c :: t ∧ isSpace c = false ∧ c ≠ ']' := by
  cases h with
  | null => exact ⟨_, _, rfl, by decide⟩
  | yes => exact ⟨_, _, rfl, by decide⟩
  | no => exact ⟨_, _, rfl, by decide⟩
  | number h =>
      obtain ⟨c, t, rfl, first⟩ := h.head
      have other := ne_of_mem_otherStarts first
      refine ⟨c, t, rfl, ?_, other _ (by decide)⟩
      have blank : c ≠ ' ' ∧ c ≠ '\n' ∧ c ≠ '\t' ∧ c ≠ '\r' :=
        ⟨other _ (by decide), other _ (by decide), other _ (by decide), other _ (by decide)⟩
      simp [isSpace, blank]
  | string h =>
      obtain ⟨ps, inner, -, -, rfl⟩ := h
      exact ⟨_, _, rfl, by decide⟩
  | noItems => exact ⟨_, _, rfl, by decide⟩
  | array => exact ⟨_, _, rfl, by decide⟩
  | noMembers => exact ⟨_, _, rfl, by decide⟩
  | object => exact ⟨_, _, rfl, by decide⟩

theorem Spells.length_pos {v : Value} (h : Spells v s) : 0 < s.length := by
  obtain ⟨c, t, rfl, -, -⟩ := h.head
  simp

theorem Spells.skipSpace_append {v : Value} (h : Spells v s) (blank : IsBlank b) (rest : List Char) :
    skipSpace (b ++ (s ++ rest)) = s ++ rest := by
  obtain ⟨c, t, rfl, token, -⟩ := h.head
  exact skipSpace_token blank token _

/-! ## Values -/

theorem skipValueWithin_number {c : Char} {u : List Char} (first : c = '-' ∨ c.isDigit = true)
    (start : skipSpace u = c :: t) (fuel : Nat) : skipValueWithin (fuel + 1) u = skipNumber (c :: t) := by
  have other := ne_of_mem_otherStarts first
  rw [skipValueWithin, start]
  split
  · rename_i empty
    cases empty
  iterate 6
    · rename_i equal
      exact absurd (List.cons.inj equal).1 (other _ (by decide))
  · rename_i equal
    cases equal
    rw [if_pos (by simpa using first)]

theorem colon_blank (blank : IsBlank b) (s : List Char) : colon (b ++ ':' :: s) = .ok s := by
  simp only [colon, skipSpace_token blank (show isSpace ':' = false by decide)]

theorem SpellsItem.head {v : Value} (h : SpellsItem v s) (rest : List Char) :
    ∃ c t, skipSpace (s ++ rest) = c :: t ∧ c ≠ ']' := by
  obtain ⟨blank, h, -⟩ := h
  obtain ⟨c, t, rfl, token, inside⟩ := h.head
  exact ⟨c, _, by simpa using skipSpace_token blank token _, inside⟩

theorem SpellsItem.length_pos {v : Value} (h : SpellsItem v s) : 0 < s.length := by
  obtain ⟨-, h, -⟩ := h
  have := h.length_pos
  simp
  omega

theorem SpellsItems.head {vs : List Value} (h : SpellsItems vs s) (rest : List Char) :
    ∃ c t, skipSpace (s ++ rest) = c :: t ∧ c ≠ ']' := by
  cases h with
  | one item => exact item.head rest
  | more item => simpa using item.head _

theorem SpellsMember.head {member : Option String × Value} (h : SpellsMember member s)
    (rest : List Char) : ∃ t, skipSpace (s ++ rest) = '"' :: t := by
  obtain ⟨blank, ⟨ps, inner, -, -, rfl⟩, -, -⟩ := h
  exact ⟨_, by simpa using skipSpace_token blank (show isSpace '"' = false by decide) _⟩

theorem SpellsMember.length_pos {member : Option String × Value} (h : SpellsMember member s) :
    0 < s.length := by
  obtain ⟨-, -, -, -⟩ := h
  simp only [List.length_append, List.length_cons]
  omega

theorem SpellsMembers.head {members : List (Option String × Value)} (h : SpellsMembers members s)
    (rest : List Char) : ∃ t, skipSpace (s ++ rest) = '"' :: t := by
  cases h with
  | one member => exact member.head rest
  | more member => simpa using member.head _

-- Each value takes a step of its own, and so does each item and each member before its value. The text of a
-- value or an item is never empty, so twice its length leaves room for both.
mutual

theorem Spells.skipped {v : Value} {s rest u : List Char} {fuel : Nat} :
    Spells v s → Stops rest → 2 * s.length ≤ fuel + 1 → skipSpace u = s ++ rest →
      skipValueWithin (fuel + 1) u = .ok rest
  | .null, stops, enough, start => by simp [skipValueWithin, start, word]
  | .yes, stops, enough, start => by simp [skipValueWithin, start, word]
  | .no, stops, enough, start => by simp [skipValueWithin, start, word]
  | .number h, stops, enough, start => by
      obtain ⟨c, t, rfl, first⟩ := h.head
      rw [skipValueWithin_number first start]
      exact skipNumber_append h stops
  | .string h, stops, enough, start => by
      obtain ⟨ps, inner, pieces, -, rfl⟩ := h
      simpa [skipValueWithin, start] using skipString_pieces pieces rest
  | .noItems h, stops, enough, start => by
      have closing := skipSpace_token h (show isSpace ']' = false by decide) rest
      simp [skipValueWithin, start, closing]
  | .array h, stops, enough, start => by
      obtain ⟨c, t, first, inside⟩ := h.head (']' :: rest)
      obtain ⟨n, rfl⟩ : ∃ n, fuel = n + 1 := ⟨fuel - 1, by simp at enough; omega⟩
      have later : skipElements (n + 1) (c :: t) = .ok rest := by
        refine h.skipped (by simp at enough; omega) ?_
        rw [← first, skipSpace_skipSpace]
      simpa [skipValueWithin, start, first, inside] using later
  | .noMembers h, stops, enough, start => by
      have closing := skipSpace_token h (show isSpace '}' = false by decide) rest
      simp [skipValueWithin, start, closing]
  | .object h, stops, enough, start => by
      obtain ⟨t, first⟩ := h.head ('}' :: rest)
      obtain ⟨n, rfl⟩ : ∃ n, fuel = n + 1 := ⟨fuel - 1, by simp at enough; omega⟩
      have later : skipMembers (n + 1) ('"' :: t) = .ok rest := by
        refine h.skipped (by simp at enough; omega) ?_
        rw [← first, skipSpace_skipSpace]
      simpa [skipValueWithin, start, first] using later

theorem SpellsItem.skipped {v : Value} {s rest u : List Char} {fuel : Nat} :
    SpellsItem v s → Stops rest → 2 * s.length ≤ fuel + 1 → skipSpace u = skipSpace (s ++ rest) →
      ∃ b, IsBlank b ∧ skipValueWithin (fuel + 1) u = .ok (b ++ rest)
  | @SpellsItem.mk _ b _ b' blank h blank', stops, enough, start => by
      refine ⟨b', blank', h.skipped (stops.append blank') (by simp at enough; omega) ?_⟩
      rw [start]
      simpa using h.skipSpace_append blank (b' ++ rest)

theorem SpellsItems.skipped {vs : List Value} {s rest u : List Char} {fuel : Nat} :
    SpellsItems vs s → 2 * s.length ≤ fuel → skipSpace u = skipSpace (s ++ ']' :: rest) →
      skipElements (fuel + 1) u = .ok rest
  | .one item, enough, start => by
      have full := item.length_pos
      obtain ⟨n, rfl⟩ : ∃ n, fuel = n + 1 := ⟨fuel - 1, by omega⟩
      obtain ⟨b, blank, passed⟩ := item.skipped (stops_cons (by simp) rest) enough start
      simp [skipElements, passed, skipSpace_token blank (show isSpace ']' = false by decide)]
  | @SpellsItems.more _ _ _ t item items, enough, start => by
      simp only [List.length_append, List.length_cons] at enough
      rw [List.append_assoc, List.cons_append] at start
      obtain ⟨n, rfl⟩ : ∃ n, fuel = n + 1 := ⟨fuel - 1, by omega⟩
      obtain ⟨b, blank, passed⟩ : ∃ b, IsBlank b ∧ skipValueWithin (n + 1) u = .ok (b ++ _) :=
        item.skipped (stops_cons (by simp) _) (by omega) start
      have later : skipElements (n + 1) (t ++ ']' :: rest) = .ok rest := items.skipped (by omega) rfl
      rw [skipElements, passed, ok_bind, skipSpace_token blank (by decide)]
      exact later

theorem SpellsMember.skipped {member : Option String × Value} {s rest u : List Char} {fuel : Nat} :
    SpellsMember member s → Stops rest → 2 * s.length ≤ fuel + 1 → skipSpace u = skipSpace (s ++ rest) →
      ∃ t k t', skipSpace u = '"' :: t ∧ skipString t = .ok k ∧ colon k = .ok t' ∧
        ∃ b, IsBlank b ∧ skipValueWithin (fuel + 1) t' = .ok (b ++ rest)
  | @SpellsMember.mk _ _ _ _ b₁ m blank ⟨ps, inner, pieces, _, quoted⟩ blank₁ item, stops, enough,
      start => by
      subst quoted
      refine ⟨inner ++ '"' :: (b₁ ++ ':' :: (m ++ rest)), b₁ ++ ':' :: (m ++ rest), m ++ rest, ?_,
        skipString_pieces pieces _, colon_blank blank₁ _, item.skipped stops ?_ rfl⟩
      · rw [start]
        simpa using skipSpace_token blank (show isSpace '"' = false by decide) _
      · simp at enough
        omega

theorem SpellsMembers.skipped {members : List (Option String × Value)} {s rest u : List Char}
    {fuel : Nat} : SpellsMembers members s → 2 * s.length ≤ fuel →
      skipSpace u = skipSpace (s ++ '}' :: rest) → skipMembers (fuel + 1) u = .ok rest
  | .one member, enough, start => by
      have full := member.length_pos
      obtain ⟨n, rfl⟩ : ∃ n, fuel = n + 1 := ⟨fuel - 1, by omega⟩
      obtain ⟨t, k, t', first, key, sign, b, blank, passed⟩ :=
        member.skipped (stops_cons (by simp) rest) enough start
      have closing := skipSpace_token blank (show isSpace '}' = false by decide) rest
      simp [skipMembers, first, key, sign, passed, closing]
  | @SpellsMembers.more _ _ _ t member members, enough, start => by
      simp only [List.length_append, List.length_cons] at enough
      rw [List.append_assoc, List.cons_append] at start
      obtain ⟨n, rfl⟩ : ∃ n, fuel = n + 1 := ⟨fuel - 1, by omega⟩
      obtain ⟨v, k, v', first, key, sign, b, blank, passed⟩ : ∃ v k v', skipSpace u = '"' :: v ∧
          skipString v = .ok k ∧ colon k = .ok v' ∧
            ∃ b, IsBlank b ∧ skipValueWithin (n + 1) v' = .ok (b ++ _) :=
        member.skipped (stops_cons (by simp) _) (by omega) start
      have later : skipMembers (n + 1) (t ++ '}' :: rest) = .ok rest := members.skipped (by omega) rfl
      have comma := skipSpace_token blank (show isSpace ',' = false by decide) (t ++ '}' :: rest)
      simp only [skipMembers.eq_2, first, key, sign, passed, ok_bind, comma]
      exact later

end

theorem skipValue_spells {v : Value} {u : List Char} (h : Spells v s) (stops : Stops rest)
    (start : skipSpace u = s ++ rest) : skipValue u = .ok rest := by
  have fits : (s ++ rest).length ≤ u.length := by
    rw [← start]
    exact (List.dropWhile_suffix isSpace).length_le
  rw [List.length_append] at fits
  exact h.skipped stops (by omega) start

end SheetSuite.Json
