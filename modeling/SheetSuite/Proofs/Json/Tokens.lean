import SheetSuite.Json.Skip
import SheetSuite.Proofs.Json.Strings

namespace SheetSuite.Json

variable {s t rest : List Char}

/-! ## Blanks and words -/

theorem exists_blank (s : List Char) : ∃ b, IsBlank b ∧ s = b ++ skipSpace s := by
  refine ⟨s.takeWhile isSpace, fun c mem => List.mem_takeWhile_imp mem, ?_⟩
  exact (List.takeWhile_append_dropWhile).symm

theorem IsBlank.append {b b' : List Char} (h : IsBlank b) (h' : IsBlank b') : IsBlank (b ++ b') := by
  intro c mem
  rcases List.mem_append.1 mem with mem | mem
  · exact h c mem
  · exact h' c mem

theorem word_ok {w : List Char} (h : word w s = .ok rest) : s = w ++ rest := by
  induction w generalizing s with
  | nil =>
      cases h
      rfl
  | cons e w ih =>
      cases s with
      | nil => cases h
      | cons c s =>
          rw [word] at h
          split at h
          · rename_i same
            rw [same, ih h]
            rfl
          · cases h

theorem colon_ok (h : colon s = .ok rest) : ∃ b, IsBlank b ∧ s = b ++ ':' :: rest := by
  obtain ⟨b, blank, whole⟩ := exists_blank s
  unfold colon at h
  split at h
  · rename_i start
    cases h
    exact ⟨b, blank, by rw [← start, ← whole]⟩
  · cases h
  · cases h

/-! ## Strings -/

theorem ArePieces.append {ps qs : List Piece} (h : ArePieces ps s) (h' : ArePieces qs t) :
    ArePieces (ps ++ qs) (s ++ t) := by
  induction h with
  | nil => exact h'
  | @cons p ps x y piece _ ih =>
      rw [List.append_assoc, List.cons_append]
      exact .cons piece ih

theorem hexFour_ok {n : Nat} (h : hexFour s = .ok n) :
    ∃ x y z w t, s = x :: y :: z :: w :: t ∧ hexFour? [x, y, z, w] = some n := by
  unfold hexFour at h
  split at h
  · rename_i known
    cases h
    unfold hexFour? at known
    split at known
    · exact ⟨_, _, _, _, _, rfl, known⟩
    · cases known
  · split at h
    · cases h
    · cases h

def TakesPieces (unit : Char → List Char → Except Fault (Char × Nat)) : Prop :=
  ∀ ⦃c s d k⦄, c ≠ '"' → unit c s = .ok (d, k) → ∃ ps x, ArePieces ps x ∧ c :: s = x ++ s.drop k

theorem takesPieces_plain {c : Char} (quote : c ≠ '"') (slash : c ≠ '\\') (printed : ¬c.toNat < 0x20) :
    ∃ ps x, ArePieces ps x ∧ c :: s = x ++ s.drop 0 :=
  ⟨[.char c], [c], .cons (.plain quote slash (by omega)) .nil, rfl⟩

theorem takesPieces_short {c d : Char} {k : Nat} {s : List Char} (other : c ≠ 'u')
    (h : escapeUnit (c :: s) = .ok (d, k)) :
    ∃ ps x, ArePieces ps x ∧ '\\' :: c :: s = x ++ (c :: s).drop k := by
  unfold escapeUnit at h
  split at h
  · cases h
  · rename_i equal
    exact absurd (List.cons.inj equal).1 other
  · rename_i equal
    cases equal
    split at h
    · rename_i known
      cases h
      exact ⟨[.char d], ['\\', c], .cons (.short known) .nil, rfl⟩
    · cases h

theorem takesPieces_code {n : Nat} {s : List Char} (h : hexFour s = .ok n) :
    ArePieces [.code n] ('\\' :: 'u' :: s.take 4) ∧
      '\\' :: 'u' :: s = ('\\' :: 'u' :: s.take 4) ++ ('u' :: s).drop 5 := by
  obtain ⟨x, y, z, w, t, rfl, known⟩ := hexFour_ok h
  exact ⟨.cons (.code known) .nil, rfl⟩

theorem takesPieces_unicode {d : Char} {k : Nat} {s : List Char} (h : unicodeUnit s = .ok (d, k)) :
    ∃ ps x, ArePieces ps x ∧ '\\' :: 'u' :: s = x ++ ('u' :: s).drop k := by
  obtain ⟨n, first, h⟩ := bind_eq_ok.1 h
  obtain ⟨pieces, whole⟩ := takesPieces_code first
  dsimp only at h
  split at h
  · cases h
  · split at h
    · cases h
      exact ⟨_, _, pieces, whole⟩
    · -- A leading surrogate takes the escape after it along.
      split at h
      · cases h
      · cases h
      · rename_i tail pair
        obtain ⟨m, second, h⟩ := bind_eq_ok.1 h
        obtain ⟨pieces', whole'⟩ := takesPieces_code second
        split at h
        · obtain ⟨-, rfl⟩ := Prod.mk.inj (Except.ok.inj h)
          refine ⟨_, _, pieces.append pieces', ?_⟩
          have later : ('u' :: s).drop 11 = ('u' :: tail).drop 5 := by
            calc ('u' :: s).drop 11 = (s.drop 4).drop 6 := by simp
              _ = ('u' :: tail).drop 5 := by rw [pair]; rfl
          calc '\\' :: 'u' :: s = '\\' :: 'u' :: s.take 4 ++ s.drop 4 := whole
            _ = '\\' :: 'u' :: s.take 4 ++ ('\\' :: 'u' :: tail) := by rw [pair]
            _ = _ := by rw [whole', later, List.append_assoc]
        · cases h
      · cases h
      · cases h

theorem unit_takesPieces : TakesPieces unit := by
  intro c s d k quote h
  unfold unit at h
  split at h
  · rename_i slash
    subst slash
    cases s with
    | nil => cases h
    | cons e s =>
        by_cases code : e = 'u'
        · subst code
          exact takesPieces_unicode h
        · exact takesPieces_short code h
  · rename_i slash
    split at h
    · cases h
    · rename_i printed
      cases h
      exact takesPieces_plain quote slash printed

theorem looseUnit_takesPieces : TakesPieces looseUnit := by
  intro c s d k quote h
  unfold looseUnit at h
  split at h
  · rename_i slash
    subst slash
    split at h
    · obtain ⟨n, first, h⟩ := bind_eq_ok.1 h
      cases h
      exact ⟨_, _, takesPieces_code first⟩
    · rename_i other
      cases s with
      | nil => cases h
      | cons e s => exact takesPieces_short (fun code => other s (by rw [code])) h
  · rename_i slash
    split at h
    · cases h
    · rename_i printed
      cases h
      exact takesPieces_plain quote slash printed

theorem stringFrom_ok {unit : Char → List Char → Except Fault (Char × Nat)} (takes : TakesPieces unit)
    {cs : List Char} (h : stringFrom unit 0 s = .ok (cs, rest)) :
    ∃ ps inner, ArePieces ps inner ∧ s = inner ++ '"' :: rest := by
  -- A unit takes more than its first character, so the induction is on the length of the text.
  induction known : s.length using Nat.strong_induction_on generalizing s cs with
  | _ n ih =>
      cases s with
      | nil => cases h
      | cons c s =>
          by_cases quote : c = '"'
          · subst quote
            simp only [stringFrom, if_true] at h
            cases h
            exact ⟨[], [], .nil, rfl⟩
          · rw [stringFrom_cons quote] at h
            obtain ⟨⟨d, k⟩, taken, h⟩ := bind_eq_ok.1 h
            obtain ⟨⟨ds, rest'⟩, later, h⟩ := bind_eq_ok.1 h
            cases h
            have shorter : (s.drop k).length < n := by
              simp only [List.length_drop, ← known, List.length_cons]
              omega
            obtain ⟨ps, x, pieces, whole⟩ := takes quote taken
            obtain ⟨qs, y, pieces', rest⟩ := ih _ shorter later rfl
            exact ⟨ps ++ qs, x ++ y, pieces.append pieces', by rw [whole, rest, List.append_assoc]⟩

theorem string_ok {text : String} (h : string s = .ok (text, rest)) :
    ∃ ps inner, ArePieces ps inner ∧ s = inner ++ '"' :: rest := by
  obtain ⟨⟨cs, rest'⟩, read, h⟩ := bind_eq_ok.1 h
  cases h
  exact stringFrom_ok unit_takesPieces read

theorem skipString_ok (h : skipString s = .ok rest) :
    ∃ ps inner, ArePieces ps inner ∧ s = inner ++ '"' :: rest := by
  obtain ⟨⟨cs, rest'⟩, read, h⟩ := bind_eq_ok.1 h
  cases h
  exact stringFrom_ok looseUnit_takesPieces read

/-! ## Numbers -/

theorem digits_afterDigits (s : List Char) : s = digits s ++ afterDigits s :=
  List.takeWhile_append_dropWhile.symm

theorem isDigit_of_mem_digits {c : Char} (h : c ∈ digits s) : c.isDigit = true :=
  List.mem_takeWhile_imp h

theorem areDigits_cons {c : Char} (first : c.isDigit = true) (s : List Char) :
    AreDigits (c :: digits s) := by
  refine ⟨List.cons_ne_nil _ _, fun d mem => ?_⟩
  rcases List.mem_cons.1 mem with rfl | mem
  · exact first
  · exact isDigit_of_mem_digits mem

theorem ok_digits {c : Char} {fault : Fault}
    (h : (if c.isDigit then .ok (afterDigits t) else .error fault) = Except.ok rest) :
    ∃ ds, AreDigits ds ∧ c :: t = ds ++ rest := by
  split at h
  · rename_i first
    cases h
    exact ⟨c :: digits t, areDigits_cons first t, by rw [List.cons_append, ← digits_afterDigits]⟩
  · cases h

theorem skipExponent_ok (h : skipExponent s = .ok rest) :
    ∃ sign ds, (sign = [] ∨ sign = ['+'] ∨ sign = ['-']) ∧ AreDigits ds ∧ s = sign ++ (ds ++ rest) := by
  obtain _ | ⟨c, s⟩ := s
  · cases h
  by_cases plus : c = '+'
  · subst plus
    obtain _ | ⟨c, s⟩ := s
    · cases h
    obtain ⟨ds, digits, equal⟩ := ok_digits h
    exact ⟨['+'], ds, by simp, digits, by rw [equal]; rfl⟩
  by_cases minus : c = '-'
  · subst minus
    obtain _ | ⟨c, s⟩ := s
    · cases h
    obtain ⟨ds, digits, equal⟩ := ok_digits h
    exact ⟨['-'], ds, by simp, digits, by rw [equal]; rfl⟩
  · have unsigned : skipExponent (c :: s) =
        if c.isDigit then .ok (afterDigits s) else .error (.ahead .invalidNumber (c :: s)) := by
      simp [skipExponent, plus, minus]
    obtain ⟨ds, digits, equal⟩ := ok_digits (unsigned.symm.trans h)
    exact ⟨[], ds, by simp, digits, equal⟩

theorem skipExponent?_ok (h : skipExponent? s = .ok rest) : ∃ x, IsExponent x ∧ s = x ++ rest := by
  unfold skipExponent? at h
  split at h
  · obtain ⟨sign, ds, signed, digits, rfl⟩ := skipExponent_ok h
    exact ⟨'e' :: (sign ++ ds), Or.inr ⟨'e', sign, ds, by simp, signed, digits, rfl⟩, by simp⟩
  · obtain ⟨sign, ds, signed, digits, rfl⟩ := skipExponent_ok h
    exact ⟨'E' :: (sign ++ ds), Or.inr ⟨'E', sign, ds, by simp, signed, digits, rfl⟩, by simp⟩
  · cases h
    exact ⟨[], Or.inl rfl, rfl⟩

theorem skipFraction?_ok (h : skipFraction? s = .ok rest) :
    ∃ x y, IsFraction x ∧ IsExponent y ∧ s = x ++ (y ++ rest) := by
  unfold skipFraction? at h
  split at h
  · rename_i t
    split at h
    · cases h
    · rename_i some
      obtain ⟨y, exponent, after⟩ := skipExponent?_ok h
      refine ⟨'.' :: digits t, y, Or.inr ⟨digits t, ⟨?_, fun c => isDigit_of_mem_digits⟩, rfl⟩,
        exponent, ?_⟩
      · simpa using some
      · rw [List.cons_append, ← after, ← digits_afterDigits]
  · obtain ⟨y, exponent, rfl⟩ := skipExponent?_ok h
    exact ⟨[], y, Or.inl rfl, exponent, rfl⟩

theorem skipUnsigned_ok (h : skipUnsigned s = .ok rest) :
    ∃ w x y, IsWhole w ∧ IsFraction x ∧ IsExponent y ∧ s = w ++ (x ++ (y ++ rest)) := by
  unfold skipUnsigned at h
  split at h
  · split at h
    · obtain ⟨x, y, fraction, exponent, rfl⟩ := skipFraction?_ok h
      exact ⟨['0'], x, y, by simp [IsWhole, AreDigits], fraction, exponent, rfl⟩
    · cases h
  · rename_i c t other
    split at h
    · rename_i first
      obtain ⟨x, y, fraction, exponent, after⟩ := skipFraction?_ok h
      have positive : c ≠ '0' := other
      refine ⟨c :: digits t, x, y, ⟨areDigits_cons first t, ?_⟩, fraction, exponent, ?_⟩
      · simp [positive]
      · rw [List.cons_append, ← after, ← digits_afterDigits]
    · cases h
  · cases h

theorem skipNumber_ok (h : skipNumber s = .ok rest) : ∃ x, IsNumber x ∧ s = x ++ rest := by
  unfold skipNumber at h
  split at h
  · obtain ⟨w, x, y, whole, fraction, exponent, rfl⟩ := skipUnsigned_ok h
    exact ⟨_, ⟨['-'], w, x, y, by simp, whole, fraction, exponent, rfl⟩, by simp⟩
  · obtain ⟨w, x, y, whole, fraction, exponent, rfl⟩ := skipUnsigned_ok h
    exact ⟨_, ⟨[], w, x, y, by simp, whole, fraction, exponent, rfl⟩, by simp⟩

end SheetSuite.Json
