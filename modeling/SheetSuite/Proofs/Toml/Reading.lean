import SheetSuite.Proofs.Text.Cut
import SheetSuite.Proofs.Toml.Grammar

namespace SheetSuite.Toml

variable {s r t b : List Char}

/-! ## Ends of lines -/

theorem skipBlanks_append (blanks : AreBlanks b) (stop : ∀ c ∈ s.head?, isBlank c = false) :
    skipBlanks (b ++ s) = s :=
  Text.dropWhile_run blanks stop

theorem skipBlanks_cons {c : Char} (blanks : AreBlanks b) (token : isBlank c = false) (s : List Char) :
    skipBlanks (b ++ c :: s) = c :: s :=
  skipBlanks_append blanks (by simpa using token)

theorem IsEnd.head {e : List Char} (h : IsEnd e t) : ∀ c ∈ (e ++ t).head?, c = '\n' ∨ c = '\r' := by
  cases h <;> simp

theorem IsEnd.lineEnd? {e : List Char} (h : IsEnd e t) :
    e ++ t = [] ∧ t = [] ∨ Toml.lineEnd? (e ++ t) = some t := by
  cases h with
  | feed => exact Or.inr rfl
  | returnFeed => exact Or.inr rfl
  | ofText => exact Or.inl ⟨rfl, rfl⟩

theorem lineEnd?_other {c : Char} (feed : c ≠ '\n') (carriage : c ≠ '\r') (s : List Char) :
    lineEnd? (c :: s) = none := by
  unfold lineEnd?
  split
  · rename_i equal
    exact absurd (List.cons.inj equal).1 feed
  · rename_i equal
    exact absurd (List.cons.inj equal).1 carriage
  · rfl

def restStarts : List Char :=
  [' ', '\t', '#', '\n', '\r']

theorem mem_restStarts_of_blank {c : Char} (blank : isBlank c = true) : c ∈ restStarts := by
  simp only [isBlank, Bool.or_eq_true, beq_iff_eq] at blank
  rcases blank with rfl | rfl
  · decide
  · decide

theorem ne_of_mem_restStarts {p : Char → Bool} (none : restStarts.any p = false) :
    ∀ c ∈ restStarts, p c = false := by
  simpa using none

theorem IsRest.head (h : IsRest r t) : ∀ c ∈ (r ++ t).head?, c ∈ restStarts := by
  obtain @⟨b, m, e, t, blanks, comment, ending⟩ := h
  intro c first
  cases b with
  | cons d b =>
      obtain rfl : d = c := by simpa using first
      exact mem_restStarts_of_blank (blanks d List.mem_cons_self)
  | nil =>
      cases comment with
      | some =>
          obtain rfl : '#' = c := by simpa using first
          decide
      | none =>
          rcases ending.head c (by simpa using first) with rfl | rfl
          · decide
          · decide

theorem IsRest.tail {u : List Char} (h : IsRest r t) (space : r ++ t = ' ' :: u) :
    ∃ r', IsRest r' t ∧ u = r' ++ t := by
  obtain @⟨b, m, e, t, blanks, comment, ending⟩ := h
  cases b with
  | cons d b =>
      refine ⟨b ++ (m ++ e), .mk (fun c inside => blanks c (List.mem_cons_of_mem d inside)) comment ending, ?_⟩
      simpa using (List.cons.inj space).2.symm
  | nil =>
      cases comment with
      | some => cases space
      | none => cases ending <;> cases space

theorem IsRest.skipBlanks (h : IsRest r t) : ∃ m e, IsComment m ∧ IsEnd e t ∧
    Toml.skipBlanks (r ++ t) = m ++ (e ++ t) := by
  obtain @⟨b, m, e, t, blanks, comment, ending⟩ := h
  refine ⟨m, e, comment, ending, ?_⟩
  rw [List.append_assoc, List.append_assoc]
  apply skipBlanks_append blanks
  intro c first
  cases comment with
  | some =>
      obtain rfl : '#' = c := by simpa using first
      decide
  | none =>
      rcases ending.head c (by simpa using first) with rfl | rfl
      · decide
      · decide

theorem comment?_end {m e : List Char} (plain : ∀ c ∈ m, isControl c = false) (ending : IsEnd e t) :
    comment? (m ++ (e ++ t)) = some (e ++ t) := by
  have scanned : (m ++ (e ++ t)).dropWhile (!isControl ·) = e ++ t := by
    refine Text.dropWhile_run (fun c inside => by simp [plain c inside]) (fun c first => ?_)
    rcases ending.head c first with rfl | rfl
    · decide
    · decide
  unfold comment?
  rw [scanned]
  rcases ending.lineEnd? with ⟨none, -⟩ | some
  · simp [none]
  · simp [some]

theorem restOfLine?_rest (h : IsRest r t) : restOfLine? (r ++ t) = some t := by
  obtain ⟨m, e, comment, ending, skipped⟩ := h.skipBlanks
  have ends : (if (e ++ t).isEmpty then some (e ++ t) else lineEnd? (e ++ t)) = some t := by
    rcases ending.lineEnd? with ⟨none, rfl⟩ | some
    · simp [none]
    · cases ending <;> simp [lineEnd?]
  unfold restOfLine?
  rw [skipped]
  cases comment with
  | some plain => simpa [comment?_end plain ending] using ends
  | none =>
      rw [List.nil_append]
      split
      · rename_i u starts
        have first := ending.head '#' (by simp [starts])
        simp at first
      · simpa using ends

/-! ## Texts -/

theorem closing?_other {c : Char} (other : c ≠ '"') (s : List Char) :
    closing? ⟨'"', true, false⟩ (c :: s) = none := by
  simp [closing?, other]

theorem textFrom_plain (plain : IsPlain s) (rest : List Char) :
    textFrom ⟨'"', true, false⟩ 0 (s ++ '"' :: rest) = some (s, rest) := by
  induction s with
  | nil => simp [textFrom, closing?]
  | cons c s ih =>
      obtain ⟨quote, slash, control⟩ := plain c List.mem_cons_self
      have unit : textUnit? ⟨'"', true, false⟩ c (s ++ '"' :: rest) = some ([c], 0) := by
        simp [textUnit?, slash, control]
      have later := ih fun d inside => plain d (List.mem_cons_of_mem c inside)
      rw [List.cons_append, textFrom, closing?_other quote]
      simp [unit, later]

theorem text?_short {u : List Char} (single : ∀ v, u ≠ '"' :: '"' :: v) :
    text? '"' ('"' :: u) = shortText? '"' u := by
  rcases u with _ | ⟨x, _ | ⟨y, u⟩⟩
  · rfl
  · rfl
  · have short : ¬('"' = '"' ∧ x = '"' ∧ y = '"') := by
      rintro ⟨-, rfl, rfl⟩
      exact single u rfl
    rw [text?, if_neg short]

theorem text?_plain {text : String} (plain : IsPlain text.toList) {rest : List Char}
    (stop : ∀ c ∈ rest.head?, c ≠ '"') :
    text? '"' ('"' :: (text.toList ++ '"' :: rest)) = some (text, rest) := by
  have single : ∀ v, text.toList ++ '"' :: rest ≠ '"' :: '"' :: v := by
    intro v equal
    rcases chars : text.toList with _ | ⟨c, s⟩
    · rw [chars] at equal
      obtain rfl : rest = '"' :: v := by simpa using equal
      exact stop '"' rfl rfl
    · rw [chars] at equal plain
      obtain ⟨rfl, -⟩ := List.cons.inj equal
      exact (plain '"' List.mem_cons_self).1 rfl
  rw [text?_short single, shortText?]
  simp [textFrom_plain plain rest]

/-! ## Numbers and truth values -/

theorem digit?_of_isDigit {c : Char} (digit : c.isDigit = true) :
    digit? c = some (c.toNat - 48) ∧ c.toNat - 48 < 10 := by
  have most : c.toNat ≤ 57 := by
    simp only [Char.isDigit, Bool.and_eq_true, decide_eq_true_eq] at digit
    exact digit.2
  exact ⟨by simp [digit?, digit], by omega⟩

theorem group?_digits (full : s ≠ []) (digits : ∀ c ∈ s, c.isDigit = true) :
    group? 10 s = some (s.map fun c => c.toNat - 48) := by
  induction s with
  | nil => exact absurd rfl full
  | cons c s ih =>
      obtain ⟨first, small⟩ := digit?_of_isDigit (digits c List.mem_cons_self)
      cases s with
      | nil => simp [group?, first, small]
      | cons d s =>
          have digit := digits d (by simp)
          have other : d ≠ '_' := by
            rintro rfl
            cases digit
          have later := ih (List.cons_ne_nil d s) fun x inside => digits x (List.mem_cons_of_mem c inside)
          rw [group?]
          · simp [first, small, later]
          · simp
          · rintro rest equal
            exact other (List.cons.inj equal).1

theorem ofDigits_chars (s : List Char) :
    ofDigits 10 (s.map fun c => c.toNat - 48) = Nat.ofDigitChars 10 s 0 := by
  rw [ofDigits, List.foldl_map, Nat.ofDigitChars_eq_foldl]
  congr
  funext n c
  rw [Nat.mul_comm]
  rfl

theorem toDigits_zeroless {n : Nat} (positive : n ≠ 0) : (Nat.toDigits 10 n).head? ≠ some '0' := by
  induction n using Nat.strong_induction_on with
  | _ n ih =>
      rw [Nat.toDigits_eq_if (by decide)]
      split
      · rename_i small
        have other : ∀ m < 10, m ≠ 0 → m.digitChar ≠ '0' := by decide
        simpa using other n small positive
      · rename_i large
        have first := ih (n / 10) (by omega) (by omega)
        rwa [List.head?_append_of_ne_nil _ Nat.toDigits_ne_nil]

theorem isDigit_of_mem {n : Nat} {c : Char} (inside : c ∈ Nat.toDigits 10 n) : c.isDigit = true :=
  Nat.isDigit_of_mem_toDigits (by decide) (by decide) inside

theorem eq_zero_of_digit {c : Char} (digit : c.isDigit = true) (zero : c.toNat - 48 = 0) : c = '0' := by
  simp only [Char.isDigit, Bool.and_eq_true, decide_eq_true_eq] at digit
  have least : 48 ≤ c.toNat := digit.1
  exact Char.toNat_inj.1 (show c.toNat = 48 by omega)

theorem decimalDigits?_toDigits (n : Nat) :
    decimalDigits? (Nat.toDigits 10 n) = some ((Nat.toDigits 10 n).map fun c => c.toNat - 48) := by
  unfold decimalDigits?
  rw [group?_digits Nat.toDigits_ne_nil fun c => isDigit_of_mem]
  dsimp only [bind, Option.bind]
  split
  · -- There is no zero before other digits, as zero has no more than one.
    rename_i d ds leading
    obtain ⟨c, s, chars, zero, rest⟩ := List.map_eq_cons_iff.1 leading
    obtain rfl : c = '0' := eq_zero_of_digit (isDigit_of_mem (chars ▸ List.mem_cons_self)) zero
    by_cases none : n = 0
    · rw [none, Nat.toDigits_of_lt_base (by decide)] at chars
      obtain rfl : s = [] := (List.cons.inj chars).2.symm
      cases rest
    · exact absurd (by rw [chars]; rfl) (toDigits_zeroless none)
  · rfl

theorem integer?_of_digits {ds : List Nat} (digits : ∀ c ∈ s, c.isDigit = true)
    (decimal : decimalDigits? s = some ds) : integer? s = some (ofDigits 10 ds : Int) := by
  have unsigned : splitSign s = (false, s) := by
    unfold splitSign
    split
    · cases digits '+' (by simp)
    · cases digits '-' (by simp)
    · rfl
  unfold integer?
  split
  · cases digits 'x' (by simp)
  · cases digits 'o' (by simp)
  · cases digits 'b' (by simp)
  · simp [unsigned, decimal]

theorem integer?_toDigits (n : Nat) : integer? (Nat.toDigits 10 n) = some (n : Int) := by
  rw [integer?_of_digits (fun c => isDigit_of_mem) (decimalDigits?_toDigits n), ofDigits_chars,
    Nat.ofDigitChars_ten_toDigits]

theorem scalar?_toDigits (n : Nat) : scalar? (Nat.toDigits 10 n) = some (.integer n) := by
  have word (s : List Char) (c : Char) (letter : c.isDigit = false) : Nat.toDigits 10 n ≠ c :: s := by
    intro equal
    have digit : c.isDigit = true := isDigit_of_mem (equal ▸ List.mem_cons_self)
    simp [letter] at digit
  unfold scalar?
  rw [if_neg (word _ 't' rfl), if_neg (word _ 'f' rfl), integer?_toDigits]

theorem tokenLength_rest (token : ∀ c ∈ s, isTokenChar c = true) (h : IsRest r t) :
    tokenLength (s ++ (r ++ t)) = s.length := by
  have stop : ∀ c ∈ (r ++ t).head?, isTokenChar c = false := by
    intro c first
    exact ne_of_mem_restStarts rfl c (h.head c first)
  unfold tokenLength
  rw [Text.takeWhile_run token stop]
  dsimp only
  rw [List.drop_left]
  split
  · rename_i u space
    have timeless : u.head?.any Char.isDigit = false := by
      obtain ⟨r', later, rfl⟩ := h.tail space
      cases first : (r' ++ t).head? with
      | none => rfl
      | some c => exact ne_of_mem_restStarts (p := Char.isDigit) rfl c (later.head c first)
    simp [timeless]
  · rfl

theorem isTokenChar_of_isDigit {c : Char} (digit : c.isDigit = true) : isTokenChar c = true := by
  simp [isTokenChar, Char.isAlphanum, digit]

/-! ## Values -/

theorem value?_token {l : Literal} (depth fuel : Nat) (full : s ≠ [])
    (token : ∀ c ∈ s, isTokenChar c = true) (made : scalar? s = some l.value) (h : IsRest r t) :
    value? depth (fuel + 1) (s ++ (r ++ t)) = some (l.value, r ++ t) := by
  have scanned := tokenLength_rest token h
  obtain ⟨c, s, rfl⟩ := List.exists_cons_of_ne_nil full
  have first := token c List.mem_cons_self
  rw [List.cons_append] at scanned ⊢
  rw [value?]
  · rw [scanned, ← List.cons_append, List.take_left, List.drop_left, made]
    rfl
  all_goals
    rintro u equal
    obtain ⟨rfl, -⟩ := List.cons.inj equal
    cases first

theorem IsLiteral.value?_eq {l : Literal} (literal : IsLiteral l s) (depth fuel : Nat) (h : IsRest r t) :
    value? depth (fuel + 1) (s ++ (r ++ t)) = some (l.value, r ++ t) := by
  cases literal with
  | @text text plain =>
      have stop : ∀ c ∈ (r ++ t).head?, c ≠ '"' := by
        intro c first
        have other := ne_of_mem_restStarts (p := (· == '"')) rfl c (h.head c first)
        simpa using other
      have read := text?_plain plain stop
      simp only [List.cons_append, List.append_assoc, List.nil_append, value?, read]
      rfl
  | number n =>
      rw [Nat.toString_eq_ofList_toDigits, String.toList_ofList]
      refine value?_token depth fuel Nat.toDigits_ne_nil (fun c inside => ?_) (scalar?_toDigits n) h
      exact isTokenChar_of_isDigit (isDigit_of_mem inside)
  | yes => exact value?_token depth fuel (by decide) (List.all_eq_true.1 rfl) rfl h
  | no => exact value?_token depth fuel (by decide) (List.all_eq_true.1 rfl) rfl h

theorem IsLiteral.head {l : Literal} (literal : IsLiteral l s) :
    ∃ c u, s = c :: u ∧ isBlank c = false := by
  cases literal with
  | text => exact ⟨_, _, rfl, rfl⟩
  | number n =>
      rw [Nat.toString_eq_ofList_toDigits, String.toList_ofList]
      obtain ⟨c, u, chars⟩ := List.exists_cons_of_ne_nil (Nat.toDigits_ne_nil (n := n) (b := 10))
      have digit : c.isDigit = true := isDigit_of_mem (n := n) (chars ▸ List.mem_cons_self)
      refine ⟨c, u, chars, ?_⟩
      by_contra blank
      simp only [Bool.not_eq_false, isBlank, Bool.or_eq_true, beq_iff_eq] at blank
      rcases blank with rfl | rfl <;> cases digit
  | yes => exact ⟨_, _, rfl, rfl⟩
  | no => exact ⟨_, _, rfl, rfl⟩

/-! ## Keys -/

theorem isBare_cons (bare : IsBare s) : ∃ c u, s = c :: u ∧ isKeyChar c = true := by
  obtain ⟨c, u, rfl⟩ := List.exists_cons_of_ne_nil bare.1
  exact ⟨c, u, rfl, bare.2 c List.mem_cons_self⟩

theorem keyPart?_bare {key : String} (bare : IsBare key.toList) {rest : List Char}
    (stop : ∀ c ∈ rest.head?, isKeyChar c = false) :
    keyPart? (key.toList ++ rest) = some (key, rest) := by
  have scanned := Text.takeWhile_run bare.2 stop
  obtain ⟨c, u, chars, first⟩ := isBare_cons bare
  rw [chars, List.cons_append] at scanned ⊢
  rw [keyPart?]
  · rw [scanned, ← List.cons_append, ← chars]
    simp [bare.1]
  all_goals
    rintro u equal
    obtain ⟨rfl, -⟩ := List.cons.inj equal
    cases first

theorem isBlank_false {c : Char} (key : isKeyChar c = true ∨ c = ']' ∨ c = '=') : isBlank c = false := by
  by_contra blank
  simp only [Bool.not_eq_false, isBlank, Bool.or_eq_true, beq_iff_eq] at blank
  rcases blank with rfl | rfl
  · exact absurd key (by decide)
  · exact absurd key (by decide)

theorem key?_bare {key : String} (bare : IsBare key.toList) {b' : List Char} (blanks : AreBlanks b)
    (blanks' : AreBlanks b') {c : Char} (stop : c = ']' ∨ c = '=') (fuel : Nat) (u : List Char) :
    key? (fuel + 1) (b ++ (key.toList ++ (b' ++ c :: u))) = some ([key], c :: u) := by
  have skipped : skipBlanks (b ++ (key.toList ++ (b' ++ c :: u))) = key.toList ++ (b' ++ c :: u) := by
    obtain ⟨d, k, chars, first⟩ := isBare_cons bare
    refine skipBlanks_append blanks fun x head => ?_
    obtain rfl : d = x := by simpa [chars] using head
    exact isBlank_false (Or.inl first)
  have part : keyPart? (key.toList ++ (b' ++ c :: u)) = some (key, b' ++ c :: u) := by
    refine keyPart?_bare bare fun x head => ?_
    cases b' with
    | nil =>
        obtain rfl : c = x := by simpa using head
        rcases stop with rfl | rfl <;> decide
    | cons d b' =>
        obtain rfl : d = x := by simpa using head
        by_contra inside
        have other := isBlank_false (Or.inl (eq_true_of_ne_false inside))
        rw [blanks' d List.mem_cons_self] at other
        cases other
  have after : skipBlanks (b' ++ c :: u) = c :: u := by
    refine skipBlanks_append blanks' fun x head => ?_
    obtain rfl : c = x := by simpa using head
    exact isBlank_false (Or.inr stop)
  rw [key?, skipped, part]
  dsimp only [bind, Option.bind]
  rw [after]
  rcases stop with rfl | rfl <;> rfl

/-! ## Lines -/

theorem exists_keyStart {key : String} (bare : IsBare key.toList) (blanks : AreBlanks b) (u : List Char) :
    ∃ c v, b ++ (key.toList ++ u) = c :: v ∧ (isBlank c = true ∨ isKeyChar c = true) := by
  cases b with
  | nil =>
      obtain ⟨c, k, chars, first⟩ := isBare_cons bare
      exact ⟨c, k ++ u, by simp [chars], Or.inr first⟩
  | cons c b => exact ⟨c, _, rfl, Or.inl (blanks c List.mem_cons_self)⟩

theorem line?_header {name : String} {b₁ b₂ : List Char} (bare : IsBare name.toList)
    (blanks : AreBlanks b) (blanks₁ : AreBlanks b₁) (blanks₂ : AreBlanks b₂) (h : IsRest r t) :
    line? (b ++ ('[' :: (b₁ ++ (name.toList ++ (b₂ ++ ']' :: (r ++ t)))))) =
      some (.header [name], t) := by
  have key := key?_bare bare blanks₁ blanks₂ (Or.inl rfl)
    (b₁ ++ (name.toList ++ (b₂ ++ ']' :: (r ++ t)))).length (r ++ t)
  obtain ⟨d, v, chars, first⟩ := exists_keyStart bare blanks₁ (b₂ ++ ']' :: (r ++ t))
  unfold line?
  rw [skipBlanks_cons blanks rfl]
  split
  · -- It is not the header of a list, as no second bracket follows.
    rename_i u equal
    rw [chars] at equal
    obtain ⟨-, rfl, -⟩ : '[' = '[' ∧ d = '[' ∧ v = u := by simpa using equal
    rcases first with first | first <;> cases first
  · rename_i u _ equal
    obtain rfl := (List.cons.inj equal).2
    rw [key]
    simp [restOfLine?_rest h]
  · rename_i equal
    cases equal
  · rename_i other equal
    exact absurd (List.cons.inj equal).1.symm (by simpa using other)

theorem line?_member {key : String} {l : Literal} {b₁ b₂ v : List Char} (bare : IsBare key.toList)
    (blanks : AreBlanks b) (blanks₁ : AreBlanks b₁) (blanks₂ : AreBlanks b₂) (literal : IsLiteral l v)
    (h : IsRest r t) :
    line? (b ++ (key.toList ++ (b₁ ++ '=' :: (b₂ ++ (v ++ (r ++ t)))))) =
      some (.assignment [key] l.value, t) := by
  have nothing : AreBlanks [] := by simp [AreBlanks]
  obtain ⟨c, k, chars, first⟩ := isBare_cons bare
  have key (fuel : Nat) := key?_bare bare nothing blanks₁ (Or.inr rfl) fuel (b₂ ++ (v ++ (r ++ t)))
  have value (fuel : Nat) : value? maxDepth (fuel + 1) (skipBlanks (b₂ ++ (v ++ (r ++ t)))) =
      some (l.value, r ++ t) := by
    obtain ⟨d, w, rfl, token⟩ := literal.head
    rw [List.cons_append, skipBlanks_cons blanks₂ token, ← List.cons_append]
    exact literal.value?_eq maxDepth fuel h
  have starts (x : Char) (other : isKeyChar x = false) : c ≠ x := by
    rintro rfl
    rw [first] at other
    cases other
  unfold line?
  rw [chars, List.cons_append] at key ⊢
  rw [skipBlanks_cons blanks (isBlank_false (Or.inl first))]
  split
  · rename_i equal
    exact absurd (List.cons.inj equal).1 (starts '[' rfl)
  · rename_i equal
    exact absurd (List.cons.inj equal).1 (starts '[' rfl)
  · rename_i equal
    cases equal
  · rename_i equal
    obtain ⟨rfl, rfl⟩ := List.cons.inj equal
    have none := lineEnd?_other (starts '\n' rfl) (starts '\r' rfl)
      (k ++ (b₁ ++ '=' :: (b₂ ++ (v ++ (r ++ t)))))
    rw [List.nil_append] at key
    simp only [starts '#' rfl, decide_false, none, Option.isSome_none, Bool.or_self, Bool.false_eq_true,
      if_false]
    rw [key]
    simp [value, restOfLine?_rest h]

theorem line?_statement {st : Statement} (blanks : AreBlanks b) (statement : IsStatement st s)
    (h : IsRest r t) : line? (b ++ (s ++ (r ++ t))) = some (st.line, t) := by
  cases statement with
  | header bare blanks₁ blanks₂ =>
      simpa [Statement.line] using line?_header bare blanks blanks₁ blanks₂ h
  | member bare blanks₁ blanks₂ literal =>
      simpa [Statement.line] using line?_member bare blanks blanks₁ blanks₂ literal h

theorem IsStatement.head {st : Statement} (h : IsStatement st s) :
    ∃ c u, s = c :: u ∧ (c = '[' ∨ isKeyChar c = true) := by
  cases h with
  | header => exact ⟨_, _, rfl, Or.inl rfl⟩
  | member bare =>
      obtain ⟨c, u, chars, first⟩ := isBare_cons bare
      rw [chars]
      exact ⟨c, _, rfl, Or.inr first⟩

theorem line?_rest (h : IsRest r t) : line? (r ++ t) = some (.blank, t) := by
  obtain ⟨m, e, comment, ending, skipped⟩ := h.skipBlanks
  have nothing : AreBlanks [] := by simp [AreBlanks]
  have passed : restOfLine? (m ++ (e ++ t)) = some t := by
    simpa using restOfLine?_rest (.mk nothing comment ending)
  unfold line?
  rw [skipped]
  cases comment with
  | some plain =>
      rw [List.cons_append] at passed ⊢
      simp [passed]
  | none =>
      rw [List.nil_append] at passed ⊢
      cases ending with
      | feed =>
          rw [List.singleton_append] at passed ⊢
          simp [lineEnd?, passed]
      | returnFeed =>
          rw [List.cons_append, List.singleton_append] at passed ⊢
          simp [lineEnd?, passed]
      | ofText => rfl

/-! ## Documents -/

/-- What statements make of the members of a document, `current` being the table that is open. -/
def applyAll : List Statement → List String → Entries → Option Entries
  | [], _, root => some root
  | st :: sts, current, root => do
    let (current, root) ← st.line.apply current root
    applyAll sts current root

theorem Document.lines?_eq {sts : List Statement} (h : Document sts s) {fuel : Nat}
    (enough : s.length < fuel) (current : List String) (root : Entries) :
    lines? fuel current root s = applyAll sts current root := by
  induction h generalizing fuel current root with
  | nil =>
      obtain ⟨fuel, rfl⟩ := Nat.exists_eq_add_one_of_ne_zero (Nat.ne_zero_of_lt enough)
      rfl
  | @rest sts r t full h _ ih =>
      obtain ⟨fuel, rfl⟩ := Nat.exists_eq_add_one_of_ne_zero (Nat.ne_zero_of_lt enough)
      have shorter : t.length < fuel := by
        have := List.length_pos_of_ne_nil full
        rw [List.length_append] at enough
        omega
      have filled : (r ++ t).isEmpty = false := by simp [full]
      rw [lines?, filled, line?_rest h]
      exact ih shorter current root
  | @statement st sts b s r t blanks statement h _ ih =>
      obtain ⟨fuel, rfl⟩ := Nat.exists_eq_add_one_of_ne_zero (Nat.ne_zero_of_lt enough)
      have full : s ≠ [] := by
        obtain ⟨c, u, rfl, -⟩ := statement.head
        simp
      have shorter : t.length < fuel := by
        have := List.length_pos_of_ne_nil full
        simp only [List.length_append] at enough
        omega
      have filled : (b ++ (s ++ (r ++ t))).isEmpty = false := by simp [full]
      rw [lines?, filled, line?_statement blanks statement h, applyAll]
      cases applied : st.line.apply current root with
      | none => simp [applied]
      | some next => simpa [applied] using ih shorter next.1 next.2

end SheetSuite.Toml
