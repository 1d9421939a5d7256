import SheetSuite.Proofs.Except
import SheetSuite.Proofs.Json.Grammar
import Mathlib.Data.List.DropRight

namespace SheetSuite.Json

variable {s t b rest : List Char}

theorem skipSpace_append (blank : IsBlank b) (s : List Char) : skipSpace (b ++ s) = skipSpace s := by
  induction b with
  | nil => rfl
  | cons c b ih =>
      have first : isSpace c = true := blank c List.mem_cons_self
      have later := ih fun d hd => blank d (List.mem_cons_of_mem c hd)
      simpa [skipSpace, first] using later

theorem skipSpace_cons {c : Char} (token : isSpace c = false) (s : List Char) :
    skipSpace (c :: s) = c :: s := by
  simp [skipSpace, token]

theorem skipSpace_token {c : Char} (blank : IsBlank b) (token : isSpace c = false) (s : List Char) :
    skipSpace (b ++ c :: s) = c :: s := by
  rw [skipSpace_append blank, skipSpace_cons token]

theorem skipSpace_blank (blank : IsBlank b) : skipSpace b = [] := by
  simpa [skipSpace] using skipSpace_append blank []

theorem skipSpace_skipSpace (s : List Char) : skipSpace (skipSpace s) = skipSpace s :=
  List.dropWhile_idempotent isSpace s

theorem stringFrom_eq_drop (unit : Char → List Char → Except Fault (Char × Nat)) (k : Nat)
    (s : List Char) : stringFrom unit k s = stringFrom unit 0 (s.drop k) := by
  induction k generalizing s with
  | zero => rfl
  | succ k ih =>
      cases s with
      | nil => rfl
      | cons c s => simpa [stringFrom] using ih s

theorem stringFrom_cons {unit : Char → List Char → Except Fault (Char × Nat)} {c : Char}
    (inside : c ≠ '"') (s : List Char) : stringFrom unit 0 (c :: s) = (do
      let (d, k) ← unit c s
      let (ds, rest) ← stringFrom unit 0 (s.drop k)
      .ok (d :: ds, rest)) := by
  rw [stringFrom, if_neg inside]
  cases unit c s with
  | error e => rfl
  | ok found =>
      obtain ⟨d, k⟩ := found
      simp only [ok_bind]
      rw [stringFrom_eq_drop]

theorem hexFour_cons {a b c d : Char} {n : Nat} (h : hexFour? [a, b, c, d] = some n) (s : List Char) :
    hexFour (a :: b :: c :: d :: s) = .ok n := by
  have found : hexFour? (a :: b :: c :: d :: s) = some n := h
  rw [hexFour, found]

theorem shortEscape?_ne {e c : Char} (h : shortEscape? e = some c) : e ≠ 'u' := by
  rintro rfl
  cases h

theorem escapeUnit_short {e c : Char} (h : shortEscape? e = some c) (s : List Char) :
    escapeUnit (e :: s) = .ok (c, 1) := by
  unfold escapeUnit
  split
  · rename_i empty
    cases empty
  · rename_i equal
    cases equal
    exact absurd rfl (shortEscape?_ne h)
  · rename_i equal
    cases equal
    rw [h]

theorem looseUnit_piece {p : Piece} (h : IsPiece p s) :
    ∃ c t, s = c :: t ∧ c ≠ '"' ∧ ∀ rest, ∃ d, looseUnit c (t ++ rest) = .ok (d, t.length) := by
  cases h with
  | @plain c quote slash printed =>
      refine ⟨c, [], rfl, quote, fun rest => ⟨c, ?_⟩⟩
      have above : ¬c.toNat < 0x20 := by omega
      simp [looseUnit, slash, above]
  | @short e c known =>
      refine ⟨'\\', [e], rfl, by decide, fun rest => ⟨c, ?_⟩⟩
      have other : e ≠ 'u' := shortEscape?_ne known
      simp [looseUnit, other, escapeUnit_short known]
  | @code x y z w n known =>
      refine ⟨'\\', ['u', x, y, z, w], rfl, by decide, fun rest => ⟨'\\', ?_⟩⟩
      simp [looseUnit, hexFour_cons known]

theorem skipString_pieces {ps : List Piece} (h : ArePieces ps s) (rest : List Char) :
    skipString (s ++ '"' :: rest) = .ok rest := by
  suffices passed : ∃ cs, stringFrom looseUnit 0 (s ++ '"' :: rest) = .ok (cs, rest) by
    obtain ⟨cs, passed⟩ := passed
    rw [skipString, passed]
    rfl
  induction h with
  | nil => exact ⟨[], by simp [stringFrom]⟩
  | @cons p ps s t piece _ ih =>
      obtain ⟨cs, later⟩ := ih
      obtain ⟨c, u, rfl, inside, loose⟩ := looseUnit_piece piece
      obtain ⟨d, loose⟩ := loose (t ++ '"' :: rest)
      refine ⟨d :: cs, ?_⟩
      rw [List.append_assoc, List.cons_append, stringFrom_cons inside, loose, ok_bind]
      dsimp only
      rw [List.drop_left, later, ok_bind]

theorem unit_char {c : Char} (h : IsPiece (.char c) s) :
    ∃ d t, s = d :: t ∧ d ≠ '"' ∧ ∀ rest, unit d (t ++ rest) = .ok (c, t.length) := by
  cases h with
  | plain quote slash printed =>
      refine ⟨c, [], rfl, quote, fun rest => ?_⟩
      have above : ¬c.toNat < 0x20 := by omega
      simp [unit, slash, above]
  | @short e _ known =>
      refine ⟨'\\', [e], rfl, by decide, fun rest => ?_⟩
      rw [unit, if_pos rfl]
      exact escapeUnit_short known rest

section
variable {x y z w : Char} {n : Nat} (known : hexFour? [x, y, z, w] = some n)
include known

theorem unicodeUnit_trailing (trailing : isTrailing n = true) (s : List Char) :
    (unicodeUnit (x :: y :: z :: w :: s)).toOption = none := by
  simp [unicodeUnit, hexFour_cons known, trailing]

theorem unicodeUnit_plain (trailing : isTrailing n = false) (leading : isLeading n = false)
    (s : List Char) : unicodeUnit (x :: y :: z :: w :: s) = .ok (Char.ofNat n, 5) := by
  simp [unicodeUnit, hexFour_cons known, trailing, leading]

theorem unicodeUnit_pair (trailing : isTrailing n = false) (leading : isLeading n = true)
    {x' y' z' w' : Char} {m : Nat} (known' : hexFour? [x', y', z', w'] = some m) (s : List Char) :
    (unicodeUnit (x :: y :: z :: w :: '\\' :: 'u' :: x' :: y' :: z' :: w' :: s)).toOption =
      if isTrailing m then some (pairChar n m, 11) else none := by
  simp only [unicodeUnit, hexFour_cons known, hexFour_cons known', ok_bind, trailing, leading,
    List.drop_succ_cons, List.drop_zero]
  cases isTrailing m <;> rfl

theorem unicodeUnit_lone (trailing : isTrailing n = false) (leading : isLeading n = true)
    (alone : ∀ t, s ≠ '\\' :: 'u' :: t) : (unicodeUnit (x :: y :: z :: w :: s)).toOption = none := by
  simp only [unicodeUnit, hexFour_cons known, ok_bind, trailing, leading, List.drop_succ_cons,
    List.drop_zero, Bool.false_eq_true, Bool.not_true, if_false]
  split
  · rfl
  · rfl
  · exact absurd rfl (alone _)
  · rfl
  · rfl

end

theorem IsPiece.of_code {n : Nat} (h : IsPiece (.code n) s) :
    ∃ x y z w, s = ['\\', 'u', x, y, z, w] ∧ hexFour? [x, y, z, w] = some n := by
  cases h with
  | @code x y z w _ known => exact ⟨x, y, z, w, rfl, known⟩

theorem stringFrom_code (x y z w : Char) (s : List Char) :
    stringFrom unit 0 (['\\', 'u', x, y, z, w] ++ s) = (do
      let (d, k) ← unicodeUnit (x :: y :: z :: w :: s)
      let (ds, rest) ← stringFrom unit 0 (('u' :: x :: y :: z :: w :: s).drop k)
      .ok (d :: ds, rest)) := by
  rw [List.cons_append, stringFrom_cons (by decide), unit, if_pos rfl]
  rfl

theorem toOption_push (c : Char) (x : Except Fault (List Char × List Char)) :
    (do let (ds, rest) ← x; .ok (c :: ds, rest)).toOption =
      x.toOption.map fun (ds, rest) => (c :: ds, rest) := by
  cases x <;> rfl

section
variable {n m : Nat} (rest : List Char)

theorem stringFrom_char {c : Char} (h : IsPiece (.char c) s) :
    (stringFrom unit 0 (s ++ rest)).toOption =
      (stringFrom unit 0 rest).toOption.map fun (ds, rest) => (c :: ds, rest) := by
  obtain ⟨d, u, rfl, inside, read⟩ := unit_char h
  rw [List.cons_append, stringFrom_cons inside, read, ok_bind]
  dsimp only
  rw [List.drop_left, toOption_push]

theorem stringFrom_trailing (h : IsPiece (.code n) s) (trailing : isTrailing n = true) :
    (stringFrom unit 0 (s ++ rest)).toOption = none := by
  obtain ⟨x, y, z, w, rfl, known⟩ := h.of_code
  rw [stringFrom_code, toOption_bind, unicodeUnit_trailing known trailing]
  rfl

theorem stringFrom_plain (h : IsPiece (.code n) s) (trailing : isTrailing n = false)
    (leading : isLeading n = false) : (stringFrom unit 0 (s ++ rest)).toOption =
      (stringFrom unit 0 rest).toOption.map fun (ds, rest) => (Char.ofNat n :: ds, rest) := by
  obtain ⟨x, y, z, w, rfl, known⟩ := h.of_code
  rw [stringFrom_code, unicodeUnit_plain known trailing leading, ok_bind]
  simp only [List.drop_succ_cons, List.drop_zero]
  rw [toOption_push]

theorem stringFrom_pair (h : IsPiece (.code n) s) (h' : IsPiece (.code m) t)
    (trailing : isTrailing n = false) (leading : isLeading n = true) :
    (stringFrom unit 0 (s ++ (t ++ rest))).toOption = if isTrailing m then
      (stringFrom unit 0 rest).toOption.map fun (ds, rest) => (pairChar n m :: ds, rest) else none := by
  obtain ⟨x, y, z, w, rfl, known⟩ := h.of_code
  obtain ⟨x', y', z', w', rfl, known'⟩ := h'.of_code
  have read := unicodeUnit_pair known trailing leading known' rest
  rw [stringFrom_code]
  dsimp only [List.cons_append, List.nil_append]
  split
  · rename_i trailing'
    rw [if_pos trailing', toOption_eq_some] at read
    rw [read, ok_bind]
    simp only [List.drop_succ_cons, List.drop_zero]
    rw [toOption_push]
  · rename_i trailing'
    rw [if_neg trailing'] at read
    rw [toOption_bind, read]
    rfl

theorem stringFrom_lone (h : IsPiece (.code n) s) (trailing : isTrailing n = false)
    (leading : isLeading n = true) (alone : ∀ u, rest ≠ '\\' :: 'u' :: u) :
    (stringFrom unit 0 (s ++ rest)).toOption = none := by
  obtain ⟨x, y, z, w, rfl, known⟩ := h.of_code
  rw [stringFrom_code, toOption_bind, unicodeUnit_lone known trailing leading alone]
  rfl

end

theorem ArePieces.head_ne_code {ps : List Piece} (h : ArePieces ps s)
    (other : ∀ m ps', ps = .code m :: ps' → False) (rest u : List Char) :
    s ++ '"' :: rest ≠ '\\' :: 'u' :: u := by
  intro equal
  obtain _ | ⟨piece, -⟩ := h
  · cases equal
  · cases piece with
    | plain quote slash => exact slash (List.cons.inj equal).1
    | short known =>
        cases equal
        exact shortEscape?_ne known rfl
    | code => exact other _ _ rfl

/-- A string is read as the text that it denotes, and refused if it denotes none. -/
theorem stringFrom_pieces {ps : List Piece} (h : ArePieces ps s) (rest : List Char) :
    (stringFrom unit 0 (s ++ '"' :: rest)).toOption = (denoted ps).map (·, rest) := by
  induction ps using denoted.induct generalizing s with
  | case1 =>
      cases h
      simp [stringFrom, denoted]
  | case2 c ps ih =>
      obtain _ | ⟨piece, pieces⟩ := h
      rw [List.append_assoc, stringFrom_char _ piece, ih pieces, denoted]
      cases denoted ps <;> rfl
  | case3 n ps trailing =>
      obtain _ | ⟨piece, pieces⟩ := h
      rw [List.append_assoc, stringFrom_trailing _ piece trailing, denoted_trailing trailing]
      rfl
  | case4 n ps trailing leading ih =>
      obtain _ | ⟨piece, pieces⟩ := h
      have trailing : isTrailing n = false := by simpa using trailing
      have leading : isLeading n = false := by simpa using leading
      rw [List.append_assoc, stringFrom_plain _ piece trailing leading, ih pieces,
        denoted_plain trailing leading]
      cases denoted ps <;> rfl
  | case5 n trailing leading m ps trailing' ih =>
      obtain _ | ⟨piece, _ | ⟨piece', pieces⟩⟩ := h
      have trailing : isTrailing n = false := by simpa using trailing
      have leading : isLeading n = true := by simpa using leading
      rw [List.append_assoc, List.append_assoc, stringFrom_pair _ piece piece' trailing leading,
        denoted_pair trailing leading, if_pos trailing', if_pos trailing', ih pieces]
      cases denoted ps <;> rfl
  | case6 n trailing leading m ps trailing' =>
      obtain _ | ⟨piece, _ | ⟨piece', pieces⟩⟩ := h
      have trailing : isTrailing n = false := by simpa using trailing
      have leading : isLeading n = true := by simpa using leading
      rw [List.append_assoc, List.append_assoc, stringFrom_pair _ piece piece' trailing leading,
        denoted_pair trailing leading, if_neg trailing', if_neg trailing']
      rfl
  | case7 n ps trailing leading other =>
      obtain _ | ⟨piece, pieces⟩ := h
      have trailing : isTrailing n = false := by simpa using trailing
      have leading : isLeading n = true := by simpa using leading
      rw [List.append_assoc, stringFrom_lone _ piece trailing leading (pieces.head_ne_code other rest),
        denoted_lone trailing leading other]
      rfl

theorem string_pieces {ps : List Piece} (h : ArePieces ps s) (rest : List Char) :
    (string (s ++ '"' :: rest)).toOption = ((denoted ps).map String.ofList).map (·, rest) := by
  rw [string, toOption_bind, stringFrom_pieces h]
  cases denoted ps <;> rfl

end SheetSuite.Json
