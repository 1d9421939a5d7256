import Mathlib.Tactic.Common
import SheetSuite.Text.Utf8

namespace SheetSuite.Text

theorem announced_two {b : Nat} (h : 0xC2 ≤ b ∧ b ≤ 0xDF) : announced b = some (1, 0x80, 0xBF) := by
  simp [announced, h]

/-- The second byte of three is bounded further where a shorter form or a surrogate would fit. -/
theorem announced_three {b x : Nat} (h : 0xE0 ≤ b ∧ b ≤ 0xEF) (inside : 0x80 ≤ x ∧ x ≤ 0xBF)
    (long : b = 0xE0 → 0xA0 ≤ x) (scalar : b = 0xED → x ≤ 0x9F) :
    ∃ low high, announced b = some (2, low, high) ∧ low ≤ x ∧ x ≤ high := by
  rcases (by omega : b = 0xE0 ∨ b = 0xED ∨ b ≠ 0xE0 ∧ b ≠ 0xED) with rfl | rfl | other
  · exact ⟨_, _, rfl, long rfl, inside.2⟩
  · exact ⟨_, _, rfl, inside.1, scalar rfl⟩
  · refine ⟨0x80, 0xBF, ?_, inside⟩
    simp [announced, other, show 0xE1 ≤ b by omega, h.2, show ¬b ≤ 0xDF by omega]

/-- The second byte of four is bounded further where a shorter form or no character would fit. -/
theorem announced_four {b x : Nat} (h : 0xF0 ≤ b ∧ b ≤ 0xF4) (inside : 0x80 ≤ x ∧ x ≤ 0xBF)
    (long : b = 0xF0 → 0x90 ≤ x) (small : b = 0xF4 → x ≤ 0x8F) :
    ∃ low high, announced b = some (3, low, high) ∧ low ≤ x ∧ x ≤ high := by
  rcases (by omega : b = 0xF0 ∨ b = 0xF1 ∨ b = 0xF2 ∨ b = 0xF3 ∨ b = 0xF4) with
    rfl | rfl | rfl | rfl | rfl
  · exact ⟨_, _, rfl, long rfl, inside.2⟩
  · exact ⟨_, _, rfl, inside⟩
  · exact ⟨_, _, rfl, inside⟩
  · exact ⟨_, _, rfl, inside⟩
  · exact ⟨_, _, rfl, inside.1, small rfl⟩

theorem following_cons {n low high : Nat} {x : UInt8} (h : low ≤ x.toNat ∧ x.toNat ≤ high)
    (rest : List UInt8) : following (n + 1) low high (x :: rest) = x :: following n 0x80 0xBF rest := by
  simp [following, h]

theorem following_append {low high : Nat} {x : UInt8} {xs : List UInt8}
    (first : low ≤ x.toNat ∧ x.toNat ≤ high) (others : ∀ y ∈ xs, 0x80 ≤ y.toNat ∧ y.toNat ≤ 0xBF)
    (rest : List UInt8) : following (xs.length + 1) low high (x :: (xs ++ rest)) = x :: xs := by
  rw [following_cons first]
  congr
  induction xs with
  | nil => simp [following]
  | cons y xs ih =>
      rw [List.length_cons, List.cons_append, following_cons (others y (by simp)),
        ih fun z h => others z (by simp [h])]

def codeOf (b : UInt8) (bs : List UInt8) : Nat :=
  bs.foldl (fun n x => n * 64 + x.toNat % 64) (b.toNat % Nat.pow 2 (6 - bs.length))

theorem utf8Char_announced {b x : UInt8} {xs : List UInt8} {low high : Nat}
    (known : announced b.toNat = some (xs.length + 1, low, high))
    (first : low ≤ x.toNat ∧ x.toNat ≤ high) (others : ∀ y ∈ xs, 0x80 ≤ y.toNat ∧ y.toNat ≤ 0xBF)
    (rest : List UInt8) :
    utf8Char b (x :: (xs ++ rest)) = (some (Char.ofNat (codeOf b (x :: xs))), xs.length + 1) := by
  have many : ¬b.toNat < 0x80 := by
    intro small
    have none : announced b.toNat = none := by
      unfold announced
      grind
    rw [none] at known
    cases known
  rw [utf8Char, if_neg many, known]
  simp [following_append first others, codeOf]

section
variable {v : Nat} {b x y z : UInt8} (rest : List UInt8)

theorem utf8Char_one (first : b.toNat = v) (small : v ≤ 0x7F) :
    utf8Char b rest = (some (Char.ofNat v), 0) := by
  simp [utf8Char, first, show v < 0x80 by omega]

theorem utf8Char_two (first : b.toNat = v / 64 + 192) (second : x.toNat = v % 64 + 128)
    (large : 0x7F < v) (small : v ≤ 0x7FF) : utf8Char b (x :: rest) = (some (Char.ofNat v), 1) := by
  have code : codeOf b [x] = v := by
    simp only [codeOf, Nat.pow_eq, List.foldl_cons, List.foldl_nil, List.length_singleton,
      first, second]
    omega
  have known : announced b.toNat = some (1, 0x80, 0xBF) := announced_two (by omega)
  have bounds : 0x80 ≤ x.toNat ∧ x.toNat ≤ 0xBF := by omega
  have others : ∀ y ∈ ([] : List UInt8), 0x80 ≤ y.toNat ∧ y.toNat ≤ 0xBF := by simp
  have read := utf8Char_announced known bounds others rest
  rwa [code] at read

theorem utf8Char_three (first : b.toNat = v / 4096 + 224) (second : x.toNat = v / 64 % 64 + 128)
    (third : y.toNat = v % 64 + 128) (large : 0x7FF < v) (small : v ≤ 0xFFFF)
    (scalar : v < 0xD800 ∨ 0xDFFF < v) :
    utf8Char b (x :: y :: rest) = (some (Char.ofNat v), 2) := by
  have code : codeOf b [x, y] = v := by
    simp only [codeOf, Nat.pow_eq, List.foldl_cons, List.foldl_nil, List.length_cons,
      List.length_nil, first, second, third]
    omega
  obtain ⟨low, high, known, bounds⟩ : ∃ low high, announced b.toNat = some (2, low, high) ∧
      low ≤ x.toNat ∧ x.toNat ≤ high :=
    announced_three (by omega) (by omega) (by omega) (by omega)
  have others : ∀ y' ∈ [y], 0x80 ≤ y'.toNat ∧ y'.toNat ≤ 0xBF := by
    simp only [List.mem_singleton, forall_eq]
    omega
  have read := utf8Char_announced known bounds others rest
  rwa [code] at read

theorem utf8Char_four (first : b.toNat = v / 262144 + 240) (second : x.toNat = v / 4096 % 64 + 128)
    (third : y.toNat = v / 64 % 64 + 128) (fourth : z.toNat = v % 64 + 128) (large : 0xFFFF < v)
    (small : v < 0x110000) : utf8Char b (x :: y :: z :: rest) = (some (Char.ofNat v), 3) := by
  have code : codeOf b [x, y, z] = v := by
    simp only [codeOf, Nat.pow_eq, List.foldl_cons, List.foldl_nil, List.length_cons,
      List.length_nil, first, second, third, fourth]
    omega
  obtain ⟨low, high, known, bounds⟩ : ∃ low high, announced b.toNat = some (3, low, high) ∧
      low ≤ x.toNat ∧ x.toNat ≤ high :=
    announced_four (by omega) (by omega) (by omega) (by omega)
  have others : ∀ y' ∈ [y, z], 0x80 ≤ y'.toNat ∧ y'.toNat ≤ 0xBF := by
    simp only [List.mem_cons, List.not_mem_nil, or_false, forall_eq_or_imp, forall_eq]
    omega
  have read := utf8Char_announced known bounds others rest
  rwa [code] at read

end

theorem char_isScalar (c : Char) : c.toNat < 0xD800 ∨ 0xDFFF < c.toNat ∧ c.toNat < 0x110000 := by
  simpa [UInt32.isValidChar, Nat.isValidChar] using c.valid

theorem utf8Char_encode (c : Char) (rest : List UInt8) :
    ∃ b bs, String.utf8EncodeChar c = b :: bs ∧ utf8Char b (bs ++ rest) = (some c, bs.length) := by
  have scalar := char_isScalar c
  have whole : Char.ofNat c.toNat = c := Char.ofNat_toNat c
  have byte {n m : Nat} (equal : n = m) (h : n < 256) : (UInt8.ofNat n).toNat = m := by
    simpa [← equal] using h
  rw [String.utf8EncodeChar, show c.val.toNat = c.toNat from rfl]
  generalize c.toNat = v at scalar whole
  split_ifs with one two three
  · exact ⟨_, [], rfl, whole ▸ utf8Char_one _ (byte rfl (by omega)) one⟩
  · exact ⟨_, [_], rfl, whole ▸ utf8Char_two _ (byte (by omega) (by omega)) (byte rfl (by omega))
      (by omega) two⟩
  · exact ⟨_, [_, _], rfl, whole ▸ utf8Char_three _ (byte (by omega) (by omega)) (byte rfl (by omega))
      (byte rfl (by omega)) (by omega) three (by omega)⟩
  · exact ⟨_, [_, _, _], rfl, whole ▸ utf8Char_four _ (byte (by omega) (by omega))
      (byte rfl (by omega)) (byte rfl (by omega)) (byte rfl (by omega)) (by omega) (by omega)⟩

theorem strictFrom_append (bs rest : List UInt8) :
    strictFrom bs.length (bs ++ rest) = strictFrom 0 rest := by
  induction bs with
  | nil => rfl
  | cons b bs ih => exact ih

theorem strictFrom_utf8 (s : List Char) : strictFrom 0 (utf8 s) = some s := by
  induction s with
  | nil => rfl
  | cons c s ih =>
      obtain ⟨b, bs, encoded, read⟩ := utf8Char_encode c (utf8 s)
      rw [utf8, List.flatMap_cons, encoded, List.cons_append, ← utf8, strictFrom, read]
      simp [strictFrom_append, ih]

theorem strict?_utf8 (s : String) : strict? (utf8 s.toList) = some s := by
  simp [strict?, strictFrom_utf8]

end SheetSuite.Text
