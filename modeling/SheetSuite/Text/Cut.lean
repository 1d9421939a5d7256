namespace SheetSuite.Text

abbrev Matcher := List Char → Option Nat

/-- A text cut at its matches: what stands before the first one, then each match with the chunk that
follows it. -/
structure Pieces where
  lead : List Char
  parts : List (List Char × List Char)
  deriving Repr, DecidableEq

namespace Pieces

def join (p : Pieces) : List Char :=
  p.lead ++ (p.parts.map fun part => part.1 ++ part.2).flatten

def chunks (p : Pieces) : List (List Char) :=
  p.parts.map Prod.snd

def push (c : Char) (p : Pieces) : Pieces :=
  { p with lead := c :: p.lead }

def mark (found : List Char) (p : Pieces) : Pieces :=
  ⟨[], (found, p.lead) :: p.parts⟩

@[simp] theorem join_push (c : Char) (p : Pieces) : (p.push c).join = c :: p.join := rfl

@[simp] theorem join_mark (found : List Char) (p : Pieces) :
    (p.mark found).join = found ++ p.join := by
  simp [join, mark]

end Pieces

/-- Cuts a text at its matches, after skipping `skip` characters, which are those of a match already
found. -/
def cutFrom (length? : Matcher) : Nat → List Char → Pieces
  | _, [] => ⟨[], []⟩
  | skip + 1, _ :: s => cutFrom length? skip s
  | 0, c :: s =>
    match length? (c :: s) with
    | some n => (cutFrom length? (n - 1) s).mark ((c :: s).take n)
    | none => (cutFrom length? 0 s).push c

def cut (length? : Matcher) (s : List Char) : Pieces :=
  cutFrom length? 0 s

theorem cutFrom_eq_cut_drop (length? : Matcher) (k : Nat) (s : List Char) :
    cutFrom length? k s = cut length? (s.drop k) := by
  induction k generalizing s with
  | zero => rfl
  | succ k ih => cases s with
    | nil => simp [cut, cutFrom]
    | cons c s => simpa [cutFrom] using ih s

theorem join_cut {length? : Matcher} (pos : ∀ s n, length? s = some n → 0 < n) (s : List Char) :
    (cut length? s).join = s := by
  suffices h : ∀ (k : Nat) (s : List Char), (cutFrom length? k s).join = s.drop k from h 0 s
  intro k s
  induction s generalizing k with
  | nil => simp [cutFrom, Pieces.join]
  | cons c s ih =>
    cases k with
    | succ k => simpa [cutFrom] using ih k
    | zero =>
      unfold cutFrom
      split
      next n hn =>
        obtain ⟨m, rfl⟩ : ∃ m, n = m + 1 := ⟨n - 1, by have := pos _ _ hn; omega⟩
        simp [ih]
      next => simp [ih]

def split (isSeparator : Char → Bool) : List Char → List (List Char)
  | [] => [[]]
  | c :: rest =>
    if isSeparator c then [] :: split isSeparator rest
    else match split isSeparator rest with
      | part :: parts => (c :: part) :: parts
      | [] => [[c]]

/-- The characters with the Unicode property `White_Space`. -/
def isBlank (c : Char) : Bool :=
  let n := c.toNat
  (0x09 ≤ n && n ≤ 0x0D) || n == 0x20 || n == 0x85 || n == 0xA0 || n == 0x1680 ||
    (0x2000 ≤ n && n ≤ 0x200A) || n == 0x2028 || n == 0x2029 || n == 0x202F || n == 0x205F ||
    n == 0x3000

def trimStart (s : List Char) : List Char :=
  s.dropWhile isBlank

theorem trimStart_trimStart (s : List Char) : trimStart (trimStart s) = trimStart s := by
  induction s with
  | nil => rfl
  | cons c s ih => by_cases h : isBlank c <;> simp_all [trimStart]

end SheetSuite.Text
