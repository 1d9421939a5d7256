import SheetSuite.Json.Scan

/-!
# The grammar of JSON texts

What a JSON text says is a `Value`; which texts say it is a matter of grammar (`Spells`, `IsText`). Blanks
may stand around every token, a string may be spelled with or without escapes, and the members of an object
have any order and may repeat a key.

An escape of four digits can be one half of a surrogate pair. A string in which a half has no partner is
well-formed, but there is no text that it denotes, so the text of a string is optional.
-/

namespace SheetSuite.Json

/-- What a JSON text says. No part of a feed or a suite is a number, so numbers are not told apart. -/
inductive Value where
  | null
  | boolean (b : Bool)
  | number
  | string (text : Option String)
  | array (items : List Value)
  | object (members : List (Option String × Value))

def IsBlank (s : List Char) : Prop :=
  ∀ c ∈ s, isSpace c = true

/-! ## Strings -/

/-- A unit of a string: a character, as itself or escaped by one letter, or an escape of four digits. -/
inductive Piece where
  | char (c : Char)
  | code (n : Nat)
  deriving Repr, DecidableEq

inductive IsPiece : Piece → List Char → Prop
  | plain {c : Char} : c ≠ '"' → c ≠ '\\' → 0x20 ≤ c.toNat → IsPiece (.char c) [c]
  | short {e c : Char} : shortEscape? e = some c → IsPiece (.char c) ['\\', e]
  | code {a b c d : Char} {n : Nat} :
      hexFour? [a, b, c, d] = some n → IsPiece (.code n) ['\\', 'u', a, b, c, d]

inductive ArePieces : List Piece → List Char → Prop
  | nil : ArePieces [] []
  | cons {p : Piece} {ps : List Piece} {s t : List Char} :
      IsPiece p s → ArePieces ps t → ArePieces (p :: ps) (s ++ t)

/-- The characters that units denote. A leading surrogate has to be followed by a trailing one. -/
def denoted : List Piece → Option (List Char)
  | [] => some []
  | .char c :: ps => (denoted ps).map (c :: ·)
  | .code n :: ps =>
    if isTrailing n then none
    else if !isLeading n then (denoted ps).map (Char.ofNat n :: ·)
    else match ps with
      | .code m :: ps => if isTrailing m then (denoted ps).map (pairChar n m :: ·) else none
      | _ => none

section
variable {n : Nat} {ps : List Piece}

theorem denoted_trailing (trailing : isTrailing n = true) : denoted (.code n :: ps) = none := by
  rw [denoted.eq_def]
  simp [trailing]

theorem denoted_plain (trailing : isTrailing n = false) (leading : isLeading n = false) :
    denoted (.code n :: ps) = (denoted ps).map (Char.ofNat n :: ·) := by
  rw [denoted.eq_def]
  simp [trailing, leading]

theorem denoted_pair (trailing : isTrailing n = false) (leading : isLeading n = true) {m : Nat} :
    denoted (.code n :: .code m :: ps) =
      if isTrailing m then (denoted ps).map (pairChar n m :: ·) else none := by
  rw [denoted.eq_def]
  simp [trailing, leading]

theorem denoted_lone (trailing : isTrailing n = false) (leading : isLeading n = true)
    (alone : ∀ m ps', ps = .code m :: ps' → False) : denoted (.code n :: ps) = none := by
  rw [denoted.eq_def]
  simp [trailing, leading]

end

def IsString (text : Option String) (s : List Char) : Prop :=
  ∃ ps inner, ArePieces ps inner ∧ text = (denoted ps).map String.ofList ∧ s = '"' :: (inner ++ ['"'])

/-! ## Numbers -/

def AreDigits (s : List Char) : Prop :=
  s ≠ [] ∧ ∀ c ∈ s, c.isDigit = true

/-- A whole number without a sign; a zero stands only for itself. -/
def IsWhole (s : List Char) : Prop :=
  AreDigits s ∧ (s.head? = some '0' → s = ['0'])

def IsFraction (s : List Char) : Prop :=
  s = [] ∨ ∃ ds, AreDigits ds ∧ s = '.' :: ds

def IsExponent (s : List Char) : Prop :=
  s = [] ∨ ∃ mark sign ds, (mark = 'e' ∨ mark = 'E') ∧ (sign = [] ∨ sign = ['+'] ∨ sign = ['-']) ∧
    AreDigits ds ∧ s = mark :: (sign ++ ds)

def IsNumber (s : List Char) : Prop :=
  ∃ sign whole fraction exponent, (sign = [] ∨ sign = ['-']) ∧ IsWhole whole ∧ IsFraction fraction ∧
    IsExponent exponent ∧ s = sign ++ (whole ++ (fraction ++ exponent))

/-! ## Values -/

mutual

/-- The spellings of a value, without blanks around it. -/
inductive Spells : Value → List Char → Prop
  | null : Spells .null ['n', 'u', 'l', 'l']
  | yes : Spells (.boolean true) ['t', 'r', 'u', 'e']
  | no : Spells (.boolean false) ['f', 'a', 'l', 's', 'e']
  | number {s : List Char} : IsNumber s → Spells .number s
  | string {text : Option String} {s : List Char} : IsString text s → Spells (.string text) s
  | noItems {b : List Char} : IsBlank b → Spells (.array []) ('[' :: (b ++ [']']))
  | array {items : List Value} {s : List Char} :
      SpellsItems items s → Spells (.array items) ('[' :: (s ++ [']']))
  | noMembers {b : List Char} : IsBlank b → Spells (.object []) ('{' :: (b ++ ['}']))
  | object {members : List (Option String × Value)} {s : List Char} :
      SpellsMembers members s → Spells (.object members) ('{' :: (s ++ ['}']))

inductive SpellsItem : Value → List Char → Prop
  | mk {v : Value} {b s b' : List Char} :
      IsBlank b → Spells v s → IsBlank b' → SpellsItem v (b ++ (s ++ b'))

inductive SpellsItems : List Value → List Char → Prop
  | one {v : Value} {m : List Char} : SpellsItem v m → SpellsItems [v] m
  | more {v : Value} {vs : List Value} {m t : List Char} :
      SpellsItem v m → SpellsItems vs t → SpellsItems (v :: vs) (m ++ ',' :: t)

inductive SpellsMember : Option String × Value → List Char → Prop
  | mk {key : Option String} {v : Value} {b k b₁ m : List Char} :
      IsBlank b → IsString key k → IsBlank b₁ → SpellsItem v m →
        SpellsMember (key, v) (b ++ (k ++ (b₁ ++ ':' :: m)))

inductive SpellsMembers : List (Option String × Value) → List Char → Prop
  | one {member : Option String × Value} {m : List Char} :
      SpellsMember member m → SpellsMembers [member] m
  | more {member : Option String × Value} {members : List (Option String × Value)} {m t : List Char} :
      SpellsMember member m → SpellsMembers members t →
        SpellsMembers (member :: members) (m ++ ',' :: t)

end

def IsText (v : Value) (text : String) : Prop :=
  SpellsItem v text.toList

end SheetSuite.Json
