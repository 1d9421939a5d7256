import SheetSuite.Json.Fault

namespace SheetSuite.Json

abbrev Reader (α : Type) := List Char → Except Fault (α × List Char)

def isSpace (c : Char) : Bool :=
  c == ' ' || c == '\n' || c == '\t' || c == '\r'

def skipSpace (s : List Char) : List Char :=
  s.dropWhile isSpace

def word : List Char → List Char → Except Fault (List Char)
  | [], s => .ok s
  | _ :: _, [] => .error (.here .endInValue [])
  | e :: es, c :: s => if c = e then word es s else .error ⟨.expectedIdent, byteLength (c :: s) - 1⟩

def colon (s : List Char) : Except Fault (List Char) :=
  match skipSpace s with
  | ':' :: rest => .ok rest
  | [] => .error (.here .endInObject [])
  | rest => .error (.ahead .expectedColon rest)

def hexDigit? (c : Char) : Option Nat :=
  if '0' ≤ c ∧ c ≤ '9' then some (c.toNat - 48)
  else if 'a' ≤ c ∧ c ≤ 'f' then some (c.toNat - 87)
  else if 'A' ≤ c ∧ c ≤ 'F' then some (c.toNat - 55)
  else none

def hexFour? : List Char → Option Nat
  | a :: b :: c :: d :: _ => do
    return ((← hexDigit? a) * 16 + (← hexDigit? b)) * 256 + (← hexDigit? c) * 16 + (← hexDigit? d)
  | _ => none

/-- The value of a four-digit escape. Four bytes are taken at once, whatever they are. -/
def hexFour (s : List Char) : Except Fault Nat :=
  match hexFour? s with
  | some n => .ok n
  | none =>
    if byteLength s < 4 then .error ⟨.endInString, 0⟩ else .error ⟨.invalidEscape, byteLength s - 4⟩

def shortEscape? (c : Char) : Option Char :=
  match c with
  | '"' => some '"'
  | '\\' => some '\\'
  | '/' => some '/'
  | 'b' => some '\x08'
  | 'f' => some '\x0c'
  | 'n' => some '\n'
  | 'r' => some '\r'
  | 't' => some '\t'
  | _ => none

def isLeading (n : Nat) : Bool := 0xD800 ≤ n && n ≤ 0xDBFF

def isTrailing (n : Nat) : Bool := 0xDC00 ≤ n && n ≤ 0xDFFF

def pairChar (lead trail : Nat) : Char :=
  Char.ofNat (0x10000 + (lead - 0xD800) * 0x400 + (trail - 0xDC00))

def unicodeUnit (s : List Char) : Except Fault (Char × Nat) := do
  let n ← hexFour s
  let rest := s.drop 4
  if isTrailing n then .error (.here .loneSurrogate rest)
  else if !isLeading n then .ok (Char.ofNat n, 5)
  else match rest with
    | [] => .error ⟨.endInString, 0⟩
    | ['\\'] => .error ⟨.endInString, 0⟩
    | '\\' :: 'u' :: tail =>
      let m ← hexFour tail
      if isTrailing m then .ok (pairChar n m, 11)
      else .error (.here .loneSurrogate (tail.drop 4))
    | '\\' :: tail => .error ⟨.halfSurrogatePair, byteLength tail - 1⟩
    | _ => .error ⟨.halfSurrogatePair, byteLength rest - 1⟩

def escapeUnit (s : List Char) : Except Fault (Char × Nat) :=
  match s with
  | [] => .error ⟨.endInString, 0⟩
  | 'u' :: rest => unicodeUnit rest
  | c :: _ => match shortEscape? c with
    | some d => .ok (d, 1)
    | none => .error ⟨.invalidEscape, byteLength s - 1⟩

/-- Reads one unit of a string, of which `c` is the first character: the character that it denotes,
and the number of characters that it takes after `c`. -/
def unit (c : Char) (s : List Char) : Except Fault (Char × Nat) :=
  if c = '\\' then escapeUnit s
  else if c.toNat < 0x20 then .error (.here .controlCharacter s)
  else .ok (c, 0)

def looseUnit (c : Char) (s : List Char) : Except Fault (Char × Nat) :=
  if c = '\\' then
    match s with
    | 'u' :: rest => do
      let _ ← hexFour rest
      .ok (c, 5)
    | _ => escapeUnit s
  else if c.toNat < 0x20 then .error (.here .controlCharacter (c :: s))
  else .ok (c, 0)

/-- Reads a string up to its closing quote, after skipping `skip` characters, which are those of a
unit already read. -/
def stringFrom (unit : Char → List Char → Except Fault (Char × Nat)) :
    Nat → Reader (List Char)
  | _, [] => .error ⟨.endInString, 0⟩
  | skip + 1, _ :: s => stringFrom unit skip s
  | 0, c :: s =>
    if c = '"' then .ok ([], s)
    else do
      let (d, skip) ← unit c s
      let (ds, rest) ← stringFrom unit skip s
      .ok (d :: ds, rest)

def string : Reader String := fun s => do
  let (cs, rest) ← stringFrom unit 0 s
  .ok (String.ofList cs, rest)

def skipString (s : List Char) : Except Fault (List Char) := do
  let (_, rest) ← stringFrom looseUnit 0 s
  .ok rest

end SheetSuite.Json
