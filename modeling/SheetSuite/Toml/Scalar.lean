import SheetSuite.Decimal.Shortest
import SheetSuite.Toml.Value

namespace SheetSuite.Toml

def digit? (c : Char) : Option Nat :=
  if c.isDigit then some (c.toNat - 48)
  else if 'a' ≤ c ∧ c ≤ 'f' then some (c.toNat - 87)
  else if 'A' ≤ c ∧ c ≤ 'F' then some (c.toNat - 55)
  else none

/-- The digits of a group in a base, without the underscores, each of which stands between two digits. -/
def group? (base : Nat) (s : List Char) : Option (List Nat) :=
  match s with
  | [] => none
  | [c] => do
    let d ← digit? c
    if d < base then some [d] else none
  | c :: '_' :: rest => do
    let d ← digit? c
    let ds ← group? base rest
    if d < base then some (d :: ds) else none
  | c :: rest => do
    let d ← digit? c
    let ds ← group? base rest
    if d < base then some (d :: ds) else none

def ofDigits (base : Nat) (ds : List Nat) : Nat :=
  ds.foldl (fun n d => n * base + d) 0

def decimalDigits? (s : List Char) : Option (List Nat) := do
  let ds ← group? 10 s
  match ds with
  | 0 :: _ :: _ => none
  | _ => some ds

def splitSign (s : List Char) : Bool × List Char :=
  match s with
  | '+' :: t => (false, t)
  | '-' :: t => (true, t)
  | _ => (false, s)

def integer? (s : List Char) : Option Int :=
  match s with
  | '0' :: 'x' :: t => (group? 16 t).map fun ds => (ofDigits 16 ds : Int)
  | '0' :: 'o' :: t => (group? 8 t).map fun ds => (ofDigits 8 ds : Int)
  | '0' :: 'b' :: t => (group? 2 t).map fun ds => (ofDigits 2 ds : Int)
  | _ =>
    let (negative, t) := splitSign s
    (decimalDigits? t).map fun ds =>
      if negative then -(ofDigits 10 ds : Int) else (ofDigits 10 ds : Int)

def showFloat (x : Float) : String :=
  match Decimal.ofBits x.toBits with
  | (negative, .finite d) => (if negative then "-" else "") ++ d.positional
  | (negative, .infinite) => if negative then "-inf" else "inf"
  | (_, .nan) => "NaN"

def floatText? (negative : Bool) (digits : Nat) (e : Int) : Option String :=
  let size : Int := (Nat.toDigits 10 digits).length + e
  let x :=
    if digits == 0 || size < -400 then 0.0
    else if 400 < size then 1.0 / 0.0
    else Float.ofScientific digits (e < 0) e.natAbs
  if x.isInf then none else some (showFloat (if negative then -x else x))

def fraction? (s : List Char) : Option (List Nat) :=
  match s with
  | [] => some []
  | '.' :: t => group? 10 t
  | _ => none

def exponent? (s : List Char) : Option Int :=
  match s with
  | [] => some 0
  | _ :: t =>
    let (negative, t) := splitSign t
    (group? 10 t).map fun ds => if negative then -(ofDigits 10 ds : Int) else (ofDigits 10 ds : Int)

def float? (s : List Char) : Option String :=
  let (negative, t) := splitSign s
  if t = ['i', 'n', 'f'] then some (if negative then "-inf" else "inf")
  else if t = ['n', 'a', 'n'] then some "NaN"
  else
    let isLetter (c : Char) : Bool := c == 'e' || c == 'E'
    let front := t.takeWhile (!isLetter ·)
    let whole := front.takeWhile (· != '.')
    do
      let ds ← decimalDigits? whole
      let fs ← fraction? (front.drop whole.length)
      let e ← exponent? (t.drop front.length)
      floatText? negative (ofDigits 10 (ds ++ fs)) (e - fs.length)

def fixed? (n : Nat) (s : List Char) : Option (Nat × List Char) :=
  let ds := s.take n
  if ds.length = n ∧ ds.all Char.isDigit then
    some (ofDigits 10 (ds.map fun c => c.toNat - 48), s.drop n)
  else none

def expect? (c : Char) (s : List Char) : Option (List Char) :=
  match s with
  | d :: t => if d = c then some t else none
  | [] => none

def daysIn (year month : Nat) : Nat :=
  if month = 2 then
    if year % 4 = 0 ∧ (year % 100 ≠ 0 ∨ year % 400 = 0) then 29 else 28
  else if month = 4 ∨ month = 6 ∨ month = 9 ∨ month = 11 then 30
  else 31

def date? (s : List Char) : Option (List Char) := do
  let (year, s) ← fixed? 4 s
  let s ← expect? '-' s
  let (month, s) ← fixed? 2 s
  let s ← expect? '-' s
  let (day, s) ← fixed? 2 s
  if 1 ≤ month ∧ month ≤ 12 ∧ 1 ≤ day ∧ day ≤ daysIn year month then some s else none

def secondFraction? (s : List Char) : Option (List Char) :=
  match s with
  | '.' :: t => if (t.takeWhile Char.isDigit).isEmpty then none else some (t.dropWhile Char.isDigit)
  | _ => some s

def seconds? (s : List Char) : Option (List Char) :=
  match s with
  | ':' :: t => do
    let (second, t) ← fixed? 2 t
    if second ≤ 60 then secondFraction? t else none
  | _ => some s

def time? (s : List Char) : Option (List Char) := do
  let (hour, s) ← fixed? 2 s
  let s ← expect? ':' s
  let (minute, s) ← fixed? 2 s
  if hour ≤ 23 ∧ minute ≤ 59 then seconds? s else none

def isOffset (s : List Char) : Bool :=
  match s with
  | [] => true
  | ['Z'] => true
  | ['z'] => true
  | c :: t =>
    (c == '+' || c == '-') && (do
      let (hour, t) ← fixed? 2 t
      let t ← expect? ':' t
      let (minute, t) ← fixed? 2 t
      if hour ≤ 23 ∧ minute ≤ 59 ∧ t.isEmpty then some () else none).isSome

def isDatetime (s : List Char) : Bool :=
  match date? s with
  | some [] => true
  | some (c :: t) =>
    (c == 'T' || c == 't' || c == ' ') && (match time? t with
      | some rest => isOffset rest
      | none => false)
  | none => time? s = some []

def isTokenChar (c : Char) : Bool :=
  c.isAlphanum || c == '+' || c == '-' || c == '_' || c == '.' || c == ':'

def scalar? (s : List Char) : Option Value :=
  if s = ['t', 'r', 'u', 'e'] then some (.boolean true)
  else if s = ['f', 'a', 'l', 's', 'e'] then some (.boolean false)
  else match integer? s with
    | some n => some (.integer n)
    | none => match float? s with
      | some shown => some (.float shown)
      | none => if isDatetime s then some .datetime else none

/-- The length of the token at the start of a text. A time may follow its date after a space. -/
def tokenLength (s : List Char) : Nat :=
  let token := s.takeWhile isTokenChar
  match s.drop token.length with
  | ' ' :: rest =>
    if date? token = some [] && rest.head?.any Char.isDigit then
      token.length + 1 + (rest.takeWhile isTokenChar).length
    else token.length
  | _ => token.length

end SheetSuite.Toml
