/-!
# Shortest decimals

The decimal with the fewest digits that reads back as a given binary number, and among those the
nearest one. A finite number is `m * 2 ^ q`; the reals that round to it form an interval around it,
and the decimals of one, two, ... digits are tried until one of the two neighbours of the number on
that grid lies in the interval. All arithmetic is exact.
-/

namespace SheetSuite

structure Decimal where
  digits : Nat
  exponent : Int
  deriving Repr, DecidableEq

namespace Decimal

structure Ratio where
  num : Nat
  den : Nat
  deriving Repr, DecidableEq

def Ratio.shift (r : Ratio) (e : Int) : Ratio :=
  match e with
  | .ofNat k => ⟨r.num, r.den * Nat.pow 10 k⟩
  | .negSucc k => ⟨r.num * Nat.pow 10 (k + 1), r.den⟩

/-- A positive number with the interval of the reals that round to it. -/
structure Target where
  value : Ratio
  low : Ratio
  high : Ratio
  closed : Bool

/-- The target of `m * 2 ^ q`. The gap below is half as wide if `m` is the least of its binade. -/
def Target.of (m : Nat) (q : Int) (narrow : Bool) : Target :=
  let scale (n : Nat) : Ratio := match q - 2 with
    | .ofNat k => ⟨n * Nat.pow 2 k, 1⟩
    | .negSucc k => ⟨n, Nat.pow 2 (k + 1)⟩
  { value := scale (4 * m)
    low := scale (4 * m - (if narrow then 1 else 2))
    high := scale (4 * m + 2)
    closed := m % 2 == 0 }

def Target.holds (t : Target) (u : Int) (n : Nat) : Bool :=
  let low := t.low.shift u
  let high := t.high.shift u
  if t.closed then low.num ≤ n * low.den && n * high.den ≤ high.num
  else low.num < n * low.den && n * high.den < high.num

/-- The number of digits of a positive number before the decimal point, or minus the number of zeros
after it. -/
def magnitude (r : Ratio) : Int :=
  if r.den ≤ r.num then (Nat.toDigits 10 (r.num / r.den)).length
  else match (List.range 400).find? (fun k => r.den ≤ r.num * Nat.pow 10 (k + 1)) with
    | some k => -(k : Int)
    | none => -400

/-- The neighbour on the grid of `n`-digit decimals that lies in the interval; the nearer one if both
do, and the even one if both are equally near. -/
def Target.onGrid? (t : Target) (magnitude : Int) (n : Nat) : Option Decimal :=
  let u := magnitude - n
  let r := t.value.shift u
  let below := r.num / r.den
  let twice := 2 * (r.num % r.den)
  let lowFits := t.holds u below && below != 0
  let highFits := t.holds u (below + 1)
  if lowFits && (!highFits || twice < r.den || (twice == r.den && below % 2 == 0)) then
    some ⟨below, u⟩
  else if highFits then some ⟨below + 1, u⟩
  else none

def trim : Nat → Decimal → Decimal
  | 0, d => d
  | fuel + 1, d =>
    if d.digits != 0 && d.digits % 10 == 0 then trim fuel ⟨d.digits / 10, d.exponent + 1⟩
    else d

def shortest (m : Nat) (q : Int) (narrow : Bool) : Decimal :=
  let t := Target.of m q narrow
  let mag := magnitude t.value
  match (List.range 17).findSome? fun n => t.onGrid? mag (n + 1) with
  | some d => d.trim 20
  | none => ⟨0, 0⟩

inductive Kind where
  | nan
  | infinite
  | finite (d : Decimal)
  deriving Repr, DecidableEq

def leastNormal : Nat := 0x10000000000000

def ofBits (bits : UInt64) : Bool × Kind :=
  let n := bits.toNat
  let negative := n / 0x8000000000000000 == 1
  let e : Nat := n / leastNormal % 2048
  let f := n % leastNormal
  if e == 2047 then (negative, if f == 0 then .infinite else .nan)
  else if e == 0 then
    (negative, .finite (if f == 0 then ⟨0, 0⟩ else shortest f (-1074) false))
  else (negative, .finite (shortest (leastNormal + f) ((e : Int) - 1075) (f == 0 && e != 1)))

/-! ## Notation -/

def digitText (n : Nat) : String :=
  String.ofList (Nat.toDigits 10 n)

def zeros (n : Nat) : String :=
  String.ofList (List.replicate n '0')

def positional (d : Decimal) : String :=
  let s := digitText d.digits
  match d.exponent with
  | .ofNat k => s ++ zeros k ++ ".0"
  | .negSucc k =>
    let cs := s.toList
    if cs.length ≤ k + 1 then "0." ++ zeros (k + 1 - cs.length) ++ s
    else String.ofList (cs.take (cs.length - (k + 1))) ++ "." ++
      String.ofList (cs.drop (cs.length - (k + 1)))

def scientific (d : Decimal) : String :=
  let cs := (digitText d.digits).toList
  let e := d.exponent + (cs.length - 1 : Nat)
  let mantissa := match cs with
    | [] => ""
    | [c] => c.toString
    | c :: rest => c.toString ++ "." ++ String.ofList rest
  mantissa ++ (if 0 ≤ e then "e+" else "e-") ++ digitText e.natAbs

def point (d : Decimal) : Int :=
  d.exponent + (digitText d.digits).length

end Decimal

end SheetSuite
