import SheetSuite.Decimal.Shortest
import SheetSuite.Json.Scan

/-!
# Numbers in a JSON text

No part of a feed or a suite is a number, so a number is only ever passed over, or found where
something else was expected. In the first case its form is checked (`Json.skipNumber`); in the second
its value is worked out as well, because the message shows it (`Json.number`).

A value that fits 64 bits is an integer. Any other is a floating-point number: the digits up to
64 bits, times or divided by a power of ten, with the rounding of each of these steps.
-/

namespace SheetSuite.Json

def digits (s : List Char) : List Char :=
  s.takeWhile Char.isDigit

def afterDigits (s : List Char) : List Char :=
  s.dropWhile Char.isDigit

/-! ## Form -/

def skipExponent (s : List Char) : Except Fault (List Char) :=
  let t := match s with
    | '+' :: t => t
    | '-' :: t => t
    | _ => s
  match t with
  | c :: rest => if c.isDigit then .ok (afterDigits rest) else .error (.ahead .invalidNumber t)
  | [] => .error (.ahead .invalidNumber t)

def skipExponent? (s : List Char) : Except Fault (List Char) :=
  match s with
  | 'e' :: t => skipExponent t
  | 'E' :: t => skipExponent t
  | _ => .ok s

def skipFraction? (s : List Char) : Except Fault (List Char) :=
  match s with
  | '.' :: t =>
    if (digits t).isEmpty then .error (.ahead .invalidNumber t) else skipExponent? (afterDigits t)
  | _ => skipExponent? s

def skipUnsigned (s : List Char) : Except Fault (List Char) :=
  match s with
  | '0' :: t =>
    if (digits t).isEmpty then skipFraction? t else .error (.ahead .invalidNumber t)
  | c :: t => if c.isDigit then skipFraction? (afterDigits t) else .error (.ahead .invalidNumber s)
  | [] => .error (.ahead .invalidNumber s)

def skipNumber (s : List Char) : Except Fault (List Char) :=
  match s with
  | '-' :: t => skipUnsigned t
  | _ => skipUnsigned s

/-! ## Value -/

def maxWord : Nat := UInt64.size - 1

/-- Appends digits to a number as long as it fits 64 bits; the digits that did not fit are returned. -/
def appendDigits (n : Nat) : List Char → Nat × List Char
  | [] => (n, [])
  | c :: cs =>
    let m := n * 10 + (c.toNat - 48)
    if m ≤ maxWord then appendDigits m cs else (n, c :: cs)

/-- A floating-point number shown with the fewest digits that read back: positional with up to sixteen
digits before the point or four zeros after it, else scientific. -/
def showFloat (x : Float) : String :=
  match Decimal.ofBits x.toBits with
  | (negative, .finite d) =>
    let shown :=
      if d.digits == 0 then "0.0"
      else if -5 < d.point && d.point ≤ 16 then d.positional else d.scientific
    if negative then "-" ++ shown else shown
  | (negative, .infinite) => if negative then "-inf" else "inf"
  | (_, .nan) => "NaN"

def scale : Nat → Float → Int → Option Float
  | 0, x, _ => some x
  | fuel + 1, x, e =>
    if e.natAbs ≤ 308 then
      let power := Float.ofScientific 1 false e.natAbs
      if 0 ≤ e then
        let y := x * power
        if y.isInf then none else some y
      else some (x / power)
    else if x == 0 then some x
    else if 0 ≤ e then none
    else scale fuel (x / Float.ofScientific 1 false 308) (e + 308)

def floatValue (negative : Bool) (significand : Nat) (e : Int) (rest : List Char) :
    Except Fault (Found × List Char) :=
  match scale 8 significand.toUInt64.toFloat e with
  | some x => .ok (.float (showFloat (if negative then -x else x)), rest)
  | none => .error (.here .numberOutOfRange rest)

def maxExponent : Nat := 0x7FFFFFFF

/-- Reads the digits of an exponent after its first one; `none` if it gets too large, with what follows
the digit that made it so. -/
def exponentDigits (n : Nat) : List Char → Option Nat × List Char
  | [] => (some n, [])
  | c :: cs =>
    if c.isDigit then
      let m := n * 10 + (c.toNat - 48)
      if m ≤ maxExponent then exponentDigits m cs else (none, cs)
    else (some n, c :: cs)

def exponentValue (negative : Bool) (significand : Nat) (e : Int) (s : List Char) :
    Except Fault (Found × List Char) :=
  let (down, t) := match s with
    | '+' :: t => (false, t)
    | '-' :: t => (true, t)
    | _ => (false, s)
  match t with
  | [] => .error (.here .endInValue [])
  | c :: rest =>
    if c.isDigit then
      match exponentDigits (c.toNat - 48) rest with
      | (some n, rest) => floatValue negative significand (if down then e - n else e + n) rest
      | (none, rest) =>
        if significand != 0 && !down then .error (.here .numberOutOfRange rest)
        else .ok (.float (if negative then "-0.0" else "0.0"), afterDigits rest)
    else .error (.ahead .invalidNumber t)

def fractionValue (negative : Bool) (significand : Nat) (e : Int) (s : List Char) :
    Except Fault (Found × List Char) :=
  match digits s, afterDigits s with
  | [], [] => .error (.here .endInValue [])
  | [], rest => .error (.ahead .invalidNumber rest)
  | ds, rest =>
    let (m, dropped) := appendDigits significand ds
    let e := e - (ds.length - dropped.length : Nat)
    match rest with
    | 'e' :: t => exponentValue negative m e t
    | 'E' :: t => exponentValue negative m e t
    | _ => floatValue negative m e rest

/-- The value of a whole number that fits 64 bits. A negative one is an integer only down to `-2^63`,
and minus zero is not an integer. -/
def integerValue (negative : Bool) (n : Nat) : Found :=
  if !negative then .integer n
  else if 0 < n && n ≤ 0x8000000000000000 then .integer (-(n : Int))
  else .float (showFloat (-n.toUInt64.toFloat))

def unsignedValue (negative : Bool) (ds rest : List Char) : Except Fault (Found × List Char) :=
  let (n, dropped) := appendDigits 0 ds
  match rest with
  | '.' :: t => fractionValue negative n dropped.length t
  | 'e' :: t => exponentValue negative n dropped.length t
  | 'E' :: t => exponentValue negative n dropped.length t
  | _ =>
    if dropped.isEmpty then .ok (integerValue negative n, rest)
    else floatValue negative n dropped.length rest

def number : Reader Found := fun s =>
  let (negative, t) := match s with
    | '-' :: t => (true, t)
    | _ => (false, s)
  match t with
  | [] => .error (.here .endInValue [])
  | '0' :: u =>
    if (digits u).isEmpty then unsignedValue negative ['0'] u else .error (.ahead .invalidNumber u)
  | c :: _ =>
    if c.isDigit then unsignedValue negative (digits t) (afterDigits t)
    else .error (.ahead .invalidNumber t)

end SheetSuite.Json
