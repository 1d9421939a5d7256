namespace SheetSuite.Url.Domain.Punycode

def digitChar (d : Nat) : Char :=
  if d < 26 then Char.ofNat (0x61 + d) else Char.ofNat (0x30 + d - 26)

def digitValue? (c : Char) : Option Nat :=
  if 'a' ≤ c ∧ c ≤ 'z' then some (c.toNat - 0x61)
  else if 'A' ≤ c ∧ c ≤ 'Z' then some (c.toNat - 0x41)
  else if c.isDigit then some (c.toNat - 0x30 + 26)
  else none

def threshold (k bias : Nat) : Nat :=
  if k ≤ bias then 1 else if bias + 26 ≤ k then 26 else k - bias

theorem threshold_pos (k bias : Nat) : 1 ≤ threshold k bias := by
  unfold threshold
  split
  · omega
  · split <;> omega

def scaleDown (delta k : Nat) : Nat :=
  if 455 < delta then scaleDown (delta / 35) (k + 36) else k + 36 * delta / (delta + 38)
termination_by delta
decreasing_by omega

def adapt (delta count : Nat) (first : Bool) : Nat :=
  let d := if first then delta / 700 else delta / 2
  scaleDown (d + d / count) 0

def encodeNumber (bias k q : Nat) : List Char :=
  let t := threshold k bias
  if q < t then [digitChar q]
  else digitChar (t + (q - t) % (36 - t)) :: encodeNumber bias (k + 36) ((q - t) / (36 - t))
termination_by q
decreasing_by
  have h := threshold_pos k bias
  exact Nat.lt_of_le_of_lt (Nat.div_le_self _ _) (by omega)

/-- The state of writing: the digits so far, the difference to write next, the bias, and the number of
characters handled. -/
structure Encoder where
  digits : List Char
  delta : Nat
  bias : Nat
  handled : Nat

def Encoder.pass (basic n : Nat) (e : Encoder) (c : Char) : Encoder :=
  if c.toNat < n then { e with delta := e.delta + 1 }
  else if c.toNat = n then
    { digits := e.digits ++ encodeNumber e.bias 36 e.delta
      delta := 0
      bias := adapt e.delta (e.handled + 1) (e.handled == basic)
      handled := e.handled + 1 }
  else e

/-- Inserts the code points in ascending order; `n` is the first one not yet considered. -/
def encodeFrom (label : List Char) (basic : Nat) : Nat → List Nat → Encoder → List Char
  | _, [], e => e.digits
  | n, m :: ms, e =>
    let e := { e with delta := e.delta + (m - n) * (e.handled + 1) }
    let e := label.foldl (Encoder.pass basic m) e
    encodeFrom label basic (m + 1) ms { e with delta := e.delta + 1 }

def encode (label : List Char) : List Char :=
  let basic := label.filter (·.toNat < 0x80)
  let others := ((label.filter (0x80 ≤ ·.toNat)).map Char.toNat).eraseDups.mergeSort
  let start := if basic.isEmpty then [] else basic ++ ['-']
  start ++ encodeFrom label basic.length 0x80 others ⟨[], 0, 72, basic.length⟩

def limit : Nat := UInt32.size

def decodeNumber (bias : Nat) : Nat → Nat → Nat → List Char → Option (Nat × List Char)
  | _, _, _, [] => none
  | k, i, w, c :: rest => do
    let d ← digitValue? c
    let i := i + d * w
    let t := threshold k bias
    if limit ≤ i then none
    else if d < t then some (i, rest)
    else if limit ≤ w * (36 - t) then none
    else decodeNumber bias (k + 36) i (w * (36 - t)) rest

/-- Inserts the characters that the digits describe. Each insertion takes at least one digit. -/
def decodeFrom : Nat → Nat → Nat → Nat → List Char → List Char → Option (List Char)
  | 0, _, _, _, out, _ => some out
  | _, _, _, _, out, [] => some out
  | fuel + 1, n, i, bias, out, ds => do
    let (j, rest) ← decodeNumber bias 36 i 1 ds
    let count := out.length + 1
    let m := n + j / count
    if 0x10FFFF < m || (0xD800 ≤ m && m ≤ 0xDFFF) then none
    else
      let at_ := j % count
      decodeFrom fuel m (at_ + 1) (adapt (j - i) count (i == 0))
        (out.take at_ ++ [Char.ofNat m] ++ out.drop at_) rest

def decode (s : List Char) : Option (List Char) :=
  let (tail, head) := s.reverse.span (· != '-')
  let basic := (head.drop 1).reverse
  let digits := tail.reverse
  if basic.any (0x80 ≤ ·.toNat) then none
  else decodeFrom (digits.length + 1) 0x80 0 72 basic digits

end SheetSuite.Url.Domain.Punycode
