import SheetSuite.Text.Cut

namespace SheetSuite.Url

def hexValue? (c : Char) : Option Nat :=
  if c.isDigit then some (c.toNat - 48)
  else if 'a' ≤ c ∧ c ≤ 'f' then some (c.toNat - 87)
  else if 'A' ≤ c ∧ c ≤ 'F' then some (c.toNat - 55)
  else none

def number? (base : Nat) (ds : List Char) : Option Nat :=
  ds.foldlM (fun n c => do
    let d ← hexValue? c
    if d < base then some (n * base + d) else none) 0

def addressNumber? (s : List Char) : Option Nat :=
  match s with
  | [] => none
  | '0' :: 'x' :: ds => number? 16 ds
  | '0' :: 'X' :: ds => number? 16 ds
  | '0' :: d :: ds => number? 8 (d :: ds)
  | ds => number? 10 ds

def lastPart (parts : List (List Char)) : List Char :=
  match parts.reverse with
  | [] :: part :: _ => part
  | part :: _ => part
  | [] => []

def endsInNumber (domain : List Char) : Bool :=
  let part := lastPart (Text.split (· == '.') domain)
  !part.isEmpty && (part.all Char.isDigit || (addressNumber? part).isSome)

/-- The address of four numbers. The last number fills all bytes that are left. -/
def version4? (domain : List Char) : Option Nat := do
  let parts := Text.split (· == '.') domain
  let parts := if parts.getLast? = some [] then parts.dropLast else parts
  if 4 < parts.length then none
  else
    let numbers ← parts.mapM addressNumber?
    let last ← numbers.getLast?
    let heads := numbers.dropLast
    if heads.any (255 < ·) || Nat.pow 256 (4 - heads.length) ≤ last then none
    else some (heads.zipIdx.foldl (fun sum (n, i) => sum + n * Nat.pow 256 (3 - i)) last)

def showVersion4 (n : Nat) : String :=
  ".".intercalate ([3, 2, 1, 0].map fun i => toString (n / Nat.pow 256 i % 256))

def piece? (s : List Char) : Option (List Nat) :=
  if s.isEmpty || 4 < s.length then none else (number? 16 s).map ([·])

def byteNumber? (s : List Char) : Option Nat :=
  match s with
  | [] => none
  | '0' :: _ :: _ => none
  | ds => do
    let n ← if ds.all Char.isDigit then number? 10 ds else none
    if n < 256 then some n else none

/-- The last piece may be an address of four numbers, which counts as two pieces. -/
def lastPiece? (s : List Char) : Option (List Nat) :=
  if s.contains '.' then
    match (Text.split (· == '.') s).mapM byteNumber? with
    | some [a, b, c, d] => some [a * 256 + b, c * 256 + d]
    | _ => none
  else piece? s

def pieces? (s : List Char) (isEnd : Bool) : Option (List Nat) :=
  if s.isEmpty then some []
  else
    let parts := Text.split (· == ':') s
    match parts.getLast? with
    | none => none
    | some last => do
      let heads ← parts.dropLast.mapM piece?
      let tail ← if isEnd then lastPiece? last else piece? last
      return heads.flatten ++ tail

def splitDouble? : List Char → Option (List Char × List Char)
  | ':' :: ':' :: rest => some ([], rest)
  | c :: rest => (splitDouble? rest).map fun (a, b) => (c :: a, b)
  | [] => none

def version6? (s : List Char) : Option (List Nat) :=
  match splitDouble? s with
  | none => do
    let pieces ← pieces? s true
    if pieces.length = 8 then some pieces else none
  | some (left, right) => do
    let heads ← pieces? left false
    let tails ← pieces? right true
    if heads.length + tails.length ≤ 7 then
      some (heads ++ List.replicate (8 - heads.length - tails.length) 0 ++ tails)
    else none

def zeroRun (pieces : List Nat) : Nat :=
  (pieces.takeWhile (· == 0)).length

/-- Where the longest run of at least two zeros starts, the first of several, and how long it is. -/
def longestZeros (pieces : List Nat) : Option (Nat × Nat) :=
  let runs := (List.range pieces.length).map fun i => (i, zeroRun (pieces.drop i))
  let best := runs.foldl (fun best run => if best.2 < run.2 then run else best) (0, 0)
  if best.2 < 2 then none else some best

def showPieces (pieces : List Nat) : String :=
  ":".intercalate (pieces.map fun n => String.ofList (Nat.toDigits 16 n))

def showVersion6 (pieces : List Nat) : String :=
  match longestZeros pieces with
  | none => showPieces pieces
  | some (start, length) =>
    showPieces (pieces.take start) ++ "::" ++ showPieces (pieces.drop (start + length))

end SheetSuite.Url
