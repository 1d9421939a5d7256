namespace SheetSuite.Text

def utf8 (s : List Char) : List UInt8 :=
  s.flatMap String.utf8EncodeChar

def announced (b : Nat) : Option (Nat × Nat × Nat) :=
  if 0xC2 ≤ b && b ≤ 0xDF then some (1, 0x80, 0xBF)
  else if b == 0xE0 then some (2, 0xA0, 0xBF)
  else if b == 0xED then some (2, 0x80, 0x9F)
  else if 0xE1 ≤ b && b ≤ 0xEF then some (2, 0x80, 0xBF)
  else if b == 0xF0 then some (3, 0x90, 0xBF)
  else if 0xF1 ≤ b && b ≤ 0xF3 then some (3, 0x80, 0xBF)
  else if b == 0xF4 then some (3, 0x80, 0x8F)
  else none

def following (count low high : Nat) (rest : List UInt8) : List UInt8 :=
  match count, rest with
  | 0, _ => []
  | _ + 1, [] => []
  | n + 1, b :: bs =>
    if low ≤ b.toNat && b.toNat ≤ high then b :: following n 0x80 0xBF bs else []

/-- Reads the character whose first byte is `b`: the character and the number of bytes that it takes
after `b`, or, if it is ill-formed, only the number of bytes that belong to its start. -/
def utf8Char (b : UInt8) (rest : List UInt8) : Option Char × Nat :=
  if b.toNat < 0x80 then (some (Char.ofNat b.toNat), 0)
  else match announced b.toNat with
    | none => (none, 0)
    | some (count, low, high) =>
      let bs := following count low high rest
      if bs.length = count then
        let lead := b.toNat % Nat.pow 2 (6 - count)
        (some (Char.ofNat (bs.foldl (fun n x => n * 64 + x.toNat % 64) lead)), count)
      else (none, bs.length)

def lossyFrom : Nat → List UInt8 → List Char
  | _, [] => []
  | skip + 1, _ :: bs => lossyFrom skip bs
  | 0, b :: bs =>
    let (c, skip) := utf8Char b bs
    c.getD '\uFFFD' :: lossyFrom skip bs

def lossy (bytes : List UInt8) : String :=
  String.ofList (lossyFrom 0 bytes)

def strictFrom : Nat → List UInt8 → Option (List Char)
  | _, [] => some []
  | skip + 1, _ :: bs => strictFrom skip bs
  | 0, b :: bs =>
    match utf8Char b bs with
    | (some c, skip) => (strictFrom skip bs).map (c :: ·)
    | (none, _) => none

def strict? (bytes : List UInt8) : Option String :=
  (strictFrom 0 bytes).map String.ofList

end SheetSuite.Text
