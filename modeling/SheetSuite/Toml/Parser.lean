import SheetSuite.Toml.Scalar

namespace SheetSuite.Toml

def isBlank (c : Char) : Bool :=
  c == ' ' || c == '\t'

def skipBlanks (s : List Char) : List Char :=
  s.dropWhile isBlank

def isControl (c : Char) : Bool :=
  (c.toNat < 0x20 && c != '\t') || c.toNat == 0x7F

def lineEnd? (s : List Char) : Option (List Char) :=
  match s with
  | '\n' :: t => some t
  | '\r' :: '\n' :: t => some t
  | _ => none

def comment? (s : List Char) : Option (List Char) :=
  let rest := s.dropWhile (!isControl ·)
  if rest.isEmpty || (lineEnd? rest).isSome then some rest else none

def skipLines : Nat → List Char → Option (List Char)
  | 0, _ => none
  | fuel + 1, s =>
    match skipBlanks s with
    | '#' :: t => do skipLines fuel (← comment? t)
    | t => match lineEnd? t with
      | some u => skipLines fuel u
      | none => some t

def restOfLine? (s : List Char) : Option (List Char) := do
  let s ← match skipBlanks s with
    | '#' :: t => comment? t
    | t => some t
  if s.isEmpty then some s else lineEnd? s

def hexEscape? (n : Nat) (s : List Char) : Option Char := do
  let ds ← (s.take n).mapM digit?
  let code := ofDigits 16 ds
  if ds.length = n ∧ code.isValidChar then some (Char.ofNat code) else none

def escape? (s : List Char) : Option (Char × Nat) :=
  match s with
  | 'b' :: _ => some ('\x08', 1)
  | 't' :: _ => some ('\t', 1)
  | 'n' :: _ => some ('\n', 1)
  | 'f' :: _ => some ('\x0c', 1)
  | 'r' :: _ => some ('\r', 1)
  | 'e' :: _ => some ('\x1b', 1)
  | '"' :: _ => some ('"', 1)
  | '\\' :: _ => some ('\\', 1)
  | 'x' :: t => (hexEscape? 2 t).map (·, 3)
  | 'u' :: t => (hexEscape? 4 t).map (·, 5)
  | 'U' :: t => (hexEscape? 8 t).map (·, 9)
  | _ => none

structure TextKind where
  quote : Char
  hasEscapes : Bool
  isLong : Bool

/-- The number of characters that a backslash at the end of a line swallows, if it stands there. -/
def lineJoin? (s : List Char) : Option Nat :=
  let t := skipBlanks s
  match lineEnd? t with
  | some u =>
    let rest := u.dropWhile fun c => isBlank c || c == '\n' || c == '\r'
    some (s.length - rest.length)
  | none => none

/-- Reads one unit of a text, of which `c` is the first character: what it denotes, and the number of
characters that it takes after `c`. -/
def textUnit? (kind : TextKind) (c : Char) (s : List Char) : Option (List Char × Nat) :=
  if c = '\\' && kind.hasEscapes then
    match (if kind.isLong then lineJoin? s else none) with
    | some n => some ([], n)
    | none => (escape? s).map fun (d, n) => ([d], n)
  else if kind.isLong && (c = '\n' || (c = '\r' && s.head? = some '\n')) then some ([c], 0)
  else if isControl c then none
  else some ([c], 0)

/-- The number of quotes that belong to the text if it ends here: up to two may stand before the three
that close a long text. -/
def closing? (kind : TextKind) (s : List Char) : Option Nat :=
  let quotes := (s.takeWhile (· == kind.quote)).length
  if kind.isLong then
    if 3 ≤ quotes then some (min quotes 5 - 3) else none
  else if 1 ≤ quotes then some 0 else none

def textFrom (kind : TextKind) : Nat → List Char → Option (List Char × List Char)
  | _, [] => none
  | skip + 1, _ :: s => textFrom kind skip s
  | 0, c :: s =>
    match closing? kind (c :: s) with
    | some n => some (List.replicate n kind.quote, (c :: s).drop (n + if kind.isLong then 3 else 1))
    | none => do
      let (ds, skip) ← textUnit? kind c s
      let (rest, tail) ← textFrom kind skip s
      return (ds ++ rest, tail)

def shortText? (quote : Char) (s : List Char) : Option (String × List Char) := do
  let (cs, rest) ← textFrom ⟨quote, quote == '"', false⟩ 0 s
  return (String.ofList cs, rest)

/-- Reads a text on several lines after its three quotes. A line end right after them does not count. -/
def longText? (quote : Char) (s : List Char) : Option (String × List Char) := do
  let (cs, rest) ← textFrom ⟨quote, quote == '"', true⟩ 0 ((lineEnd? s).getD s)
  return (String.ofList cs, rest)

def text? (quote : Char) (s : List Char) : Option (String × List Char) :=
  match s with
  | a :: b :: c :: t =>
    if a = quote ∧ b = quote ∧ c = quote then longText? quote t
    else shortText? quote (b :: c :: t)
  | _ :: t => shortText? quote t
  | [] => none

def isKeyChar (c : Char) : Bool :=
  c.isAlphanum || c == '_' || c == '-'

def keyPart? (s : List Char) : Option (String × List Char) :=
  match s with
  | '"' :: t => shortText? '"' t
  | '\'' :: t => shortText? '\'' t
  | _ =>
    let part := s.takeWhile isKeyChar
    if part.isEmpty then none else some (String.ofList part, s.drop part.length)

def key? : Nat → List Char → Option (List String × List Char)
  | 0, _ => none
  | fuel + 1, s => do
    let (part, rest) ← keyPart? (skipBlanks s)
    match skipBlanks rest with
    | '.' :: t =>
      let (parts, rest) ← key? fuel t
      return (part :: parts, rest)
    | t => return ([part], t)

def maxDepth : Nat := 80

mutual

/-- Reads a value. `depth` is the number of levels that may still be opened. -/
def value? (depth : Nat) : Nat → List Char → Option (Value × List Char)
  | 0, _ => none
  | fuel + 1, s =>
    match s with
    | '"' :: _ => (text? '"' s).map fun (t, rest) => (.string t, rest)
    | '\'' :: _ => (text? '\'' s).map fun (t, rest) => (.string t, rest)
    | '[' :: t =>
      if depth = 0 then none
      else (items? (depth - 1) fuel t).map fun (vs, rest) => (.array false vs, rest)
    | '{' :: t =>
      if depth = 0 then none
      else (members? (depth - 1) fuel [] t).map fun (es, rest) => (.table .braces es, rest)
    | _ =>
      let n := tokenLength s
      (scalar? (s.take n)).map fun v => (v, s.drop n)

def items? (depth : Nat) : Nat → List Char → Option (List Value × List Char)
  | 0, _ => none
  | fuel + 1, s => do
    match ← skipLines (s.length + 1) s with
    | ']' :: rest => return ([], rest)
    | t =>
      let (v, rest) ← value? depth fuel t
      match ← skipLines (rest.length + 1) rest with
      | ']' :: rest => return ([v], rest)
      | ',' :: rest =>
        let (vs, rest) ← items? depth fuel rest
        return (v :: vs, rest)
      | _ => none

def members? (depth : Nat) : Nat → Entries → List Char → Option (Entries × List Char)
  | 0, _, _ => none
  | fuel + 1, entries, s => do
    match ← skipLines (s.length + 1) s with
    | '}' :: rest => return (entries, rest)
    | t =>
      let (keys, rest) ← key? (t.length + 1) t
      match rest with
      | '=' :: rest =>
        let (v, rest) ← value? depth fuel (skipBlanks rest)
        let (_, entries) ← assign keys v .braces entries
        match ← skipLines (rest.length + 1) rest with
        | '}' :: rest => return (entries, rest)
        | ',' :: rest => members? depth fuel entries rest
        | _ => none
      | _ => none

end

inductive Line where
  | blank
  | header (keys : List String)
  | element (keys : List String)
  | assignment (keys : List String) (value : Value)

def line? (s : List Char) : Option (Line × List Char) := do
  match skipBlanks s with
  | '[' :: '[' :: t =>
    let (keys, rest) ← key? (t.length + 1) t
    match rest with
    | ']' :: ']' :: rest => return (.element keys, ← restOfLine? rest)
    | _ => none
  | '[' :: t =>
    let (keys, rest) ← key? (t.length + 1) t
    match rest with
    | ']' :: rest => return (.header keys, ← restOfLine? rest)
    | _ => none
  | [] => return (.blank, [])
  | c :: t =>
    if c = '#' || (lineEnd? (c :: t)).isSome then return (.blank, ← restOfLine? (c :: t))
    else
      let (keys, rest) ← key? (t.length + 2) (c :: t)
      match rest with
      | '=' :: rest =>
        let (v, rest) ← value? maxDepth (2 * rest.length + 2) (skipBlanks rest)
        return (.assignment keys v, ← restOfLine? rest)
      | _ => none

def Line.apply (line : Line) (current : List String) (root : Entries) :
    Option (List String × Entries) :=
  match line with
  | blank => some (current, root)
  | header keys => (openAt false keys .header root).map fun (_, root) => (keys, root)
  | element keys => (openAt true keys .header root).map fun (_, root) => (keys, root)
  | assignment keys value =>
    (change false (assign keys value) current .header root).map fun (_, root) => (current, root)

def lines? : Nat → List String → Entries → List Char → Option Entries
  | 0, _, _, _ => none
  | fuel + 1, current, root, s =>
    if s.isEmpty then some root
    else do
      let (line, rest) ← line? s
      let (current, root) ← line.apply current root
      lines? fuel current root rest

/-- Reads a document. A byte order mark at its start does not count. -/
def document? (input : String) : Option Entries :=
  let s := match input.toList with
    | '\uFEFF' :: t => t
    | s => s
  lines? (s.length + 1) [] [] s

end SheetSuite.Toml
