import SheetSuite.Json.Number

namespace SheetSuite.Json

mutual

def skipValueWithin : Nat → List Char → Except Fault (List Char)
  | 0, s => .error (.ahead .expectedValue s)
  | fuel + 1, s =>
    match skipSpace s with
    | [] => .error (.here .endInValue [])
    | 'n' :: t => word ['u', 'l', 'l'] t
    | 't' :: t => word ['r', 'u', 'e'] t
    | 'f' :: t => word ['a', 'l', 's', 'e'] t
    | '"' :: t => skipString t
    | '[' :: t =>
      match skipSpace t with
      | ']' :: u => .ok u
      | [] => .error (.here .endInList [])
      | u => skipElements fuel u
    | '{' :: t =>
      match skipSpace t with
      | '}' :: u => .ok u
      | [] => .error (.here .endInObject [])
      | u => skipMembers fuel u
    | c :: t =>
      if c == '-' || c.isDigit then skipNumber (c :: t) else .error (.ahead .expectedValue (c :: t))

def skipElements : Nat → List Char → Except Fault (List Char)
  | 0, s => .error (.ahead .expectedValue s)
  | fuel + 1, s => do
    let rest ← skipValueWithin fuel s
    match skipSpace rest with
    | ',' :: t => skipElements fuel t
    | ']' :: t => .ok t
    | [] => .error (.here .endInList [])
    | t => .error (.ahead .expectedListEnd t)

def skipMembers : Nat → List Char → Except Fault (List Char)
  | 0, s => .error (.ahead .expectedValue s)
  | fuel + 1, s =>
    match skipSpace s with
    | '"' :: t => do
      let afterKey ← skipString t
      let atValue ← colon afterKey
      let rest ← skipValueWithin fuel atValue
      match skipSpace rest with
      | ',' :: u => skipMembers fuel u
      | '}' :: u => .ok u
      | [] => .error (.here .endInObject [])
      | u => .error (.ahead .expectedObjectEnd u)
    | [] => .error (.here .endInObject [])
    | t => .error (.ahead .keyNotString t)

end

/-- Passes over a value. Each level and each element takes a character, so twice the length of the text
bounds the number of steps. -/
def skipValue (s : List Char) : Except Fault (List Char) :=
  skipValueWithin (2 * s.length + 2) s

end SheetSuite.Json
