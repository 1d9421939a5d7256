import SheetSuite.Json.Skip

/-!
# Reading typed values from a JSON text

Texts, lists and records. A record is written as an object with its fields in any order, among members
that are not fields and are passed over; a field may not occur twice. It may also be written as a list
of the values of its fields in their order.
-/

namespace SheetSuite.Json

/-- The fault of a value that is not of the expected kind. A scalar is consumed first, a list or an
object is not. -/
def wrongType (expected : String) (s : List Char) : Fault :=
  let scalar (found : Except Fault (Found × List Char)) : Fault :=
    match found with
    | .ok (found, rest) => .here (.wrongType found expected) rest
    | .error fault => fault
  match s with
  | [] => .here .endInValue []
  | 'n' :: t => scalar ((word ['u', 'l', 'l'] t).map (.null, ·))
  | 't' :: t => scalar ((word ['r', 'u', 'e'] t).map (.boolean true, ·))
  | 'f' :: t => scalar ((word ['a', 'l', 's', 'e'] t).map (.boolean false, ·))
  | '"' :: t => scalar ((string t).map fun (text, rest) => (.string text, rest))
  | '[' :: _ => .here (.wrongType .sequence expected) s
  | '{' :: _ => .here (.wrongType .map expected) s
  | c :: _ => if c == '-' || c.isDigit then scalar (number s) else .ahead .expectedValue s

def text : Reader String := fun s =>
  match skipSpace s with
  | '"' :: t => string t
  | t => .error (wrongType "a string" t)

/-! ## Lists -/

/-- Moves to the next element of a list, or to its closing bracket: `some` is the text from an element
on, `none` says that the list ends. -/
def nextElement (first : Bool) (s : List Char) : Except Fault (Option (List Char) × List Char) :=
  match skipSpace s with
  | [] => .error (.here .endInList [])
  | ']' :: t => .ok (none, t)
  | c :: t =>
    if first then .ok (some (c :: t), t)
    else if c = ',' then
      match skipSpace t with
      | ']' :: u => .error (.ahead .trailingComma (']' :: u))
      | [] => .error (.here .endInValue [])
      | u => .ok (some u, u)
    else .error (.ahead .expectedListEnd (c :: t))

def elements {α : Type} (value : Reader α) : Nat → Bool → Reader (List α)
  | 0, _, s => .error (.ahead .expectedValue s)
  | fuel + 1, first, s => do
    match ← nextElement first s with
    | (none, rest) => .ok ([], rest)
    | (some t, _) =>
      let (a, rest) ← value t
      let (as, rest) ← elements value fuel false rest
      .ok (a :: as, rest)

def list {α : Type} (value : Reader α) : Reader (List α) := fun s =>
  match skipSpace s with
  | '[' :: t => elements value (t.length + 1) true t
  | t => .error (wrongType "a sequence" t)

/-! ## Records -/

/-- The shape of a record: its name, its fields in their order, and how it is made from the values of
the fields. A field that is needed and absent is returned as the error. -/
structure Record (α β : Type) where
  name : String
  fields : List String
  build : (String → Option α) → Except String β

namespace Record

variable {α β : Type}

def expected (r : Record α β) : String :=
  "struct " ++ r.name

def expectedList (r : Record α β) : String :=
  r.expected ++ " with " ++ toString r.fields.length ++
    (if r.fields.length = 1 then " element" else " elements")

def nextKey (first : Bool) (s : List Char) : Except Fault (Option String × List Char) :=
  let key (t : List Char) : Except Fault (Option String × List Char) := do
    let (k, rest) ← string t
    .ok (some k, rest)
  match skipSpace s with
  | [] => .error (.here .endInObject [])
  | '}' :: t => .ok (none, t)
  | c :: t =>
    if first then
      if c = '"' then key t else .error (.ahead .keyNotString (c :: t))
    else if c = ',' then
      match skipSpace t with
      | '"' :: u => key u
      | '}' :: u => .error (.ahead .trailingComma ('}' :: u))
      | [] => .error (.here .endInValue [])
      | u => .error (.ahead .keyNotString u)
    else .error (.ahead .expectedObjectEnd (c :: t))

/-- Where a repeated key is noticed: after the blanks that follow it, and after the end of the object
if that comes next. -/
def afterRepeatedKey (s : List Char) : List Char :=
  match skipSpace s with
  | '}' :: t => t
  | t => t

/-- Reads the members of an object and its end. The fields are returned in the order in which they
occur. -/
def members (fields : List String) (value : Reader α) :
    Nat → Bool → List (String × α) → Reader (List (String × α))
  | 0, _, _, s => .error (.ahead .expectedValue s)
  | fuel + 1, first, seen, s => do
    match ← nextKey first s with
    | (none, rest) => .ok (seen, rest)
    | (some key, rest) =>
      if key ∈ fields then
        if (seen.lookup key).isSome then
          .error (.here (.duplicateField key) (afterRepeatedKey rest))
        else
          let atValue ← colon rest
          let (a, rest) ← value atValue
          members fields value fuel false (seen ++ [(key, a)]) rest
      else
        let atValue ← colon rest
        let rest ← skipValue atValue
        members fields value fuel false seen rest

def firstElements (value : Reader α) : Nat → Bool → Reader (List α)
  | 0, _, s => .ok ([], s)
  | limit + 1, first, s => do
    match ← nextElement first s with
    | (none, _) => .ok ([], skipSpace s)
    | (some t, _) =>
      let (a, rest) ← value t
      let (as, rest) ← firstElements value limit false rest
      .ok (a :: as, rest)

def endOfList (s : List Char) : Except Fault (List Char) :=
  match skipSpace s with
  | ']' :: t => .ok t
  | [] => .error (.here .endInList [])
  | ',' :: t =>
    match skipSpace t with
    | ']' :: u => .error (.ahead .trailingComma (']' :: u))
    | u => .error (.ahead .trailingCharacters u)
  | t => .error (.ahead .trailingCharacters t)

def read (r : Record α β) (value : Reader α) : Reader β := fun s =>
  match skipSpace s with
  | '{' :: t => do
    let (seen, rest) ← members r.fields value (t.length + 1) true [] t
    match r.build fun field => seen.lookup field with
    | .ok b => .ok (b, rest)
    | .error field => .error (.here (.missingField field) rest)
  | '[' :: t => do
    let (values, rest) ← firstElements value r.fields.length true t
    match r.build fun field => (r.fields.zip values).lookup field with
    | .ok b =>
      let rest ← endOfList rest
      .ok (b, rest)
    | .error _ => .error (.here (.wrongLength values.length r.expectedList) (rest.drop 1))
  | t => .error (wrongType r.expected t)

end Record

/-! ## Whole texts -/

def decode {α : Type} (value : Reader α) (input : String) : Except Error α :=
  match value input.toList with
  | .error fault => .error (.ofFault input fault)
  | .ok (a, rest) =>
    match skipSpace rest with
    | [] => .ok a
    | rest => .error (.ofFault input (.ahead .trailingCharacters rest))

end SheetSuite.Json
