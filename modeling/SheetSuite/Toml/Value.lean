/-!
# TOML values and tables

A document is a tree of values. While it is read, each table remembers how it was defined, because that
decides how it may be extended: a table written in braces is closed, a table with a header may not be
given another one, and keys with dots extend only tables that keys with dots have made.
-/

namespace SheetSuite.Toml

inductive Definition where
  | braces
  | header
  | parent
  | dotted
  deriving Repr, DecidableEq

inductive Value where
  | string (s : String)
  | integer (n : Int)
  | float (shown : String)
  | boolean (b : Bool)
  | datetime
  /-- A list; its tables were written with double brackets if `isTables`. -/
  | array (isTables : Bool) (items : List Value)
  | table (definition : Definition) (entries : List (String × Value))
  deriving Repr

abbrev Entries := List (String × Value)

namespace Entries

def put (key : String) (value : Value) : Entries → Entries
  | [] => [(key, value)]
  | (k, v) :: rest => if k = key then (key, value) :: rest else (k, v) :: put key value rest

end Entries

/-- What is done to a table: its definition and members before and after, or nothing if it is not
allowed. -/
abbrev Change := Definition → Entries → Option (Definition × Entries)

/-- Makes a change to the table at the end of a path, and makes the tables on the way that are missing.
A path of a key with dots may only pass through tables that have no header. -/
def change (isDotted : Bool) (f : Change) : List String → Change
  | [], definition, entries => f definition entries
  | key :: path, definition, entries =>
    let store (v : Value) := (definition, Entries.put key v entries)
    match entries.lookup key with
    | none => do
      let (d, es) ← change isDotted f path (if isDotted then .dotted else .parent) []
      return store (.table d es)
    | some (.table d es) =>
      if d = .braces || (isDotted && d = .header) then none
      else do
        let (d, es) ← change isDotted f path d es
        return store (.table d es)
    | some (.array true items) =>
      match items.getLast? with
      | some (.table d es) => do
        let (d, es) ← change isDotted f path d es
        return store (.array true (items.dropLast ++ [.table d es]))
      | _ => none
    | some _ => none

/-- Adds a member. A key that is there already may not be given again, and a key with dots adds only to a
table that keys with dots have made. -/
def addMember (isDotted : Bool) (key : String) (value : Value) : Change := fun definition entries =>
  if isDotted && definition != .dotted then none
  else if (entries.lookup key).isSome then none
  else some (definition, entries ++ [(key, value)])

def assign (keys : List String) (value : Value) : Change := fun definition entries =>
  match keys.getLast? with
  | none => none
  | some key =>
    let path := keys.dropLast
    change true (addMember (!path.isEmpty) key value) path definition entries

/-- Opens a table by its header. A table that was only passed on the way may still be opened. -/
def openTable (key : String) : Change := fun definition entries =>
  match entries.lookup key with
  | none => some (definition, entries ++ [(key, .table .header [])])
  | some (.table .parent es) => some (definition, Entries.put key (.table .header es) entries)
  | some _ => none

def openElement (key : String) : Change := fun definition entries =>
  match entries.lookup key with
  | none => some (definition, entries ++ [(key, .array true [.table .header []])])
  | some (.array true items) =>
    some (definition, Entries.put key (.array true (items ++ [.table .header []])) entries)
  | some _ => none

def openAt (isElement : Bool) (keys : List String) : Change := fun definition entries =>
  match keys.getLast? with
  | none => none
  | some key =>
    change false (if isElement then openElement key else openTable key) keys.dropLast definition
      entries

end SheetSuite.Toml
