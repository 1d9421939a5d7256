namespace SheetSuite.Json

inductive Layout where
  | compact
  | indented
  deriving Repr, DecidableEq, Inhabited

namespace Layout

def lineBreak (layout : Layout) (depth : Nat) : List Char :=
  match layout with
  | compact => []
  | indented => '\n' :: List.replicate (2 * depth) ' '

def colon : Layout → List Char
  | compact => [':']
  | indented => [':', ' ']

end Layout

def hexChar (n : Nat) : Char :=
  Nat.digitChar n

def escapeChar (c : Char) : List Char :=
  if c = '"' then ['\\', '"']
  else if c = '\\' then ['\\', '\\']
  else if c = '\x08' then ['\\', 'b']
  else if c = '\x0c' then ['\\', 'f']
  else if c = '\n' then ['\\', 'n']
  else if c = '\r' then ['\\', 'r']
  else if c = '\t' then ['\\', 't']
  else if c.toNat < 0x20 then
    ['\\', 'u', '0', '0', hexChar (c.toNat / 16), hexChar (c.toNat % 16)]
  else [c]

def writeString (s : String) : List Char :=
  '"' :: s.toList.flatMap escapeChar ++ ['"']

def writeItems (layout : Layout) (depth : Nat) : List (List Char) → List Char
  | [] => []
  | [item] => layout.lineBreak depth ++ item
  | item :: items => layout.lineBreak depth ++ item ++ ',' :: writeItems layout depth items

def writeEnclosed (layout : Layout) (depth : Nat) (opening closing : Char)
    (items : List (List Char)) : List Char :=
  match items with
  | [] => [opening, closing]
  | items => opening :: writeItems layout (depth + 1) items ++ layout.lineBreak depth ++ [closing]

def writeList (layout : Layout) (depth : Nat) (items : List (List Char)) : List Char :=
  writeEnclosed layout depth '[' ']' items

def writeObject (layout : Layout) (depth : Nat) (members : List (String × List Char)) : List Char :=
  writeEnclosed layout depth '{' '}'
    (members.map fun (key, value) => writeString key ++ layout.colon ++ value)

end SheetSuite.Json
