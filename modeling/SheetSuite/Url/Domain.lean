import SheetSuite.Text.Composition
import SheetSuite.Text.Mark
import SheetSuite.Url.Address
import SheetSuite.Url.Domain.Direction
import SheetSuite.Url.Domain.Joining
import SheetSuite.Url.Domain.Mapping
import SheetSuite.Url.Domain.Punycode

namespace SheetSuite.Url.Domain

def isForbidden (c : Char) : Bool :=
  c.toNat ≤ 0x20 || c.toNat == 0x7F || c == '%' || c == '#' || c == '/' || c == ':' || c == '<' ||
    c == '>' || c == '?' || c == '@' || c == '[' || c == '\\' || c == ']' || c == '^' || c == '|'

def mapped? (name : List Char) : Option (List Char) := do
  let parts ← name.mapM fun c => match fate c with
    | .kept => some [c]
    | .replaced cs => some cs
    | .dropped => some []
    | .refused => none
  return parts.flatten

def asciiStart : List Char := ['x', 'n', '-', '-']

def maxLabel : Nat := 1000

/-- The rules for a label that is not in Punycode: it does not start with a mark, and its joiners have
an effect. -/
def isWellFormed (label : List Char) : Bool :=
  !(label.head?.any Text.isMark) && joinersFit [] label

/-- The label that a label in Punycode stands for. It has to be one that would be written so. -/
def unveiled? (code : List Char) : Option (List Char) := do
  if 2 * maxLabel < code.length then none
  else
    let label ← Punycode.decode code
    if label.all (·.toNat < 0x80) || asciiStart.isPrefixOf label then none
    else if Text.compose label != label || label.any (fun c => isForbidden c || fate c != .kept) then none
    else some label

def label? (label : List Char) : Option (List Char) := do
  let label ← if asciiStart.isPrefixOf label then unveiled? (label.drop 4) else some label
  if isWellFormed label then some label else none

def ascii? (label : List Char) : Option (List Char) :=
  if label.all (·.toNat < 0x80) then some label
  else if maxLabel < label.length then none
  else some (asciiStart ++ Punycode.encode label)

def toAscii? (name : List Char) : Option (List Char) := do
  let name ← mapped? name
  let name := Text.compose name
  if name.any isForbidden then none
  else
    let labels ← (Text.split (· == '.') name).mapM label?
    if labels.any (·.any fun c => (direction c).isRightward) && !labels.all oneDirection then none
    else
      let labels ← labels.mapM ascii?
      return ['.'].intercalate labels

end SheetSuite.Url.Domain
