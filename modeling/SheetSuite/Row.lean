import SheetSuite.Suite
import SheetSuite.Text.Cut

/-!
# Rows

The feed gives each line of the sheet as one text, in which markers such as `, local: ` divide the
values. A marker is one of nine labels with a colon, an optional `, ` before it and an optional
single space after it. A row is cut at its markers, from left to right; what stands before the first
marker is dropped, and the chunks between markers are the values in the order of the test case,
whatever the labels were.

Main definitions:

* `Row.markerLength?` tells whether a text starts with a marker and how long that is;
* `Row.pieces` cuts a text into chunks and markers, and loses nothing (`Row.join_pieces`);
* `Row.parse` reads a test case from a row, `Row.render` writes one.
-/

namespace SheetSuite.Row

/-! ## Markers -/

def labelTexts : List String :=
  ["expr", "local", "server", "firstdifference", "reason", "desugar", "bytecode", "pyret",
    "pyretast"]

def labels : List (List Char) :=
  labelTexts.map String.toList

def startsWithLabel (s label : List Char) : Bool :=
  (label ++ [':']).isPrefixOf s

def spaceLength : List Char → Nat
  | ' ' :: _ => 1
  | _ => 0

/-- The length of the marker without `, ` that the text starts with, the space after it included.
The first label that fits is taken. -/
def labelLength? (labels : List (List Char)) (s : List Char) : Option Nat :=
  (labels.find? (startsWithLabel s)).map fun label =>
    label.length + 1 + spaceLength (s.drop (label.length + 1))

def markerLength? (labels : List (List Char)) (s : List Char) : Option Nat :=
  match s with
  | ',' :: ' ' :: rest => ((labelLength? labels rest).map (· + 2)).or (labelLength? labels s)
  | _ => labelLength? labels s

def pieces (labels : List (List Char)) (s : List Char) : Text.Pieces :=
  Text.cut (markerLength? labels) s

/-! ## Rows and test cases -/

def ofChunks : List (List Char) → TestCase
  | [] => {}
  | expr :: rest => TestCase.ofFields ((Text.trimStart expr :: rest).map String.ofList)

def parseWith (labels : List (List Char)) (raw : String) : TestCase :=
  ofChunks (pieces labels raw.toList).chunks

/-- Reads a row. Values whose markers are missing are empty, and chunks past the ninth are ignored. -/
def parse (raw : String) : TestCase :=
  parseWith labels raw

def renderPair (pair : String × String) : String :=
  pair.1 ++ ": " ++ pair.2

def renderPairs (pairs : List (String × String)) : String :=
  ", ".intercalate (pairs.map renderPair)

def render (t : TestCase) : String :=
  renderPairs (labelTexts.zip t.toFields)

/-! ## Nothing is lost -/

theorem labelLength?_pos {labels : List (List Char)} {s : List Char} {n : Nat}
    (h : labelLength? labels s = some n) : 0 < n := by
  obtain ⟨label, _, rfl⟩ := Option.map_eq_some_iff.1 h
  omega

theorem markerLength?_pos {labels : List (List Char)} {s : List Char} {n : Nat}
    (h : markerLength? labels s = some n) : 0 < n := by
  unfold markerLength? at h
  split at h
  · rcases Option.or_eq_some_iff.1 h with h | ⟨_, h⟩
    · obtain ⟨m, _, rfl⟩ := Option.map_eq_some_iff.1 h
      omega
    · exact labelLength?_pos h
  · exact labelLength?_pos h

theorem join_pieces (labels : List (List Char)) (s : List Char) :
    (pieces labels s).join = s :=
  Text.join_cut (fun _ _ => markerLength?_pos) s

end SheetSuite.Row
