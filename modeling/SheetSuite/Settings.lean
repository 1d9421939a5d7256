import SheetSuite.Failure
import SheetSuite.FileTree.Operations
import SheetSuite.Json.Write
import SheetSuite.Template
import SheetSuite.Text.Utf8
import SheetSuite.Toml.Parser

/-!
# Settings

What a run needs to know: the feed to download, the directory for the suite, how long to wait, and whether to
indent. Settings are checked in that order before anything is done.

A configuration file is a TOML document with two tables: `source` says where the feed is, `load` where
the suite goes. Before it is read, references to environment variables are replaced in its text.
Tables are read in the order of their keys. A value that does not fit is reported before a key that is
missing, and a table may also be given as the list of all its values.
-/

namespace SheetSuite

structure Settings where
  feedUrl : String
  outputDir : Path
  timeoutSeconds : Option Nat := none
  pretty : Bool := false
  deriving Repr, DecidableEq

structure Settings.Names where
  feedUrl : String
  outputDir : String
  timeoutSeconds : String
  deriving Repr, DecidableEq

namespace Settings

def refuse (field value : String) (problem? : Option Setting.Problem) : Except Failure Unit :=
  match problem? with
  | some problem => .error (.setting field value problem)
  | none => .ok ()

def validate (names : Names) (s : Settings) : Except Failure Unit := do
  refuse names.feedUrl s.feedUrl (Setting.urlProblem? s.feedUrl)
  refuse names.outputDir s.outputDir (Setting.pathProblem? s.outputDir)
  match s.timeoutSeconds with
  | some n => refuse names.timeoutSeconds (toString n) (Setting.numberProblem? n 1)
  | none => .ok ()

def layout (s : Settings) : Json.Layout :=
  if s.pretty then .indented else .compact

/-! ## Configuration files -/

open Toml

inductive Misfit where
  | wrongType (found : Found) (expected : String)
  | wrongValue (found : Found) (expected : String)
  | missing (field : String)
  | wrongLength (length : Nat) (expected : String)
  | tooWide
  deriving Repr, DecidableEq

/-- The misfit in words. A number that fits no width is not described. -/
def Misfit.detail : Misfit → Option String
  | wrongType found expected => some ("invalid type: " ++ found.describe ++ ", expected " ++ expected)
  | wrongValue found expected => some ("invalid value: " ++ found.describe ++ ", expected " ++ expected)
  | missing field => some ("missing field `" ++ field ++ "`")
  | wrongLength length expected =>
    some ("invalid length " ++ toString length ++ ", expected " ++ expected)
  | tooWide => none

def fullWord : Int := 0x10000000000000000

def halfWord : Int := 0x8000000000000000

/-- A whole number as messages name it, by the narrowest width that it fits. -/
def integerFound? (n : Int) : Option Found :=
  if -halfWord ≤ n ∧ n < fullWord then some (.integer n)
  else if -(halfWord * fullWord) ≤ n ∧ n < halfWord * fullWord then some (.wideInteger n "i128")
  else if 0 ≤ n ∧ n < fullWord * fullWord then some (.wideInteger n "u128")
  else none

/-- A value as messages name it. A date counts as a table. -/
def found? : Value → Option Found
  | .string s => some (.string s)
  | .integer n => integerFound? n
  | .float shown => some (.float shown)
  | .boolean b => some (.boolean b)
  | .datetime => some .map
  | .array .. => some .sequence
  | .table .. => some .map

def misfit (expected : String) (v : Value) : Misfit :=
  match found? v with
  | some found => .wrongType found expected
  | none => .tooWide

def text (v : Value) : Except Misfit String :=
  match v with
  | .string s => .ok s
  | v => .error (misfit "a string" v)

def flag (v : Value) : Except Misfit Bool :=
  match v with
  | .boolean b => .ok b
  | v => .error (misfit "a boolean" v)

def word (v : Value) : Except Misfit Nat :=
  match v with
  | .integer n =>
    if 0 ≤ n ∧ n < fullWord then .ok n.toNat
    else if -halfWord ≤ n ∧ n < 0 then .error (.wrongValue (.integer n) "u64")
    else .error (misfit "u64" v)
  | v => .error (misfit "u64" v)

/-- A table of two keys, the first of which is needed; the names are in the order of the alphabet. -/
structure Section (α β : Type) where
  name : String
  first : String
  second : String
  readFirst : Value → Except Misfit α
  readSecond : Value → Except Misfit β

namespace Section

variable {α β : Type}

def optional {γ : Type} (read : Value → Except Misfit γ) : Option Value → Except Misfit (Option γ)
  | some v => do return some (← read v)
  | none => .ok none

def ofEntries (s : Section α β) (entries : Entries) : Except Misfit (α × Option β) := do
  let a ← optional s.readFirst (entries.lookup s.first)
  let b ← optional s.readSecond (entries.lookup s.second)
  match a with
  | some a => .ok (a, b)
  | none => .error (.missing s.first)

def ofItems (s : Section α β) (items : List Value) : Except Misfit (α × Option β) :=
  let expected := "struct " ++ s.name ++ " with 2 elements"
  match items with
  | [] => .error (.wrongLength 0 expected)
  | [v] => do
    let _ ← s.readFirst v
    .error (.wrongLength 1 expected)
  | v :: w :: _ => do
    let a ← s.readFirst v
    let b ← s.readSecond w
    .ok (a, some b)

def read (s : Section α β) (v : Value) : Except Misfit (α × Option β) :=
  match v with
  | .table _ entries => s.ofEntries entries
  | .array _ items => s.ofItems items
  | .datetime => s.ofEntries []
  | v => .error (misfit ("struct " ++ s.name) v)

end Section

def sourceSection : Section String Nat where
  name := "SourceConfig"
  first := "endpoint"
  second := "timeout_seconds"
  readFirst := text
  readSecond := word

def loadSection : Section String Bool where
  name := "LoadConfig"
  first := "output_dir"
  second := "pretty"
  readFirst := text
  readSecond := flag

def ofEntries (entries : Entries) : Except Misfit Settings := do
  let load ← Section.optional loadSection.read (entries.lookup "load")
  let source ← Section.optional sourceSection.read (entries.lookup "source")
  match source, load with
  | some (feedUrl, timeoutSeconds), some (outputDir, pretty) =>
    .ok { feedUrl, outputDir, timeoutSeconds, pretty := pretty.getD false }
  | none, _ => .error (.missing "source")
  | _, none => .error (.missing "load")

def ofText (env : Environment) (input : String) : Except Failure Settings :=
  match document? (Template.expand env.value? input) with
  | none => .error (.config (.malformed none))
  | some entries =>
    match ofEntries entries with
    | .ok settings => .ok settings
    | .error misfit => .error (.config (.malformed misfit.detail))

def readText (t : FileTree) (path : Path) : Except FileFault String := do
  match Text.strict? (← t.read path) with
  | some text => .ok text
  | none => .error .notText

def ofFile (env : Environment) (t : FileTree) (path : Path) : Except Failure Settings :=
  match readText t path with
  | .ok text => ofText env text
  | .error fault => .error (.config (.unreadable path fault))

def fileNames : Names where
  feedUrl := "source.endpoint"
  outputDir := "load.output_dir"
  timeoutSeconds := "source.timeout_seconds"

end Settings

end SheetSuite
