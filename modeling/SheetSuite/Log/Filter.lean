import SheetSuite.Log.Basic
import SheetSuite.Text.Cut

/-!
# Which events are shown

A filter is a list of directives with commas between them. A directive `origin=level` shows the events of
every origin whose name starts so, up to the level; a level alone is for all origins, and an origin alone
shows everything. Among the directives that fit an event, the one with the longest name decides, and the
last one of those with the same name. An event that no directive fits is not shown.
-/

namespace SheetSuite.Log

structure Directive where
  origin : String
  rank : Nat
  /-- The directive asks for a span, which no event of this program has. -/
  inSpan : Bool := false
  deriving Repr, DecidableEq

def allRanks : Nat := 5

def rank? (s : List Char) : Option Nat :=
  let digits := match s with
    | '+' :: ds => ds
    | ds => ds
  if !digits.isEmpty && digits.all Char.isDigit then
    let n := digits.foldl (fun n c => n * 10 + (c.toNat - 48)) 0
    if n ≤ allRanks then some n else none
  else
    let names := ["off", "error", "warn", "info", "debug", "trace"]
    names.findIdx? (· == String.ofList (s.map Char.toLower))

def mayStart (c : Char) : Bool :=
  c.isAlphanum || 0x80 ≤ c.toNat || c == '-' || c == ':' || c == '_'

def plainDirective? (s : List Char) : Option Directive :=
  let name := s.takeWhile (· != '=')
  match s.drop name.length with
  | [] =>
    match rank? name with
    | some rank => some ⟨"", rank, false⟩
    | none => some ⟨String.ofList name, allRanks, false⟩
  | [_] => some ⟨String.ofList name, allRanks, false⟩
  | _ :: level => (rank? level).map fun rank => ⟨String.ofList name, rank, false⟩

def spanDirective? (origin : String) (s : List Char) : Option Directive :=
  let span := s.takeWhile (· != ']')
  match s.drop span.length with
  | [] => some ⟨origin, allRanks, true⟩
  | [_] => some ⟨origin, allRanks, true⟩
  | [_, '='] => some ⟨origin, allRanks, true⟩
  | _ :: '=' :: level => (rank? level).map fun rank => ⟨origin, rank, true⟩
  | _ => none

/-- Reads a directive. Blanks before it belong to the name of its origin, after which no level is read. -/
def directive? (s : List Char) : Option Directive :=
  match Text.trimStart s with
  | [] => some ⟨"", allRanks, false⟩
  | '[' :: rest => spanDirective? "" rest
  | c :: rest =>
    if !mayStart c then none
    else if rest.length + 1 < s.length then
      if rest.contains '=' then none else some ⟨String.ofList s, allRanks, false⟩
    else
      let name := s.takeWhile fun c => c != '=' && c != '['
      match s.drop name.length with
      | '[' :: rest => spanDirective? (String.ofList name) rest
      | _ => plainDirective? s

abbrev Filter := List Directive

namespace Filter

def parse? (s : String) : Option Filter :=
  ((Text.split (· == ',') s.toList).filter (!·.isEmpty)).mapM directive?

def fits (e : Event) (d : Directive) : Bool :=
  !d.inSpan && d.origin.toList.isPrefixOf e.origin.name.toList

def rankFor (f : Filter) (e : Event) : Nat :=
  (f.filter (fits e)).foldl
    (fun best d => if best.origin.length ≤ d.origin.length then d else best)
    ⟨"", 0, false⟩ |>.rank

def shows (f : Filter) (e : Event) : Bool :=
  e.level.rank ≤ f.rankFor e

/-- What is shown if nobody says otherwise: the milestones of this program, or also its details. -/
def standard (verbose : Bool) : Filter :=
  if verbose then [⟨"update_suite", Level.debug.rank, false⟩, ⟨"", Level.info.rank, false⟩]
  else [⟨"update_suite", Level.info.rank, false⟩]

def choose (request : Option String) (verbose : Bool) : Filter :=
  match request.bind parse? with
  | some filter => filter
  | none => standard verbose

end Filter

end SheetSuite.Log
