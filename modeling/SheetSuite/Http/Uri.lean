import SheetSuite.Text.Cut

namespace SheetSuite.Http

structure Uri where
  scheme : String
  authority : String
  path : String
  query : Option String := none
  deriving Repr, DecidableEq

namespace Uri

def target (u : Uri) : String :=
  (if u.path.isEmpty then "/" else u.path) ++ match u.query with
    | some q => "?" ++ q
    | none => ""

def text (u : Uri) : String :=
  u.scheme ++ "://" ++ u.authority ++ u.target

def server (u : Uri) : String :=
  String.ofList (u.authority.toList.reverse.takeWhile (· != '@')).reverse

end Uri

structure Reference where
  scheme : Option String
  authority : Option String
  path : String
  query : Option String
  deriving Repr, DecidableEq

def isPlain (c : Char) : Bool :=
  c.isAlphanum || "-._~!$&'()*+,;=:@".toList.contains c

def isPart (extra : List Char) : List Char → Bool
  | '%' :: a :: b :: rest =>
    let isHex (c : Char) : Bool := c.isDigit || ('a' ≤ c && c ≤ 'f') || ('A' ≤ c && c ≤ 'F')
    isHex a && isHex b && isPart extra rest
  | c :: rest => (isPlain c || extra.contains c) && isPart extra rest
  | [] => true

def cutAt (c : Char) (s : List Char) : List Char × Option (List Char) :=
  match s.dropWhile (· != c) with
  | [] => (s, none)
  | _ :: rest => (s.takeWhile (· != c), some rest)

def isScheme (s : List Char) : Bool :=
  match s with
  | [] => false
  | c :: rest => c.isAlpha && rest.all fun c => c.isAlphanum || c == '+' || c == '-' || c == '.'

def splitScheme? (s : List Char) : Option (Option String × List Char) :=
  let first := s.takeWhile (· != '/')
  match cutAt ':' first with
  | (_, none) => some (none, s)
  | (scheme, some _) =>
    if isScheme scheme then
      some (some (String.ofList (scheme.map Char.toLower)), s.drop (scheme.length + 1))
    else none

def splitAuthority (s : List Char) : Option (List Char) × List Char :=
  match s with
  | '/' :: '/' :: rest =>
    let authority := rest.takeWhile (· != '/')
    (some authority, rest.drop authority.length)
  | _ => (none, s)

def reference? (input : String) : Option Reference := do
  let (s, fragment) := cutAt '#' input.toList
  let (s, query) := cutAt '?' s
  let (scheme, s) ← splitScheme? s
  let (authority, path) := splitAuthority s
  if isPart ['/', '?'] (fragment.getD []) && isPart ['/', '?'] (query.getD []) &&
      isPart ['[', ']'] (authority.getD []) && isPart ['/'] path then
    some
      { scheme
        authority := authority.map String.ofList
        path := String.ofList path
        query := query.map String.ofList }
  else none

/-- Resolves dots in the segments of a path; `done` are those already passed, reversed. -/
def removeDots (done : List (List Char)) : List (List Char) → List (List Char)
  | [] => done.reverse
  | ['.'] :: rest => removeDots (if rest.isEmpty then [] :: done else done) rest
  | ['.', '.'] :: rest => removeDots (if rest.isEmpty then [] :: done.tail else done.tail) rest
  | segment :: rest => removeDots (segment :: done) rest

def withoutDots (path : String) : String :=
  match path.toList with
  | '/' :: rest =>
    String.ofList ((removeDots [] (Text.split (· == '/') rest)).flatMap ('/' :: ·))
  | _ => path

def mergePath (base path : String) : String :=
  let kept := (base.toList.reverse.dropWhile (· != '/')).reverse
  (if kept.isEmpty then "/" else String.ofList kept) ++ path

def relativeTo (base : Uri) (r : Reference) : Uri :=
  if r.path.isEmpty then { base with query := r.query.or base.query }
  else
    let path := if r.path.toList.head? = some '/' then r.path else mergePath base.path r.path
    { base with path := withoutDots path, query := r.query }

inductive Destination where
  | uri (u : Uri)
  | hostless (text : String)
  deriving Repr, DecidableEq

def Destination.text : Destination → String
  | uri u => u.text
  | hostless text => text

/-- Resolves the location of an answer against what was asked for. A location that is no reference, or
whose host is empty, leads nowhere. -/
def resolve? (base : Uri) (location : String) : Option Destination := do
  let r ← reference? location
  match r.scheme, r.authority with
  | some scheme, none =>
    if r.path.isEmpty || r.path.toList.contains '/' || r.query.isSome then none
    else some (.hostless (scheme ++ ":" ++ r.path))
  | scheme, some authority =>
    if authority.isEmpty then none
    else some (.uri ⟨scheme.getD base.scheme, authority, withoutDots r.path, r.query⟩)
  | none, none => some (.uri (relativeTo base r))

end SheetSuite.Http
