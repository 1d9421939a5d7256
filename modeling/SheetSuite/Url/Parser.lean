import SheetSuite.Url.Basic

namespace SheetSuite.Url

def isLineBreak (c : Char) : Bool :=
  c == '\t' || c == '\n' || c == '\r'

def clean (s : List Char) : List Char :=
  let isOuter (c : Char) : Bool := c.toNat ≤ 0x20
  let s := s.dropWhile isOuter
  let s := (s.reverse.dropWhile isOuter).reverse
  s.filter (!isLineBreak ·)

inductive SchemeKind where
  | file
  | special
  | other
  deriving Repr, DecidableEq

def schemeKind (scheme : String) : SchemeKind :=
  if scheme == "file" then .file
  else if ["http", "https", "ws", "wss", "ftp"].contains scheme then .special
  else .other

def defaultPort? (scheme : String) : Option Nat :=
  match scheme with
  | "http" => some 80
  | "ws" => some 80
  | "https" => some 443
  | "wss" => some 443
  | "ftp" => some 21
  | _ => none

/-- Backslashes count as slashes in URLs of special schemes. -/
def isSlash (kind : SchemeKind) (c : Char) : Bool :=
  c == '/' || (kind != .other && c == '\\')

def endsAuthority (kind : SchemeKind) (c : Char) : Bool :=
  isSlash kind c || c == '?' || c == '#'

def scheme? (s : List Char) : Option (String × List Char) :=
  match s with
  | [] => none
  | c :: _ =>
    if !c.isAlpha then none
    else
      let isPart (c : Char) : Bool := c.isAlphanum || c == '+' || c == '-' || c == '.'
      match s.dropWhile isPart with
      | ':' :: rest => some (String.ofList ((s.takeWhile isPart).map Char.toLower), rest)
      | _ => none

def splitUser? (kind : SchemeKind) (s : List Char) : Option (List Char × List Char) :=
  let authority := s.takeWhile (!endsAuthority kind ·)
  let (tail, head) := authority.reverse.span (· != '@')
  match head with
  | [] => none
  | _ :: user => some (user.reverse, s.drop (authority.length - tail.length))

def userAndPassword (s : List Char) : String × Option String :=
  let (user, rest) := s.span (· != ':')
  let written (part : List Char) : String := String.ofList (escape escapedInUser part)
  match rest with
  | [] => (written user, none)
  | [_] => (written user, none)
  | _ :: password => (written user, some (written password))

/-- The text of a host, and what follows it. A colon between brackets belongs to the host. -/
def hostText (kind : SchemeKind) (bracketed : Bool) : List Char → List Char × List Char
  | [] => ([], [])
  | c :: rest =>
    if endsAuthority kind c || (c == ':' && !bracketed) then ([], c :: rest)
    else
      let (host, tail) := hostText kind (if c == '[' then true else if c == ']' then false else bracketed) rest
      (c :: host, tail)

def bracketHost (s : List Char) : Except Fault Host :=
  if s.getLast? = some ']' then
    match version6? (s.drop 1).dropLast with
    | some pieces => .ok (.version6 pieces)
    | none => .error .invalidVersion6
  else .error .invalidVersion6

def domainHost (s : List Char) : Except Fault Host :=
  if s.head? = some '[' then bracketHost s
  else match (Text.strict? (unescape s)).bind fun name => Domain.toAscii? name.toList with
    | none => .error .invalidDomain
    | some [] => .error .emptyHost
    | some name =>
      if endsInNumber name then
        match version4? name with
        | some n => .ok (.version4 n)
        | none => .error .invalidVersion4
      else .ok (.domain (String.ofList name))

def isForbiddenInHost (c : Char) : Bool :=
  c == '\x00' || c == '\t' || c == '\n' || c == '\r' || c == ' ' || c == '#' || c == '/' || c == ':' ||
    c == '<' || c == '>' || c == '?' || c == '@' || c == '[' || c == '\\' || c == ']' || c == '^' ||
    c == '|'

def opaqueHost (s : List Char) : Except Fault Host :=
  if s.head? = some '[' then bracketHost s
  else if s.any isForbiddenInHost then .error .invalidHostCharacter
  else .ok (.domain (String.ofList (escape escapedAlways s)))

/-- The number of a port, and what follows it. The port of the scheme is as good as none. -/
def port (scheme : String) (s : List Char) : Except Fault (Option Nat × List Char) :=
  let digits := s.takeWhile Char.isDigit
  let rest := s.dropWhile Char.isDigit
  let n := digits.foldl (fun n c => n * 10 + (c.toNat - 48)) 0
  let ends := match rest with
    | [] => true
    | c :: _ => c == '/' || c == '\\' || c == '?' || c == '#'
  if 65535 < n || !ends then .error .invalidPort
  else .ok (if digits.isEmpty || defaultPort? scheme = some n then none else some n, rest)

def hostAndPort (scheme : String) (s : List Char) :
    Except Fault (Host × Option Nat × List Char) := do
  let kind := schemeKind scheme
  let (host, rest) := hostText kind false s
  if host.isEmpty && (kind == .special || rest.head? = some ':') then .error .emptyHost
  else
    let host ← if kind == .special then domainHost host else opaqueHost host
    match rest with
    | ':' :: tail =>
      let (port, rest) ← port scheme tail
      .ok (host, port, rest)
    | _ => .ok (host, none, rest)

def readAuthority (scheme : String) (s : List Char) : Except Fault (Authority × List Char) := do
  let kind := schemeKind scheme
  match splitUser? kind s with
  | none =>
    let (host, port, rest) ← hostAndPort scheme s
    .ok ({ host, port }, rest)
  | some (user, rest) =>
    if user.isEmpty && rest.head?.any (endsAuthority kind) then .error .emptyHost
    else
      let (host, port, rest) ← hostAndPort scheme rest
      let (user, password) := userAndPassword user
      if host = .domain "" && !(user.isEmpty && password.isNone) then .error .emptyHost
      else .ok ({ user, password, host, port }, rest)

def isSingleDot (s : List Char) : Bool :=
  s == ['.'] || s.map Char.toLower == ['%', '2', 'e']

def isDoubleDot (s : List Char) : Bool :=
  let dot : List Char := ['%', '2', 'e']
  let t := s.map Char.toLower
  t == ['.', '.'] || t == '.' :: dot || t == dot ++ ['.'] || t == dot ++ dot

def isDrive (s : List Char) : Bool :=
  match s with
  | [c, d] => c.isAlpha && (d == ':' || d == '|')
  | _ => false

/-- Removes the last segment of a reversed path. The drive of a file stays. -/
def shorten (kind : SchemeKind) (path : List (List Char)) : List (List Char) :=
  match path with
  | [] => []
  | [segment] => if kind == .file && isDrive segment then path else []
  | _ :: rest => rest

/-- Resolves dots in the segments of a path; `done` are those already passed, reversed. -/
def resolveDots (kind : SchemeKind) (done : List (List Char)) :
    List (List Char) → List (List Char)
  | [] => done.reverse
  | segment :: rest =>
    if isDoubleDot segment then
      let done := shorten kind done
      resolveDots kind (if rest.isEmpty then [] :: done else done) rest
    else if isSingleDot segment then
      resolveDots kind (if rest.isEmpty then [] :: done else done) rest
    else
      let segment :=
        if kind == .file && done.isEmpty && isDrive segment then segment.take 1 ++ [':'] else segment
      resolveDots kind (segment :: done) rest

def pathText (segments : List (List Char)) : String :=
  String.ofList (segments.flatMap ('/' :: ·))

def segmentsPath (kind : SchemeKind) (s : List Char) : String :=
  let segments := (Text.split (isSlash kind) s).map (escape escapedInPath)
  let segments := resolveDots kind [] segments
  if kind == .file then
    match segments.dropWhile List.isEmpty with
    | [] => "/"
    | segments => pathText segments
  else pathText segments

def pathAfterAuthority (kind : SchemeKind) (s : List Char) : String :=
  match s with
  | [] => if kind == .other then "" else "/"
  | c :: rest => if isSlash kind c then segmentsPath kind rest else segmentsPath kind s

def cutQuery (s : List Char) : List Char × Option (List Char) × Option (List Char) :=
  let (front, fragment) := s.span (· != '#')
  let (path, query) := front.span (· != '?')
  (path, if query.isEmpty then none else some (query.drop 1),
    if fragment.isEmpty then none else some (fragment.drop 1))

/-- A URL with the path, query and fragment that a text gives; `path` reads the path. -/
def withTail (scheme : String) (authority : Option Authority) (path : List Char → String)
    (s : List Char) : Url :=
  let (front, query, fragment) := cutQuery s
  { scheme, authority
    path := path front
    query := query.map fun q =>
      String.ofList (escape (escapedInQuery (schemeKind scheme != .other)) q)
    fragment := fragment.map fun f => String.ofList (escape escapedInFragment f) }

/-- The host of a file URL, and what follows it. A drive is no host but the start of the path. -/
def fileHost (s : List Char) : Except Fault (Host × List Char) :=
  let name := s.takeWhile (!endsAuthority .file ·)
  let rest := s.drop name.length
  if isDrive name then .ok (.domain "", s)
  else if name.isEmpty then .ok (.domain "", rest)
  else do
    let host ← domainHost name
    .ok (if host = .domain "localhost" then .domain "" else host, rest)

/-- A file URL after its colon. A host is dropped if the path starts with a drive. -/
def fileUrl (s : List Char) : Except Fault Url :=
  let url (host : Host) (rest : List Char) : Url :=
    let u := withTail "file" (some { host }) (pathAfterAuthority .file) rest
    match u.path.toList with
    | ['/', a, ':'] => if a.isAlpha then { u with authority := some { host := .domain "" } } else u
    | '/' :: a :: ':' :: '/' :: _ =>
      if a.isAlpha then { u with authority := some { host := .domain "" } } else u
    | _ => u
  match s with
  | a :: b :: rest =>
    if isSlash .file a && isSlash .file b then do
      let (host, rest) ← fileHost rest
      .ok (url host rest)
    else .ok (url (.domain "") s)
  | _ => .ok (url (.domain "") s)

def otherUrl (scheme : String) (s : List Char) : Except Fault Url :=
  match s with
  | '/' :: '/' :: rest => do
    let (authority, rest) ← readAuthority scheme rest
    .ok (withTail scheme (some authority) (pathAfterAuthority .other) rest)
  | '/' :: rest => .ok (withTail scheme none (segmentsPath .other) rest)
  | _ => .ok (withTail scheme none (fun path => String.ofList (escape escapedAlways path)) s)

def parse (input : String) : Except Fault Url :=
  match scheme? (clean input.toList) with
  | none => .error .relative
  | some (scheme, rest) =>
    match schemeKind scheme with
    | .file => fileUrl rest
    | .other => otherUrl scheme rest
    | .special => do
      let (authority, rest) ← readAuthority scheme (rest.dropWhile (isSlash .special))
      .ok (withTail scheme (some authority) (pathAfterAuthority .special) rest)

end SheetSuite.Url
