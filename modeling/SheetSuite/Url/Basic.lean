import SheetSuite.Text.Utf8
import SheetSuite.Url.Domain

namespace SheetSuite

inductive Url.Fault where
  | emptyHost
  | invalidDomain
  | invalidPort
  | invalidVersion4
  | invalidVersion6
  | invalidHostCharacter
  | relative
  deriving Repr, DecidableEq

def Url.Fault.message : Url.Fault → String
  | emptyHost => "empty host"
  | invalidDomain => "invalid international domain name"
  | invalidPort => "invalid port number"
  | invalidVersion4 => "invalid IPv4 address"
  | invalidVersion6 => "invalid IPv6 address"
  | invalidHostCharacter => "invalid domain character"
  | relative => "relative URL without a base"

inductive Url.Host where
  | domain (name : String)
  | version4 (address : Nat)
  | version6 (pieces : List Nat)
  deriving Repr, DecidableEq

def Url.Host.text : Url.Host → String
  | domain name => name
  | version4 address => Url.showVersion4 address
  | version6 pieces => "[" ++ Url.showVersion6 pieces ++ "]"

structure Url.Authority where
  user : String := ""
  password : Option String := none
  host : Url.Host
  port : Option Nat := none
  deriving Repr, DecidableEq

def Url.Authority.text (a : Url.Authority) : String :=
  let password := match a.password with
    | some p => ":" ++ p
    | none => ""
  let at_ := if a.user.isEmpty && a.password.isNone then "" else "@"
  let port := match a.port with
    | some n => ":" ++ toString n
    | none => ""
  a.user ++ password ++ at_ ++ a.host.text ++ port

structure Url where
  scheme : String
  authority : Option Url.Authority := none
  path : String := ""
  query : Option String := none
  fragment : Option String := none
  deriving Repr, DecidableEq

namespace Url

def escapedAlways (c : Char) : Bool :=
  c.toNat < 0x20 || 0x7E < c.toNat

def escapedInFragment (c : Char) : Bool :=
  escapedAlways c || c == ' ' || c == '"' || c == '<' || c == '>' || c == '\x60'

def escapedInPath (c : Char) : Bool :=
  escapedInFragment c || c == '#' || c == '?' || c == '{' || c == '}'

def escapedInUser (c : Char) : Bool :=
  escapedInPath c || c == '/' || c == ':' || c == ';' || c == '=' || c == '@' || c == '[' ||
    c == '\\' || c == ']' || c == '^' || c == '|'

/-- The characters that are escaped in a query. The apostrophe is among them for web addresses. -/
def escapedInQuery (special : Bool) (c : Char) : Bool :=
  escapedAlways c || c == ' ' || c == '"' || c == '#' || c == '<' || c == '>' ||
    (special && c == '\'')

def hexCapital (n : Nat) : Char :=
  (Nat.digitChar n).toUpper

def escapeByte (b : UInt8) : List Char :=
  ['%', hexCapital (b.toNat / 16), hexCapital (b.toNat % 16)]

def escape (escaped : Char → Bool) (s : List Char) : List Char :=
  s.flatMap fun c => if escaped c then (Text.utf8 [c]).flatMap escapeByte else [c]

/-- The bytes of a text with its escapes resolved. A percent sign that starts no escape is kept. -/
def unescape : List Char → List UInt8
  | '%' :: a :: b :: rest =>
    match hexValue? a, hexValue? b with
    | some x, some y => (x * 16 + y).toUInt8 :: unescape rest
    | _, _ => 37 :: unescape (a :: b :: rest)
  | c :: rest => Text.utf8 [c] ++ unescape rest
  | [] => []

/-- The text of a URL without its fragment. A path that starts with two slashes is kept apart from an
authority by a dot. -/
def textWithoutFragment (u : Url) : String :=
  let authority := match u.authority with
    | some a => "//" ++ a.text
    | none => if u.path.toList.take 2 = ['/', '/'] then "/." else ""
  let query := match u.query with
    | some q => "?" ++ q
    | none => ""
  u.scheme ++ ":" ++ authority ++ u.path ++ query

def text (u : Url) : String :=
  u.textWithoutFragment ++ match u.fragment with
    | some f => "#" ++ f
    | none => ""

def isWeb (u : Url) : Bool :=
  u.scheme == "http" || u.scheme == "https"

def readable? (part : String) : Option String :=
  Text.strict? (unescape part.toList)

/-- A URL without user and password, as it is shown. They are left in place if neither can be read. -/
def withoutUser (u : Url) : Url :=
  match u.authority with
  | none => u
  | some a =>
    match readable? a.user with
    | none => u
    | some user =>
      if user.isEmpty && (a.password.bind readable?).isNone then u
      else { u with authority := some { a with user := "", password := none } }

end Url

end SheetSuite
