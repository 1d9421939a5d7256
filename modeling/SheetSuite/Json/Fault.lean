import SheetSuite.Text.Quoted

namespace SheetSuite

inductive Found where
  | null
  | boolean (b : Bool)
  | integer (n : Int)
  /-- A whole number that needs more than 64 bits, with the name of the width it fits. -/
  | wideInteger (n : Int) (width : String)
  | float (shown : String)
  | string (s : String)
  | sequence
  | map
  deriving Repr, DecidableEq

namespace Found

def describe : Found → String
  | null => "null"
  | boolean b => "boolean `" ++ (if b then "true" else "false") ++ "`"
  | integer n => "integer `" ++ toString n ++ "`"
  | wideInteger n width => "integer `" ++ toString n ++ "` as " ++ width
  | float shown => "floating point `" ++ shown ++ "`"
  | string s => "string " ++ Text.quoted s
  | sequence => "sequence"
  | map => "map"

end Found

namespace Json

inductive Cause where
  | endInValue
  | endInList
  | endInObject
  | endInString
  | expectedColon
  | expectedListEnd
  | expectedObjectEnd
  | expectedIdent
  | expectedValue
  | invalidEscape
  | invalidNumber
  | numberOutOfRange
  | loneSurrogate
  | halfSurrogatePair
  | controlCharacter
  | keyNotString
  | trailingComma
  | trailingCharacters
  | wrongType (found : Found) (expected : String)
  | missingField (name : String)
  | duplicateField (name : String)
  | wrongLength (length : Nat) (expected : String)
  deriving Repr, DecidableEq

namespace Cause

def message : Cause → String
  | endInValue => "EOF while parsing a value"
  | endInList => "EOF while parsing a list"
  | endInObject => "EOF while parsing an object"
  | endInString => "EOF while parsing a string"
  | expectedColon => "expected `:`"
  | expectedListEnd => "expected `,` or `]`"
  | expectedObjectEnd => "expected `,` or `\x7d`"
  | expectedIdent => "expected ident"
  | expectedValue => "expected value"
  | invalidEscape => "invalid escape"
  | invalidNumber => "invalid number"
  | numberOutOfRange => "number out of range"
  | loneSurrogate => "lone leading surrogate in hex escape"
  | halfSurrogatePair => "unexpected end of hex escape"
  | controlCharacter => "control character (\\u0000-\\u001F) found while parsing a string"
  | keyNotString => "key must be a string"
  | trailingComma => "trailing comma"
  | trailingCharacters => "trailing characters"
  | wrongType found expected => "invalid type: " ++ found.describe ++ ", expected " ++ expected
  | missingField name => "missing field `" ++ name ++ "`"
  | duplicateField name => "duplicate field `" ++ name ++ "`"
  | wrongLength length expected => "invalid length " ++ toString length ++ ", expected " ++ expected

end Cause

def byteLength : List Char → Nat
  | [] => 0
  | c :: s => c.utf8Size + byteLength s

/-- A cause with the number of bytes that were not consumed when it arose. -/
structure Fault where
  cause : Cause
  left : Nat
  deriving Repr, DecidableEq

namespace Fault

/-- A fault in what has just been consumed; `rest` is what follows. -/
def here (cause : Cause) (rest : List Char) : Fault :=
  ⟨cause, byteLength rest⟩

/-- A fault in the next byte, which counts as consumed if there is one. -/
def ahead (cause : Cause) (rest : List Char) : Fault :=
  ⟨cause, byteLength rest - 1⟩

end Fault

/-- A cause with its place: the line counted from one, and the number of bytes before the place in
that line. -/
structure Error where
  cause : Cause
  line : Nat
  column : Nat
  deriving Repr, DecidableEq

namespace Error

def place (bytes : List UInt8) : Nat × Nat :=
  let inLine := bytes.reverse.takeWhile (· != 10)
  (1 + bytes.count 10, inLine.length)

def ofFault (text : String) (fault : Fault) : Error :=
  let bytes := text.toUTF8.data.toList
  let (line, column) := place (bytes.take (bytes.length - fault.left))
  ⟨fault.cause, line, column⟩

def message (e : Error) : String :=
  e.cause.message ++ " at line " ++ toString e.line ++ " column " ++ toString e.column

end Error

end Json

end SheetSuite
