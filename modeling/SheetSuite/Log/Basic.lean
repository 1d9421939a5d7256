import SheetSuite.Json.Write

namespace SheetSuite.Log

inductive Level where
  | error
  | warn
  | info
  | debug
  | trace
  deriving Repr, DecidableEq

namespace Level

def name : Level → String
  | error => "ERROR"
  | warn => "WARN"
  | info => "INFO"
  | debug => "DEBUG"
  | trace => "TRACE"

def rank : Level → Nat
  | error => 1
  | warn => 2
  | info => 3
  | debug => 4
  | trace => 5

end Level

inductive Origin where
  | program
  | engine
  | pipeline
  | storage
  deriving Repr, DecidableEq

def Origin.name : Origin → String
  | program => "update_suite"
  | engine => "update_suite::core::etl"
  | pipeline => "update_suite::core::pipeline"
  | storage => "update_suite::config::storage"

structure Event where
  level : Level
  origin : Origin
  message : String
  deriving Repr, DecidableEq

inductive Style where
  | plain
  | json
  deriving Repr, DecidableEq

def plainChar (c : Char) : String :=
  match c with
  | '\x1b' => "\\x1b"
  | '\x07' => "\\x07"
  | '\x08' => "\\x08"
  | '\x0c' => "\\x0c"
  | '\x7f' => "\\x7f"
  | c =>
    if 0x80 ≤ c.toNat && c.toNat ≤ 0x9F then
      "\\u\x7b" ++ String.ofList (Nat.toDigits 16 c.toNat) ++ "\x7d"
    else c.toString

def Event.show (style : Style) (e : Event) : String :=
  match style with
  | .plain => e.level.name ++ " " ++ String.join (e.message.toList.map plainChar)
  | .json =>
    "\x7b\"level\":\"" ++ e.level.name ++ "\",\"fields\":\x7b\"message\":" ++
      String.ofList (Json.writeString e.message) ++ "\x7d\x7d"

end SheetSuite.Log
