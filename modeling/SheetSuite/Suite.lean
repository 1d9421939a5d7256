import SheetSuite.Json.Record
import SheetSuite.Json.Write

namespace SheetSuite

structure TestCase where
  expr : String := ""
  localAnswer : String := ""
  serverAnswer : String := ""
  difference : String := ""
  reason : String := ""
  desugared : String := ""
  bytecode : String := ""
  pyretSource : String := ""
  pyretTree : String := ""
  deriving Repr, DecidableEq, Inhabited

abbrev Suite := List TestCase

namespace TestCase

def keys : List String :=
  ["expr", "local", "server", "difference", "reason", "desugar", "bytecode", "pyretSrc", "pyretAST"]

def toFields (t : TestCase) : List String :=
  [t.expr, t.localAnswer, t.serverAnswer, t.difference, t.reason, t.desugared, t.bytecode,
    t.pyretSource, t.pyretTree]

def ofFields (fields : List String) : TestCase where
  expr := fields.getD 0 ""
  localAnswer := fields.getD 1 ""
  serverAnswer := fields.getD 2 ""
  difference := fields.getD 3 ""
  reason := fields.getD 4 ""
  desugared := fields.getD 5 ""
  bytecode := fields.getD 6 ""
  pyretSource := fields.getD 7 ""
  pyretTree := fields.getD 8 ""

@[simp] theorem ofFields_toFields (t : TestCase) : ofFields t.toFields = t := rfl

@[simp] theorem length_toFields (t : TestCase) : t.toFields.length = 9 := rfl

@[simp] theorem length_keys : keys.length = 9 := rfl

/-- A test case; none of its nine texts may be absent, and the first one that is gets reported. -/
def record : Json.Record String TestCase where
  name := "TestCase"
  fields := keys
  build look := do
    let fields ← keys.mapM fun key => match look key with
      | some value => .ok value
      | none => .error key
    return ofFields fields

def read : Json.Reader TestCase :=
  record.read Json.text

def write (layout : Json.Layout) (depth : Nat) (t : TestCase) : List Char :=
  Json.writeObject layout depth (keys.zip (t.toFields.map Json.writeString))

end TestCase

namespace Suite

def read : Json.Reader Suite :=
  Json.list TestCase.read

def decode (text : String) : Except Json.Error Suite :=
  Json.decode read text

def encode (layout : Json.Layout) (suite : Suite) : String :=
  String.ofList (Json.writeList layout 0 (suite.map (TestCase.write layout 1)))

end Suite

end SheetSuite
