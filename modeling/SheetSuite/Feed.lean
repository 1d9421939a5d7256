import SheetSuite.Json.Record
import SheetSuite.Json.Write

namespace SheetSuite

structure Entry where
  text : String
  deriving Repr, DecidableEq, Inhabited

abbrev Feed := List Entry

def Json.Record.single {α β : Type} (name field : String) (make : α → β) : Json.Record α β where
  name := name
  fields := [field]
  build look := match look field with
    | some a => .ok (make a)
    | none => .error field

namespace Entry

def contentRecord : Json.Record String String := .single "FeedContent" "$t" id

def record : Json.Record String Entry := .single "FeedEntry" "content" Entry.mk

def read : Json.Reader Entry :=
  record.read (contentRecord.read Json.text)

def decode (text : String) : Except Json.Error Entry :=
  Json.decode read text

def encode (e : Entry) : String :=
  let content := Json.writeObject .compact 1 [("$t", Json.writeString e.text)]
  String.ofList (Json.writeObject .compact 0 [("content", content)])

end Entry

namespace Feed

/-- The body of a feed. Without entries, the list is empty. -/
def bodyRecord : Json.Record Feed Feed where
  name := "FeedBody"
  fields := ["entry"]
  build look := .ok ((look "entry").getD [])

def record : Json.Record Feed Feed := .single "Feed" "feed" id

def read : Json.Reader Feed :=
  record.read (bodyRecord.read (Json.list Entry.read))

def decode (text : String) : Except Json.Error Feed :=
  Json.decode read text

end Feed

end SheetSuite
