import SheetSuite.Http.Server
import SheetSuite.Text.Cut
import SheetSuite.Text.Utf8

namespace SheetSuite.Http.Wire

def request (address target : String) : String :=
  "GET " ++ target ++ " HTTP/1.0\r\nHost: " ++ address ++ "\r\nAccept: */*\r\n\r\n"

def splitHead? : List UInt8 → Option (List UInt8 × List UInt8)
  | 13 :: 10 :: 13 :: 10 :: body => some ([], body)
  | b :: rest => (splitHead? rest).map fun (head, body) => (b :: head, body)
  | [] => none

def lines (head : List UInt8) : List (List Char) :=
  (Text.split (· == '\n') (Text.lossy head).toList).map fun line =>
    if line.getLast? == some '\r' then line.dropLast else line

def statusLine? : List Char → Option (Nat × String)
  | 'H' :: 'T' :: 'T' :: 'P' :: '/' :: '1' :: '.' :: _ :: ' ' :: rest =>
    let digits := rest.takeWhile Char.isDigit
    if digits.length = 3 then
      some (digits.foldl (fun n c => n * 10 + (c.toNat - 48)) 0, String.ofList (rest.drop 4))
    else none
  | _ => none

def header? (line : List Char) : Option (String × String) :=
  let name := line.takeWhile (· != ':')
  match line.drop name.length with
  | _ :: value => some (String.ofList name, String.ofList (value.dropWhile (· == ' ')))
  | [] => none

def announcedLength? (headers : List (String × String)) : Option Nat :=
  (headers.find? fun (name, _) => name.map Char.toLower == "content-length").bind fun (_, value) =>
    value.toNat?

/-- The body, which is broken if less came than was announced. -/
def body (headers : List (String × String)) (bytes : List UInt8) : Body :=
  match announcedLength? headers with
  | none => .whole bytes
  | some n => if bytes.length < n then .broken else .whole (bytes.take n)

def answer? (bytes : List UInt8) : Option Answer := do
  let (head, rest) ← splitHead? bytes
  match lines head with
  | [] => none
  | first :: others =>
    let (status, reason) ← statusLine? first
    let headers ← others.mapM header?
    return { status, reason, headers, body := body headers rest }

def reply (bytes : List UInt8) : Reply :=
  match answer? bytes with
  | some answer => .answer answer
  | none => .rubbish

end SheetSuite.Http.Wire
