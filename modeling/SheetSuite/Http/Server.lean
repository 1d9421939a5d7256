namespace SheetSuite.Http

def phrase? (code : Nat) : Option String :=
  match code with
  | 100 => some "Continue"
  | 101 => some "Switching Protocols"
  | 102 => some "Processing"
  | 103 => some "Early Hints"
  | 200 => some "OK"
  | 201 => some "Created"
  | 202 => some "Accepted"
  | 203 => some "Non Authoritative Information"
  | 204 => some "No Content"
  | 205 => some "Reset Content"
  | 206 => some "Partial Content"
  | 207 => some "Multi-Status"
  | 208 => some "Already Reported"
  | 226 => some "IM Used"
  | 300 => some "Multiple Choices"
  | 301 => some "Moved Permanently"
  | 302 => some "Found"
  | 303 => some "See Other"
  | 304 => some "Not Modified"
  | 305 => some "Use Proxy"
  | 307 => some "Temporary Redirect"
  | 308 => some "Permanent Redirect"
  | 400 => some "Bad Request"
  | 401 => some "Unauthorized"
  | 402 => some "Payment Required"
  | 403 => some "Forbidden"
  | 404 => some "Not Found"
  | 405 => some "Method Not Allowed"
  | 406 => some "Not Acceptable"
  | 407 => some "Proxy Authentication Required"
  | 408 => some "Request Timeout"
  | 409 => some "Conflict"
  | 410 => some "Gone"
  | 411 => some "Length Required"
  | 412 => some "Precondition Failed"
  | 413 => some "Payload Too Large"
  | 414 => some "URI Too Long"
  | 415 => some "Unsupported Media Type"
  | 416 => some "Range Not Satisfiable"
  | 417 => some "Expectation Failed"
  | 418 => some "I'm a teapot"
  | 421 => some "Misdirected Request"
  | 422 => some "Unprocessable Entity"
  | 423 => some "Locked"
  | 424 => some "Failed Dependency"
  | 425 => some "Too Early"
  | 426 => some "Upgrade Required"
  | 428 => some "Precondition Required"
  | 429 => some "Too Many Requests"
  | 431 => some "Request Header Fields Too Large"
  | 451 => some "Unavailable For Legal Reasons"
  | 500 => some "Internal Server Error"
  | 501 => some "Not Implemented"
  | 502 => some "Bad Gateway"
  | 503 => some "Service Unavailable"
  | 504 => some "Gateway Timeout"
  | 505 => some "HTTP Version Not Supported"
  | 506 => some "Variant Also Negotiates"
  | 507 => some "Insufficient Storage"
  | 508 => some "Loop Detected"
  | 510 => some "Not Extended"
  | 511 => some "Network Authentication Required"
  | _ => none

def showStatus (code : Nat) : String :=
  toString code ++ " " ++ (phrase? code).getD "<unknown status code>"

def isClientError (code : Nat) : Bool :=
  400 ≤ code && code < 500

def isServerError (code : Nat) : Bool :=
  500 ≤ code && code < 600

def isRedirect (code : Nat) : Bool :=
  code == 301 || code == 302 || code == 303 || code == 307 || code == 308

/-- An answer with this code is the last one to a request. One with another code only announces it, or has
no meaning at all. -/
def isFinal (code : Nat) : Bool :=
  code == 101 || 200 ≤ code && code ≤ 999

def hasNoBody (code : Nat) : Bool :=
  code == 101 || code == 204 || code == 304

inductive Body where
  | whole (bytes : List UInt8)
  /-- The connection ends before the announced length is reached. -/
  | broken
  /-- The rest does not come, as with `Reply.silence`. -/
  | stalled
  deriving Repr, DecidableEq

structure Answer where
  status : Nat := 200
  reason : String := ""
  headers : List (String × String) := []
  body : Body := .whole []
  deriving Repr, DecidableEq

/-- The location that an answer gives. The names of headers are the same in capitals and small letters. -/
def Answer.location? (a : Answer) : Option String :=
  (a.headers.find? fun (name, _) => name.map Char.toLower == "location").map Prod.snd

inductive Reply where
  | answer (a : Answer)
  /-- Nothing comes back, be it before the client's limit ends or, if it has none, before the system gives up
  the connection. -/
  | silence
  | rubbish
  deriving Repr, DecidableEq

structure Server where
  address : String
  isUp : Bool := true
  routes : List (String × Reply) := []
  fallback : Reply
  deriving Repr, DecidableEq

def Server.reply (s : Server) (target : String) : Reply :=
  (s.routes.lookup target).getD s.fallback

end SheetSuite.Http
