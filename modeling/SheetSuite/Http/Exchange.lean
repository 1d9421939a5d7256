import SheetSuite.Http.Server
import SheetSuite.Http.Uri
import SheetSuite.Url.Parser

namespace SheetSuite.Http

inductive Fault where
  | badUrl
  | badScheme (url : String)
  | notReached (url : String) (timedOut : Bool)
  | tooManyRedirects (url : String)
  | badStatus (code : Nat) (reason : String) (url : String)
  | badBody (timedOut : Bool)
  deriving Repr, DecidableEq

namespace Fault

def message : Fault → String
  | badUrl => "builder error"
  | badScheme url => "builder error for url (" ++ url ++ ")"
  | notReached url _ => "error sending request for url (" ++ url ++ ")"
  | tooManyRedirects url => "error following redirect for url (" ++ url ++ ")"
  | badStatus code reason url =>
    "HTTP status " ++ (if isClientError code then "client" else "server") ++ " error (" ++
      toString code ++ " " ++ reason ++ ") for url (" ++ url ++ ")"
  | badBody _ => "error decoding response body"

def isTimeout : Fault → Bool
  | notReached _ timedOut => timedOut
  | badBody timedOut => timedOut
  | _ => false

def isStatus : Fault → Bool
  | badStatus .. => true
  | _ => false

end Fault

structure Reception where
  answer : Answer
  url : String
  final : isFinal answer.status = true
  deriving DecidableEq

structure Exchange (α : Type) where
  requests : List String
  result : Except Fault α

/-- Whatever a client can reach: servers under all schemes and names, the redirects between them, and what
stands between them and the client. It is known by what comes of asking for a URL, perhaps with a limit on the
time in seconds. -/
structure Peer where
  ask : Option Nat → String → Exchange Reception

def showUri (u : Uri) : String :=
  match Url.parse u.text with
  | .ok url => url.text
  | .error _ => u.text

def uriOf (url : Url) : Uri where
  scheme := url.scheme
  authority := match url.authority with
    | some a => a.text
    | none => ""
  path := url.path
  query := url.query

/-- The server is up and is the one that the URI names. It does not speak TLS. -/
def Server.isReached (server : Server) (u : Uri) : Bool :=
  server.isUp && u.scheme == "http" && u.server == server.address

def maxRedirects : Nat := 10

/-- Asks for a URI and follows up to `redirects` redirects. `shown` is the URL that was first asked for. -/
def Server.follow (server : Server) (shown : String) : Nat → Uri → Exchange Reception
  | redirects, u =>
    if !server.isReached u then ⟨[], .error (.notReached shown false)⟩
    else
      let request := "GET " ++ u.target
      match server.reply u.target with
      | .silence => ⟨[request], .error (.notReached shown true)⟩
      | .rubbish => ⟨[request], .error (.notReached shown false)⟩
      | .answer a =>
        if final : isFinal a.status then
          match (if isRedirect a.status then a.location?.bind (resolve? u) else none) with
          | none => ⟨[request], .ok ⟨a, showUri u, final⟩⟩
          | some destination =>
            match redirects with
            | 0 => ⟨[request], .error (.tooManyRedirects (showUri u))⟩
            | redirects + 1 =>
              match Url.parse destination.text with
              | .error _ => ⟨[request], .error (.badScheme shown)⟩
              | .ok url =>
                if !url.isWeb then ⟨[request], .error (.badScheme url.text)⟩
                else match destination with
                  | .hostless _ => ⟨[request], .error (.notReached shown false)⟩
                  | .uri next =>
                    let later := server.follow shown redirects next
                    ⟨request :: later.requests, later.result⟩
        -- The announced answer never comes.
        else ⟨[request], .error (.notReached shown false)⟩

/-- Asks one server for a URL. A client whose limit is zero gives up before it has sent anything. -/
def Server.ask (server : Server) (limit : Option Nat) (feedUrl : String) : Exchange Reception :=
  match Url.parse feedUrl with
  | .error _ => ⟨[], .error .badUrl⟩
  | .ok url =>
    let url := url.withoutUser
    if !url.isWeb then ⟨[], .error (.badScheme url.text)⟩
    else if limit = some 0 then ⟨[], .error (.notReached url.text true)⟩
    else server.follow url.text maxRedirects (uriOf url)

def Server.peer (server : Server) : Peer where
  ask := server.ask

instance : Coe Server Peer :=
  ⟨Server.peer⟩

namespace Reception

def checkStatus (r : Reception) : Except Fault Unit :=
  if isClientError r.answer.status || isServerError r.answer.status then
    .error (.badStatus r.answer.status r.answer.reason r.url)
  else .ok ()

def text (r : Reception) : Except Fault String :=
  if hasNoBody r.answer.status then .ok ""
  else match r.answer.body with
    | .whole bytes => .ok (Text.lossy bytes)
    | .broken => .error (.badBody false)
    | .stalled => .error (.badBody true)

end Reception

end SheetSuite.Http
