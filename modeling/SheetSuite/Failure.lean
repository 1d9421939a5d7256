import SheetSuite.FileTree.Basic
import SheetSuite.Http.Exchange
import SheetSuite.Json.Fault

namespace SheetSuite

inductive Setting.Problem where
  | emptyUrl
  | badUrl (fault : Url.Fault)
  | badScheme (scheme : String)
  | emptyPath
  | nulInPath
  | tooSmall (least : Nat)
  | other (reason : String)
  deriving Repr, DecidableEq

namespace Setting

def Problem.message : Problem → String
  | emptyUrl => "URL cannot be empty"
  | badUrl fault => "Invalid URL format: " ++ fault.message
  | badScheme scheme => "Unsupported URL scheme: " ++ scheme
  | emptyPath => "Path cannot be empty"
  | nulInPath => "Path contains null bytes"
  | tooSmall least => "Value must be at least " ++ toString least
  | other reason => reason

def urlProblem? (value : String) : Option Problem :=
  if value.isEmpty then some .emptyUrl
  else match Url.parse value with
    | .error fault => some (.badUrl fault)
    | .ok url => if url.isWeb then none else some (.badScheme url.scheme)

def pathProblem? (value : String) : Option Problem :=
  if value.isEmpty then some .emptyPath
  else if value.toList.contains '\x00' then some .nulInPath
  else none

def numberProblem? (value least : Nat) : Option Problem :=
  if value < least then some (.tooSmall least) else none

end Setting

inductive ConfigFault where
  | unreadable (path : Path) (fault : FileFault)
  /-- The text is no document, or its content does not fit; in the second case `detail` says how. -/
  | malformed (detail : Option String)
  | other (message : String)
  deriving Repr, DecidableEq

def ConfigFault.message : ConfigFault → String
  | unreadable path fault => "cannot read config file " ++ path ++ ": " ++ fault.message
  | malformed none => "TOML parsing error"
  | malformed (some detail) => "TOML parsing error: " ++ detail
  | other message => message

inductive Failure where
  | fetch (fault : Http.Fault)
  | feed (error : Json.Error)
  | file (fault : FileFault)
  | suite (error : Json.Error)
  | config (fault : ConfigFault)
  | setting (field value : String) (problem : Setting.Problem)
  deriving Repr, DecidableEq

inductive Category where
  | config
  | fetch
  | io
  deriving Repr, DecidableEq

namespace Category

def name : Category → String
  | config => "Config"
  | fetch => "Fetch"
  | io => "Io"

def exitCode : Category → Nat
  | config => 1
  | fetch => 2
  | io => 3

end Category

namespace Failure

def category : Failure → Category
  | fetch _ => .fetch
  | feed _ => .fetch
  | file _ => .io
  | suite _ => .io
  | config _ => .config
  | setting .. => .config

def exitCode (f : Failure) : Nat :=
  f.category.exitCode

def message : Failure → String
  | fetch fault => "Feed request failed: " ++ fault.message
  | feed error => "Feed body is not a valid spreadsheet feed: " ++ error.message
  | file fault => "IO error: " ++ fault.message
  | suite error => "Serialization error: " ++ error.message
  | config fault => "Configuration error: " ++ fault.message
  | setting field value problem =>
    "Invalid value for '" ++ field ++ "': " ++ problem.message ++ " (got '" ++ value ++ "')"

def userMessage (f : Failure) : String :=
  match f.category with
  | .config => "Invalid configuration: " ++ f.message
  | .fetch => "Could not download the test feed: " ++ f.message
  | .io => "Could not write the test suite: " ++ f.message

def recovery : Failure → String
  | fetch fault =>
    if fault.isTimeout then
      "The feed did not answer in time; raise --timeout-seconds or try again later"
    else if fault.isStatus then
      "The feed server rejected the request; check that the feed URL is still published"
    else "Check your network connection and the feed URL"
  | feed _ => "The feed URL must return a JSON spreadsheet feed with a 'feed' object"
  | file _ => "Check that the output directory is writable and the disk is not full"
  | suite _ => "Check that the output directory is writable and the disk is not full"
  | config _ => "Fix the reported setting and run again"
  | setting .. => "Fix the reported setting and run again"

end Failure

end SheetSuite
