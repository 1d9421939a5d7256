import SheetSuite.Http.Wire
import SheetSuite.Program
import Std.Async.DNS
import Std.Async.TCP
import Std.Async.Timer

/-!
# The command

The outermost layer: it looks at the disk and the environment where the program will look, runs the
program on what it saw, and carries out what the program did. A request that the program makes is sent
over the network, and the program is run again with the reply, until it asks for nothing new.
-/

namespace SheetSuite.Command

open Std.Async

/-! ## The disk -/

def home : IO Location := do
  return (Path.names (toString (← IO.currentDir))).reverse

def pathOf (location : Location) : Path :=
  "/" ++ "/".intercalate location.reverse

def locationsOn (home : Location) (path : Path) : List Location :=
  let start := if path.isAbsolute then [] else home
  let visit := fun (here, seen) name =>
    let next := if name = "." then here else if name = ".." then here.tail else name :: here
    (next, seen ++ [next])
  (path.names.foldl visit (start, [])).2

def nodeAt? (location : Location) : IO (Option Node) := do
  let file := (← IO.currentDir) / pathOf location
  if ← file.isDir then return some .directory
  else if ← file.pathExists then return some (.file (← IO.FS.readBinFile file).toList)
  else return none

def look (t : FileTree) (path : Path) : IO FileTree :=
  (locationsOn t.home path).foldlM (fun t location => do
    match ← nodeAt? location with
    | some node => return if location.isEmpty then t else t.put location node
    | none => return t) t

def changes (old new : FileTree) : List (Location × Node) :=
  new.entries.filter fun (location, node) => old.get? location != some node

/-- Makes a change on the disk. A file is written beside its place and moved there. -/
def apply : Location × Node → IO Unit
  | (location, .directory) => IO.FS.createDir (pathOf location)
  | (location, .file data) => do
    let path := pathOf location
    IO.FS.writeBinFile (path ++ ".new") ⟨data.toArray⟩
    IO.FS.rename (path ++ ".new") path

/-! ## The network -/

def hostAndPort (address : String) : String × String :=
  match address.splitOn ":" with
  | [host, port] => (host, port)
  | _ => (address, "80")

partial def receive (client : TCP.Socket.Client) (bytes : ByteArray) : Async ByteArray := do
  match ← client.recv? 65536 with
  | some more => receive client (bytes ++ more)
  | none => return bytes

def send (address target : String) : Async Http.Reply := do
  let (host, port) := hostAndPort address
  let found ← DNS.getAddrInfo host port
  match found.toList.findSome? (fun a => match a with
      | .v4 ip => some ip
      | .v6 _ => none) with
  | none => return .rubbish
  | some ip =>
    let client ← TCP.Socket.Client.mk
    client.connect (.v4 ⟨ip, (port.toNat?.getD 80).toUInt16⟩)
    client.send (Http.Wire.request address target).toUTF8
    return Http.Wire.reply (← receive client .empty).toList

instance : Inhabited Http.Reply := ⟨.silence⟩

def exchange (timeoutSeconds : Option Nat) (address target : String) : IO Http.Reply := do
  try
    match timeoutSeconds with
    | none => (send address target).block
    | some n => (Async.race (send address target) (do
        sleep (.ofNat (n * 1000))
        return .silence)).block
  catch _ => return .rubbish

def addressOf (url : String) : String :=
  match Url.parse url with
  | .ok url => (Http.uriOf url).server
  | .error _ => ""

/-! ## The command -/

/-- The environment as far as a text refers to it. -/
def environmentFor (input : String) : IO Environment := do
  let names := (Template.pieces input.toList).parts.map fun (reference, _) => Template.name reference
  let found ← (Program.filterVariable :: names).mapM fun name => do
    return (← IO.getEnv name).map (name, ·)
  return found.filterMap id

/-- What the command finds around it, the server apart, and the settings that it will use. -/
def surroundings (arguments : List String) : IO (Environment × FileTree × Option Settings) := do
  let start := FileTree.ofList (← home) []
  match Options.parse arguments with
  | .error _ => return ([], start, none)
  | .ok o =>
    let (env, tree, settings) ← match o.config with
      | none => pure (← environmentFor "", start, some o.settings)
      | some path => do
        let tree ← look start path
        let env ← environmentFor ((Settings.readText tree path).toOption.getD "")
        pure (env, tree, (Settings.ofFile env tree path).toOption)
    let some s := settings | return (env, tree, none)
    let tree ← look tree (s.outputDir.join Update.suiteDirectory)
    let tree ← look tree (s.outputDir.join Update.suiteFile)
    return (env, tree, settings)

/-- Runs the program, and again with each reply to a request that it has not had yet. -/
partial def converse (arguments : List String) (timeoutSeconds : Option Nat) (environment : Environment)
    (tree : FileTree) (server : Http.Server) : IO Program.Report := do
  let report := Program.run arguments { environment, tree, server }
  let targets := report.requests.map (String.ofList <| ·.toList.drop 4)
  match targets.find? fun target => (server.routes.lookup target).isNone with
  | none => return report
  | some target =>
    let reply ← exchange timeoutSeconds server.address target
    let server := { server with routes := (target, reply) :: server.routes }
    converse arguments timeoutSeconds environment tree server

def run (arguments : List String) : IO UInt32 := do
  let (environment, tree, settings) ← surroundings arguments
  let server : Http.Server :=
    { address := (settings.map fun s => addressOf s.feedUrl).getD "", fallback := .rubbish }
  let report ← converse arguments (settings.bind (·.timeoutSeconds)) environment tree server
  (changes tree report.tree).forM apply
  IO.print report.stdout
  IO.eprint report.stderr
  return report.exitCode.toUInt32

end SheetSuite.Command

def main (arguments : List String) : IO UInt32 :=
  SheetSuite.Command.run arguments
