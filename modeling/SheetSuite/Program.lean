import SheetSuite.Log.Filter
import SheetSuite.Options.Parser
import SheetSuite.Settings
import SheetSuite.Update

namespace SheetSuite.Program

structure Surroundings where
  environment : Environment := []
  tree : FileTree
  server : Http.Peer

structure Report where
  exitCode : Nat
  stdout : String
  stderr : String
  requests : List String
  tree : FileTree
  deriving Repr, DecidableEq

def milestone (message : String) : Task FileTree Unit :=
  Task.log .info .program message

def proceed (server : Http.Peer) (dryRun : Bool) (settings : Settings) : Task FileTree Unit := do
  if dryRun then
    milestone "Dry run, nothing will be written"
    let suite ← Update.preview settings server
    Task.print ("✅ Parsed " ++ toString suite.length ++ " test cases from the feed")
  else
    let path ← Update.run settings server
    Task.print "✅ Test suite updated"
    Task.print ("📁 Output saved to: " ++ path)

def settings (o : Options) (env : Environment) : Task FileTree (Settings × Settings.Names) := do
  match o.config with
  | none => return (o.settings, Options.names)
  | some path =>
    milestone ("Loading configuration from: " ++ path)
    let settings ← Task.update fun t => (Settings.ofFile env t path, t)
    return (settings, Settings.fileNames)

def work (o : Options) (env : Environment) (server : Http.Peer) : Task FileTree Unit := do
  milestone "Starting update-suite"
  Task.log .debug .program ("CLI config: " ++ o.describe)
  let (settings, names) ← settings o env
  Task.ofExcept (settings.validate names)
  proceed server o.dryRun settings

def told (e : Failure) : String :=
  "❌ " ++ e.userMessage ++ "\n💡 " ++ e.recovery ++ "\n"

def obituary (e : Failure) : List Sign :=
  [.log ⟨.error, .program,
      "Run failed: " ++ e.message ++ " (Category: " ++ e.category.name ++ ")"⟩,
    .log ⟨.error, .program, "Recovery suggestion: " ++ e.recovery⟩]

def shownLine? (style : Log.Style) (filter : Log.Filter) : Sign → Option String
  | .log event => if filter.shows event then some (event.show style) else none
  | .line text => some text
  | .request _ => none

def showTrail (style : Log.Style) (filter : Log.Filter) (trail : List Sign) : String :=
  String.join ((trail.filterMap (shownLine? style filter)).map (· ++ "\n"))

def filterVariable : String := "RUST_LOG"

def runWith (o : Options) (around : Surroundings) : Report :=
  let outcome := (work o around.environment around.server).run around.tree
  let style := if o.jsonLogs then Log.Style.json else .plain
  let filter := Log.Filter.choose (around.environment.value? filterVariable) o.verbose
  match outcome.result with
  | .ok () =>
    { exitCode := 0
      stdout := showTrail style filter outcome.trail
      stderr := ""
      requests := outcome.requests
      tree := outcome.store }
  | .error e =>
    { exitCode := e.exitCode
      stdout := showTrail style filter (outcome.trail ++ obituary e)
      stderr := told e
      requests := outcome.requests
      tree := outcome.store }

def refuse (fault : UsageFault) (around : Surroundings) : Report :=
  let isHelp := fault == .help
  { exitCode := fault.exitCode
    stdout := if isHelp then fault.message else ""
    stderr := if isHelp then "" else fault.message ++ "\n"
    requests := []
    tree := around.tree }

def run (arguments : List String) (around : Surroundings) : Report :=
  match Options.parse arguments with
  | .ok o => runWith o around
  | .error fault => refuse fault around

end SheetSuite.Program
