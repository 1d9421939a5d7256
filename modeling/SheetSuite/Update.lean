import SheetSuite.Feed
import SheetSuite.FileTree.Replace
import SheetSuite.Http.Exchange
import SheetSuite.Row
import SheetSuite.Settings
import SheetSuite.Suite
import SheetSuite.Task

namespace SheetSuite

structure Storage (σ : Type) where
  createDirectory : Path → Task σ Unit
  writeFile : Path → List UInt8 → Task σ Unit

namespace Storage

def onTree (f : FileTree → Except FileFault Unit × FileTree) : Task FileTree Unit :=
  Task.update fun t => ((f t).1.mapError .file, (f t).2)

def onDisk (base : Path) : Storage FileTree where
  createDirectory path := onTree (·.makeDirectories (base.join path))
  writeFile path data := do
    onTree (·.replace (base.join path) data)
    Task.log .debug .storage ("Replaced " ++ base.join path)

structure Table where
  directories : List Path := []
  files : List (Path × List UInt8) := []
  deriving Repr, DecidableEq

def inMemory : Storage Table where
  createDirectory path := Task.update fun t =>
    (.ok (), { t with directories := t.directories.filter (· != path) ++ [path] })
  writeFile path data := Task.update fun t =>
    (.ok (), { t with files := t.files.filter (·.1 != path) ++ [(path, data)] })

/-- A storage that fails as told, before it has done anything. -/
def failing {σ : Type} (storage : Storage σ) (onDirectory onFile : Option Failure) : Storage σ where
  createDirectory path := match onDirectory with
    | some e => Task.ofExcept (.error e)
    | none => storage.createDirectory path
  writeFile path data := match onFile with
    | some e => Task.ofExcept (.error e)
    | none => storage.writeFile path data

end Storage

structure Stages (σ : Type) where
  fetch : Task σ Feed
  parse : Feed → Task σ Suite
  save : Suite → Task σ String

namespace Stages

variable {σ : Type}

def milestone (message : String) : Task σ Unit :=
  Task.log .info .engine message

def preview (s : Stages σ) : Task σ Suite := do
  milestone "Fetching test feed..."
  let feed ← s.fetch
  milestone ("Fetched " ++ toString feed.length ++ " feed entries")
  milestone "Parsing rows..."
  let suite ← s.parse feed
  milestone ("Parsed " ++ toString suite.length ++ " test cases")
  return suite

def run (s : Stages σ) : Task σ String := do
  let suite ← s.preview
  milestone "Writing test suite..."
  let path ← s.save suite
  milestone ("Suite saved to: " ++ path)
  return path

end Stages

inductive Stage where
  | fetch
  | parse
  | save
  deriving Repr, DecidableEq

def Suite.ofFeed (feed : Feed) : Suite :=
  feed.map fun entry => Row.parse entry.text

/-- Stages that note their calls and fail as told. -/
def Stages.rehearsal (feed : Feed) (failure? : Stage → Option Failure) : Stages (List Stage) :=
  let call {α : Type} (stage : Stage) (result : α) : Task (List Stage) α :=
    Task.update fun calls => (match failure? stage with
      | some e => .error e
      | none => .ok result, calls ++ [stage])
  { fetch := call .fetch feed
    parse := fun feed => call .parse (Suite.ofFeed feed)
    save := fun suite => call .save (toString suite.length ++ " cases") }

namespace Update

variable {σ : Type}

def suiteFile : Path := "suite.json"

def suiteDirectory : Path := "suite"

def detail (message : String) : Task σ Unit :=
  Task.log .debug .pipeline message

def fetch (settings : Settings) (server : Http.Peer) : Task σ Feed := do
  detail ("Requesting feed: " ++ settings.feedUrl)
  let reception ← Task.exchange (server.ask settings.timeoutSeconds settings.feedUrl)
  detail ("Feed response status: " ++ Http.showStatus reception.answer.status)
  let body ← Task.ofExcept ((do reception.checkStatus; reception.text).mapError .fetch)
  let feed ← Task.ofExcept ((Feed.decode body).mapError .feed)
  detail ("Feed contains " ++ toString feed.length ++ " entries")
  return feed

def parse (feed : Feed) : Task σ Suite :=
  return Suite.ofFeed feed

def save (settings : Settings) (storage : Storage σ) (suite : Suite) : Task σ String := do
  storage.createDirectory suiteDirectory
  let data := Text.utf8 (suite.encode settings.layout).toList
  detail ("Writing " ++ toString suite.length ++ " test cases (" ++ toString data.length ++ " bytes)")
  storage.writeFile suiteFile data
  return settings.outputDir.join suiteFile

def stages (settings : Settings) (server : Http.Peer) (storage : Storage σ) : Stages σ where
  fetch := fetch settings server
  parse := parse
  save := save settings storage

def run (settings : Settings) (server : Http.Peer) : Task FileTree String :=
  (stages settings server (.onDisk settings.outputDir)).run

def preview (settings : Settings) (server : Http.Peer) : Task FileTree Suite :=
  (stages settings server (.onDisk settings.outputDir)).preview

end Update

end SheetSuite
