import SheetSuite.Settings
import SheetSuite.Text.Quoted

namespace SheetSuite

structure Options where
  feedUrl : String := "https://spreadsheets.google.com/feeds/list/0AjzMl1BJlJDkdDI2c0VUSHNZMnR6ZVR5S2hXZEdtd1E/1/public/basic?alt=json"
  outputDir : Path := "."
  timeoutSeconds : Option Nat := none
  config : Option Path := none
  pretty : Bool := false
  dryRun : Bool := false
  verbose : Bool := false
  jsonLogs : Bool := false
  deriving Repr, DecidableEq

namespace Options

def settings (o : Options) : Settings where
  feedUrl := o.feedUrl
  outputDir := o.outputDir
  timeoutSeconds := o.timeoutSeconds
  pretty := o.pretty

def names : Settings.Names where
  feedUrl := "feed_url"
  outputDir := "output_dir"
  timeoutSeconds := "timeout_seconds"

def describe (o : Options) : String :=
  let bool (b : Bool) : String := if b then "true" else "false"
  let number (n : Option Nat) : String := match n with
    | some n => "Some(" ++ toString n ++ ")"
    | none => "None"
  let text (s : Option String) : String := match s with
    | some s => "Some(" ++ Text.quoted s ++ ")"
    | none => "None"
  "CliConfig \x7b feed_url: " ++ Text.quoted o.feedUrl ++ ", output_dir: " ++ Text.quoted o.outputDir ++
    ", timeout_seconds: " ++ number o.timeoutSeconds ++ ", config: " ++ text o.config ++
    ", pretty: " ++ bool o.pretty ++ ", dry_run: " ++ bool o.dryRun ++ ", verbose: " ++ bool o.verbose ++
    ", json_logs: " ++ bool o.jsonLogs ++ " \x7d"

end Options

inductive ValueOption where
  | feedUrl
  | outputDir
  | timeoutSeconds
  | config
  deriving Repr, DecidableEq

inductive Flag where
  | pretty
  | dryRun
  | verbose
  | jsonLogs
  deriving Repr, DecidableEq

inductive OptionName where
  | value (o : ValueOption)
  | flag (f : Flag)
  deriving Repr, DecidableEq

def ValueOption.name : ValueOption → String
  | feedUrl => "feed-url"
  | outputDir => "output-dir"
  | timeoutSeconds => "timeout-seconds"
  | config => "config"

def Flag.name : Flag → String
  | pretty => "pretty"
  | dryRun => "dry-run"
  | verbose => "verbose"
  | jsonLogs => "json-logs"

def OptionName.describe : OptionName → String
  | value .feedUrl => "--feed-url <FEED_URL>"
  | value .outputDir => "--output-dir <OUTPUT_DIR>"
  | value .timeoutSeconds => "--timeout-seconds <TIMEOUT_SECONDS>"
  | value .config => "--config <CONFIG>"
  | flag f => "--" ++ f.name

inductive NumberFault where
  | empty
  | notDigit
  | tooLarge
  deriving Repr, DecidableEq

def NumberFault.message : NumberFault → String
  | empty => "cannot parse integer from empty string"
  | notDigit => "invalid digit found in string"
  | tooLarge => "number too large to fit in target type"

inductive UsageFault where
  | help
  | unexpected (argument : String)
  | valueMissing (option : ValueOption)
  | valueRefused (value : String) (option : ValueOption) (fault : NumberFault)
  | repeated (option : OptionName)
  | valueNotTaken (value : String) (flag : String)
  deriving Repr, DecidableEq

namespace UsageFault

def helpText : String :=
  "Download the spreadsheet test feed and write it out as suite.json

Usage: update-suite [OPTIONS]

Options:
      --feed-url <FEED_URL>
          Spreadsheet feed to download [default: https://spreadsheets.google.com/feeds/list/0AjzMl1BJlJDkdDI2c0VUSHNZMnR6ZVR5S2hXZEdtd1E/1/public/basic?alt=json]
      --output-dir <OUTPUT_DIR>
          Directory that receives suite.json and the suite/ folder [default: .]
      --timeout-seconds <TIMEOUT_SECONDS>
          Abort the feed request after this many seconds
  -c, --config <CONFIG>
          Read feed and output settings from a TOML file instead
      --pretty
          Indent the written JSON
      --dry-run
          Fetch and parse only, write nothing
  -v, --verbose
          Enable verbose output
      --json-logs
          Emit log lines as JSON
  -h, --help
          Print help
"

def message : UsageFault → String
  | help => helpText
  | unexpected argument => "error: unexpected argument '" ++ argument ++ "' found"
  | valueMissing option =>
    "error: a value is required for '" ++ (OptionName.value option).describe ++
      "' but none was supplied"
  | valueRefused value option fault =>
    "error: invalid value '" ++ value ++ "' for '" ++ (OptionName.value option).describe ++ "': " ++
      fault.message
  | repeated option =>
    "error: the argument '" ++ option.describe ++ "' cannot be used multiple times"
  | valueNotTaken value flag =>
    "error: unexpected value '" ++ value ++ "' for '--" ++ flag ++ "' found; no more were expected"

/-- The exit code of the program. Asking for help is no fault. -/
def exitCode : UsageFault → Nat
  | help => 0
  | _ => 2

end UsageFault

end SheetSuite
