import SheetSuite.Options.Basic

/-!
# Reading an argument list

An option with a value is written `--name=value` or `--name value`, and one of them has the short forms
`-c value`, `-c=value` and `-cvalue`; a flag is written `--name`, and short flags may be written together.
Each may be given once. A value that starts with a dash has to be attached, except the dash alone.

The value of an option that stands apart from it is settled when the next option is read or the arguments
end. So an argument that is not understood is reported before a bad value that stands just before it.
-/

namespace SheetSuite.Options

def addDigit (n : Nat) (c : Char) : Except NumberFault Nat :=
  if !c.isDigit then .error .notDigit
  else if n * 10 + (c.toNat - 48) < UInt64.size then .ok (n * 10 + (c.toNat - 48)) else .error .tooLarge

def number : List Char → Except NumberFault Nat
  | [] => .error .empty
  | ['+'] => .error .notDigit
  | '+' :: digits => digits.foldlM addDigit 0
  | digits => digits.foldlM addDigit 0

structure Reading where
  options : Options := {}
  given : List OptionName := []
  /-- The option whose value is not settled yet, and the value if it has been read. -/
  pending : Option (ValueOption × Option String) := none
  deriving Repr

namespace Reading

def note (r : Reading) (name : OptionName) : Except UsageFault Reading :=
  if name ∈ r.given then .error (.repeated name)
  else .ok { r with given := r.given ++ [name] }

def setValue (r : Reading) (option : ValueOption) (value : String) : Except UsageFault Reading := do
  let r ← r.note (.value option)
  match option with
  | .feedUrl => .ok { r with options := { r.options with feedUrl := value } }
  | .outputDir => .ok { r with options := { r.options with outputDir := value } }
  | .config => .ok { r with options := { r.options with config := some value } }
  | .timeoutSeconds =>
    match number value.toList with
    | .ok n => .ok { r with options := { r.options with timeoutSeconds := some n } }
    | .error fault => .error (.valueRefused value option fault)

def settle (r : Reading) : Except UsageFault Reading :=
  match r.pending with
  | none => .ok r
  | some (option, none) => .error (.valueMissing option)
  | some (option, some value) => ({ r with pending := none } : Reading).setValue option value

def takeOption (r : Reading) (option : ValueOption) (value : Option String) :
    Except UsageFault Reading := do
  let r ← r.settle
  match value with
  | some value => r.setValue option value
  | none => .ok { r with pending := some (option, none) }

def takeFlag (r : Reading) (flag : Flag) : Except UsageFault Reading := do
  let r ← r.settle
  let r ← r.note (.flag flag)
  match flag with
  | .pretty => .ok { r with options := { r.options with pretty := true } }
  | .dryRun => .ok { r with options := { r.options with dryRun := true } }
  | .verbose => .ok { r with options := { r.options with verbose := true } }
  | .jsonLogs => .ok { r with options := { r.options with jsonLogs := true } }

def takeHelp (r : Reading) : Except UsageFault Reading := do
  let _ ← r.settle
  .error .help

def takeLong (r : Reading) (name : String) (value : Option String) : Except UsageFault Reading :=
  let flag (f : Except UsageFault Reading) : Except UsageFault Reading := match value with
    | some value => .error (.valueNotTaken value name)
    | none => f
  match name with
  | "feed-url" => r.takeOption .feedUrl value
  | "output-dir" => r.takeOption .outputDir value
  | "timeout-seconds" => r.takeOption .timeoutSeconds value
  | "config" => r.takeOption .config value
  | "pretty" => flag (r.takeFlag .pretty)
  | "dry-run" => flag (r.takeFlag .dryRun)
  | "verbose" => flag (r.takeFlag .verbose)
  | "json-logs" => flag (r.takeFlag .jsonLogs)
  | "help" => flag r.takeHelp
  | _ => .error (.unexpected ("--" ++ name))

def takeShort (r : Reading) : List Char → Except UsageFault Reading
  | [] => .ok r
  | 'v' :: rest => do (← r.takeFlag .verbose).takeShort rest
  | 'h' :: _ => r.takeHelp
  | ['c'] => r.takeOption .config none
  | 'c' :: '=' :: value => r.takeOption .config (some (String.ofList value))
  | 'c' :: value => r.takeOption .config (some (String.ofList value))
  | c :: _ => .error (.unexpected ("-" ++ c.toString))

def takePlain (r : Reading) (argument : String) : Except UsageFault Reading :=
  match r.pending with
  | some (option, none) => .ok { r with pending := some (option, some argument) }
  | _ => .error (.unexpected argument)

def take (r : Reading) (argument : String) : Except UsageFault Reading :=
  match argument.toList with
  | '-' :: '-' :: rest =>
    let name := rest.takeWhile (· != '=')
    r.takeLong (String.ofList name)
      (if name.length = rest.length then none else some (String.ofList (rest.drop (name.length + 1))))
  | '-' :: c :: rest => r.takeShort (c :: rest)
  | _ => r.takePlain argument

/-- Reads a list of arguments. After two dashes no argument is an option, and none is expected. -/
def takeAll (r : Reading) : List String → Except UsageFault Reading
  | [] => r.settle
  | "--" :: rest =>
    match rest with
    | [] => r.settle
    | argument :: _ => .error (.unexpected argument)
  | argument :: rest => do (← r.take argument).takeAll rest

end Reading

def parse (arguments : List String) : Except UsageFault Options :=
  (Reading.takeAll {} arguments).map (·.options)

end SheetSuite.Options
