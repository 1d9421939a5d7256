import SheetSuite.FileTree.Operations

/-!
# Replacing a file as a whole

A file is never written in place. The new content goes to a temporary file beside it, which is then
moved over the old one, so that whoever reads the path sees the old content or the new one and nothing
in between. A replacement is a sequence of small steps (`Replacement.step`), between which others may
use the tree; `Replacement.perform` does all of them in a row.
-/

namespace SheetSuite

structure Replacement where
  target : Path
  data : List UInt8
  deriving Repr, DecidableEq

namespace Replacement

inductive Stage where
  | requested
  | prepared
  | writing (temporary : Location) (left : List UInt8)
  | written (temporary : Location)
  | refused (temporary : Location) (fault : FileFault)
  | closed (result : Except FileFault Unit)
  deriving Repr

def append (t : FileTree) (location : Location) (bytes : List UInt8) : FileTree :=
  match t.get? location with
  | some (.file data) => t.put location (.file (data ++ bytes))
  | _ => t

def prepare (r : Replacement) (t : FileTree) : Stage × FileTree :=
  match t.makeDirectories r.target.directory with
  | (.ok (), t) => (.prepared, t)
  | (.error fault, t) => (.closed (.error fault), t)

def create (r : Replacement) (name : String) (t : FileTree) : Stage × FileTree :=
  match t.locateNew r.target.directory name with
  | .ok temporary => (.writing temporary r.data, t.put temporary (.file []))
  | .error fault => (.closed (.error fault), t)

def write (count : Nat) (temporary : Location) (left : List UInt8) (t : FileTree) : Stage × FileTree :=
  if left.isEmpty then
    match t.attempt .sync with
    | .ok () => (.written temporary, t)
    | .error fault => (.refused temporary fault, t)
  else
    match t.attempt .append with
    | .ok () => (.writing temporary (left.drop count), append t temporary (left.take count))
    | .error fault => (.refused temporary fault, t)

def move (r : Replacement) (temporary : Location) (t : FileTree) : Stage × FileTree :=
  match t.moveOver temporary r.target with
  | .ok t => (.closed (.ok ()), t)
  | .error fault => (.refused temporary fault, t)

/-- One step of a replacement. `name` is the name of the temporary file, should it be made in this step,
and `count` the number of bytes to append. -/
def step (r : Replacement) (name : String) (count : Nat) : Stage → FileTree → Stage × FileTree
  | .requested, t => r.prepare t
  | .prepared, t => r.create name t
  | .writing temporary left, t => write count temporary left t
  | .written temporary, t => r.move temporary t
  | .refused temporary fault, t => (.closed (.error fault), t.erase temporary)
  | .closed result, t => (.closed result, t)

def temporaryName (number : Nat) : String :=
  ".tmp" ++ toString number

/-- A name that no entry of the tree has, and that does not occur in the target. -/
def freshName (r : Replacement) (t : FileTree) : String :=
  let taken := t.entries.filterMap (·.1.head?) ++ r.target.names
  let number := (List.range taken.length).find? fun n => !taken.contains (temporaryName n)
  temporaryName (number.getD taken.length)

def steps (r : Replacement) : Nat → Stage → FileTree → Stage × FileTree
  | 0, stage, t => (stage, t)
  | n + 1, stage, t =>
    let (stage, t) := r.step (r.freshName t) r.data.length stage t
    r.steps n stage t

def perform (r : Replacement) (t : FileTree) : Except FileFault Unit × FileTree :=
  match r.steps 6 .requested t with
  | (.closed result, t) => (result, t)
  | (_, t) => (.error .busy, t)

end Replacement

def FileTree.replace (t : FileTree) (path : Path) (data : List UInt8) :
    Except FileFault Unit × FileTree :=
  Replacement.perform ⟨path, data⟩ t

end SheetSuite
