import SheetSuite.FileTree.Basic

namespace SheetSuite.FileTree

def maxName : Nat := 255

def maxPath : Nat := 4095

def isTooLong (name : String) : Bool :=
  maxName < name.utf8ByteSize

def walk (t : FileTree) : Location → List String → Except FileFault Location
  | location, [] => .ok location
  | location, name :: names =>
    if !t.isDirectory location then .error .notDirectory
    else if name = "." then walk t location names
    else if name = ".." then walk t location.tail names
    else if isTooLong name then .error .nameTooLong
    else if (t.get? (name :: location)).isNone then .error .noEntry
    else walk t (name :: location) names

def startOf (t : FileTree) (path : Path) : Location :=
  if path.isAbsolute then [] else t.home

def checkPath (path : Path) : Except FileFault Unit :=
  if path.toList.contains '\x00' then .error .nulInName
  else if path.isEmpty then .error .noEntry
  else if maxPath < path.utf8ByteSize then .error .nameTooLong
  else .ok ()

def locate (t : FileTree) (path : Path) : Except FileFault Location := do
  checkPath path
  let location ← t.walk (t.startOf path) path.names
  if path.endsInSlash && !t.isDirectory location then .error .notDirectory
  else .ok location

def isDirectoryAt (t : FileTree) (path : Path) : Bool :=
  match t.locate path with
  | .ok location => t.isDirectory location
  | .error _ => false

/-- The directory in which the last name of a path is looked up, and that name. There is none if the
path ends in dots or names the root. -/
def locateLast (t : FileTree) (path : Path) : Except FileFault (Location × Option String) := do
  checkPath path
  let names := path.names
  let directory ← t.walk (t.startOf path) names.dropLast
  if !t.isDirectory directory then .error .notDirectory
  else match names.getLast? with
    | none => .ok (directory, none)
    | some name => .ok (directory, if name = "." || name = ".." then none else some name)

def makeDirectory (t : FileTree) (path : Path) : Except FileFault FileTree := do
  match ← t.locateLast path with
  | (_, none) => .error .alreadyExists
  | (directory, some name) =>
    if isTooLong name then .error .nameTooLong
    else if (t.get? (name :: directory)).isSome then .error .alreadyExists
    else do
      t.attempt .makeDirectory
      return t.put (name :: directory) .directory

/-- Makes the first directory of a list of paths, each of which holds the one before it. The paths after
it are made first if they are missing. A directory that is already there is fine. -/
def makeDirectoriesFrom (t : FileTree) : List Path → Except FileFault Unit × FileTree
  | [] => (.ok (), t)
  | path :: above =>
    if path.isEmpty then (.ok (), t)
    else match t.makeDirectory path with
      | .ok t => (.ok (), t)
      | .error .noEntry =>
        match t.makeDirectoriesFrom above with
        | (.error fault, t) => (.error fault, t)
        | (.ok (), t) =>
          match t.makeDirectory path with
          | .ok t => (.ok (), t)
          | .error fault => if t.isDirectoryAt path then (.ok (), t) else (.error fault, t)
      | .error fault => if t.isDirectoryAt path then (.ok (), t) else (.error fault, t)

def makeDirectories (t : FileTree) (path : Path) : Except FileFault Unit × FileTree :=
  t.makeDirectoriesFrom (path :: path.above)

def locateNew (t : FileTree) (path : Path) (name : String) : Except FileFault Location := do
  let directory ← t.locate path
  t.attempt .create
  return name :: directory

def moveOver (t : FileTree) (source : Location) (path : Path) : Except FileFault FileTree := do
  if path.toList.contains '\x00' then .error .invalidArgument
  else match ← t.locateLast path with
    | (_, none) => .error .busy
    | (directory, some name) =>
      if isTooLong name then .error .nameTooLong
      else if path.endsInSlash then .error .notDirectory
      else if t.isDirectory (name :: directory) then .error .isDirectory
      else match t.get? source with
        | some node => do
          t.attempt .move
          return (t.erase source).put (name :: directory) node
        | none => .error .noEntry

def read (t : FileTree) (path : Path) : Except FileFault (List UInt8) := do
  let location ← t.locate path
  match t.get? location with
  | some (.file data) => .ok data
  | some .directory => .error .isDirectory
  | none => .error .noEntry

end SheetSuite.FileTree
