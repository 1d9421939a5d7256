import SheetSuite.Text.Cut

namespace SheetSuite

abbrev Path := String

namespace Path

def names (path : Path) : List String :=
  ((Text.split (· == '/') path.toList).filter (!·.isEmpty)).map String.ofList

def isAbsolute (path : Path) : Bool :=
  path.toList.head? == some '/'

def endsInSlash (path : Path) : Bool :=
  path.toList.getLast? == some '/'

/-- The second path as seen from the first. An absolute path is the same from everywhere, and an empty
one adds no more than a slash. -/
def join (base path : Path) : Path :=
  if path.isAbsolute then path
  else if base.isEmpty || base.endsInSlash then base ++ path
  else base ++ "/" ++ path

/-- The names that count when a path is taken apart: a dot counts only at the start of a relative path. -/
def steps (path : Path) : List String :=
  match path.names with
  | [] => []
  | name :: rest =>
    let rest := rest.filter (· != ".")
    if name == "." && path.isAbsolute then rest else name :: rest

def ofSteps (isAbsolute : Bool) (steps : List String) : Path :=
  (if isAbsolute then "/" else "") ++ "/".intercalate steps

/-- The paths above a path, the nearest first. The last one above a relative path is empty. -/
def above (path : Path) : List Path :=
  let steps := path.steps
  (List.range steps.length).reverse.map fun n => ofSteps path.isAbsolute (steps.take n)

def parent? (path : Path) : Option Path :=
  path.above.head?

/-- The directory that holds a path, which is the working directory if the path says nothing else. -/
def directory (path : Path) : Path :=
  match path.parent? with
  | some parent => if parent.isEmpty then "." else parent
  | none => "."

end Path

inductive FileFault where
  | noEntry
  | alreadyExists
  | notDirectory
  | isDirectory
  | invalidArgument
  | busy
  | nameTooLong
  | nulInName
  | notText
  | other (text : String)
  deriving Repr, DecidableEq

def FileFault.message : FileFault → String
  | noEntry => "No such file or directory (os error 2)"
  | alreadyExists => "File exists (os error 17)"
  | notDirectory => "Not a directory (os error 20)"
  | isDirectory => "Is a directory (os error 21)"
  | invalidArgument => "Invalid argument (os error 22)"
  | busy => "Device or resource busy (os error 16)"
  | nameTooLong => "File name too long (os error 36)"
  | nulInName => "file name contained an unexpected NUL byte"
  | notText => "stream did not contain valid UTF-8"
  | other text => text

/-- What the disk can refuse for reasons of its own: it may be full, broken or forbidden to write to. -/
inductive FileOperation where
  | makeDirectory
  | create
  | append
  | sync
  | move
  deriving Repr, DecidableEq

/-- The names from an entry up to the root. -/
abbrev Location := List String

inductive Node where
  | directory
  | file (data : List UInt8)
  deriving Repr, DecidableEq

/-- The entries of a disk, the directory in which the program works, and the operations at which the disk
fails, each with its fault. The root is always there. -/
structure FileTree where
  entries : List (Location × Node) := []
  home : Location := []
  defects : List (FileOperation × FileFault) := []
  deriving Repr, DecidableEq

namespace FileTree

def get? (t : FileTree) : Location → Option Node
  | [] => some .directory
  | location => t.entries.lookup location

def isDirectory (t : FileTree) (location : Location) : Bool :=
  t.get? location == some .directory

def attempt (t : FileTree) (operation : FileOperation) : Except FileFault Unit :=
  match t.defects.lookup operation with
  | some fault => .error fault
  | none => .ok ()

def without (location : Location) (entries : List (Location × Node)) : List (Location × Node) :=
  entries.filter (·.1 != location)

/-- Puts a node at a location. The root stays as it is. -/
def put (t : FileTree) (location : Location) (node : Node) : FileTree :=
  { t with entries := without location t.entries ++ [(location, node)] }

def erase (t : FileTree) (location : Location) : FileTree :=
  { t with entries := without location t.entries }

theorem lookup_without_self (l : Location) (es : List (Location × Node)) :
    (without l es).lookup l = none := by
  induction es with
  | nil => rfl
  | cons e es ih =>
    by_cases h : e.1 = l
    · simpa [without, h] using ih
    · have hb : (l == e.1) = false := by simpa using fun h' => h h'.symm
      have : without l (e :: es) = e :: without l es := by simp [without, h]
      rw [this, List.lookup_cons, hb]
      exact ih

theorem lookup_without_of_ne {l k : Location} (h : k ≠ l) (es : List (Location × Node)) :
    (without l es).lookup k = es.lookup k := by
  induction es with
  | nil => rfl
  | cons e es ih =>
    by_cases he : e.1 = l
    · have hb : (k == e.1) = false := by simpa [he] using h
      have : without l (e :: es) = without l es := by simp [without, he]
      rw [this, List.lookup_cons, hb]
      exact ih
    · have : without l (e :: es) = e :: without l es := by simp [without, he]
      rw [this, List.lookup_cons, List.lookup_cons, ih]

@[simp] theorem get?_nil (t : FileTree) : t.get? [] = some .directory := rfl

theorem get?_put_self (t : FileTree) {l : Location} (node : Node) (h : l ≠ []) :
    (t.put l node).get? l = some node := by
  cases l with
  | nil => exact absurd rfl h
  | cons n l => simp [get?, put, List.lookup_append, lookup_without_self]

theorem get?_put_of_ne (t : FileTree) {l k : Location} (node : Node) (h : k ≠ l) :
    (t.put l node).get? k = t.get? k := by
  cases k with
  | nil => rfl
  | cons n k =>
    have hb : ((n :: k) == l) = false := by simpa using h
    simp [get?, put, List.lookup_append, lookup_without_of_ne h, List.lookup_cons, hb]

theorem get?_erase_self (t : FileTree) {l : Location} (h : l ≠ []) : (t.erase l).get? l = none := by
  cases l with
  | nil => exact absurd rfl h
  | cons n l => simp [get?, erase, lookup_without_self]

theorem get?_erase_of_ne (t : FileTree) {l k : Location} (h : k ≠ l) :
    (t.erase l).get? k = t.get? k := by
  cases k with
  | nil => rfl
  | cons n k => simp [get?, erase, lookup_without_of_ne h]

@[simp] theorem home_put (t : FileTree) (l : Location) (node : Node) : (t.put l node).home = t.home :=
  rfl

@[simp] theorem home_erase (t : FileTree) (l : Location) : (t.erase l).home = t.home := rfl

theorem attempt_congr {t t' : FileTree} (same : t'.defects = t.defects) (operation : FileOperation) :
    t'.attempt operation = t.attempt operation := by
  rw [attempt, attempt, same]

/-- The location with the directories that hold it, the outermost first; the root is left out. -/
def upTo : Location → List Location
  | [] => []
  | name :: location => upTo location ++ [name :: location]

def withDirectories (t : FileTree) (location : Location) : FileTree :=
  (upTo location).foldl (fun t l => if (t.get? l).isSome then t else t.put l .directory) t

def ofList (home : Location) (items : List (Path × Node)) : FileTree :=
  let start : FileTree := ({ home } : FileTree).withDirectories home
  items.foldl (fun t (path, node) =>
    let location := path.steps.reverse ++ home
    match node with
    | .directory => t.withDirectories location
    | .file data => (t.withDirectories location.tail).put location (.file data)) start

def pathBelow? (base location : Location) : Option Path :=
  if base.isSuffixOf location && base.length < location.length then
    some ("/".intercalate (location.take (location.length - base.length)).reverse)
  else none

def listing (t : FileTree) : List (Path × Node) :=
  let items := t.entries.filterMap fun (location, node) =>
    (pathBelow? t.home location).map (·, node)
  items.mergeSort fun a b => !decide (b.1 < a.1)

end FileTree

end SheetSuite
