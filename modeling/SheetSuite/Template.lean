import SheetSuite.Text.Cut

/-!
# References to variables

A text may refer to the variables of an environment: `${NAME}` stands for the value of `NAME`. A name is
not empty and ends at the first closing brace. References are replaced in one pass from left to right;
what comes from a variable is not looked at again, and a reference to an unknown variable stays as it is.
-/

namespace SheetSuite

abbrev Environment := List (String × String)

/-- The value of a variable. An entry reads `key=value`, and the first entry that starts with the name
and an equals sign defines it. -/
def Environment.value? (env : Environment) (name : String) : Option String :=
  env.findSome? fun (key, value) =>
    ((name.toList ++ ['=']).isPrefixOf? (key.toList ++ '=' :: value.toList)).map String.ofList

namespace Template

/-- The length of the reference that a text starts with: the sign, the braces, and a name that is not
empty and holds no closing brace. -/
def referenceLength? : Text.Matcher
  | '$' :: '{' :: s =>
    let name := s.takeWhile (· != '}')
    if name.isEmpty || name.length = s.length then none else some (name.length + 3)
  | _ => none

def name (reference : List Char) : String :=
  String.ofList ((reference.drop 2).dropLast)

def pieces (s : List Char) : Text.Pieces :=
  Text.cut referenceLength? s

def resolve (lookup : String → Option String) (reference : List Char) : List Char :=
  match lookup (name reference) with
  | some value => value.toList
  | none => reference

def expand (lookup : String → Option String) (input : String) : String :=
  let p := pieces input.toList
  String.ofList (p.lead ++ p.parts.flatMap fun (reference, literal) =>
    resolve lookup reference ++ literal)

theorem referenceLength?_pos {s : List Char} {n : Nat} (h : referenceLength? s = some n) : 0 < n := by
  unfold referenceLength? at h
  split at h
  · simp only at h
    split at h
    · cases h
    · cases h
      omega
  · cases h

theorem join_pieces (s : List Char) : (pieces s).join = s :=
  Text.join_cut (fun _ _ => referenceLength?_pos) s

end Template

end SheetSuite
