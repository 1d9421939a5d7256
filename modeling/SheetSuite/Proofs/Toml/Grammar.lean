import SheetSuite.Toml.Parser

namespace SheetSuite.Toml

inductive Literal where
  | text (s : String)
  | number (n : Nat)
  | flag (b : Bool)
  deriving Repr, DecidableEq

def Literal.value : Literal → Value
  | text s => .string s
  | number n => .integer n
  | flag b => .boolean b

/-- A text that may stand between quotes as it is. -/
def IsPlain (s : List Char) : Prop :=
  ∀ c ∈ s, c ≠ '"' ∧ c ≠ '\\' ∧ isControl c = false

instance (s : List Char) : Decidable (IsPlain s) :=
  decidable_of_iff (s.all fun c => c != '"' && c != '\\' && !isControl c)
    (by simp [IsPlain, and_assoc])

inductive IsLiteral : Literal → List Char → Prop
  | text {s : String} : IsPlain s.toList → IsLiteral (.text s) ('"' :: (s.toList ++ ['"']))
  | number (n : Nat) : IsLiteral (.number n) (toString n).toList
  | yes : IsLiteral (.flag true) ['t', 'r', 'u', 'e']
  | no : IsLiteral (.flag false) ['f', 'a', 'l', 's', 'e']

def AreBlanks (s : List Char) : Prop :=
  ∀ c ∈ s, isBlank c = true

def IsBare (s : List Char) : Prop :=
  s ≠ [] ∧ ∀ c ∈ s, isKeyChar c = true

instance (s : List Char) : Decidable (IsBare s) :=
  decidable_of_iff (s ≠ [] ∧ s.all isKeyChar = true) (by simp [IsBare])

inductive Statement where
  | header (name : String)
  | member (key : String) (value : Literal)
  deriving Repr, DecidableEq

def Statement.line : Statement → Line
  | header name => .header [name]
  | member key value => .assignment [key] value.value

inductive IsStatement : Statement → List Char → Prop
  | header {name : String} {b b' : List Char} : IsBare name.toList → AreBlanks b → AreBlanks b' →
      IsStatement (.header name) ('[' :: (b ++ (name.toList ++ (b' ++ [']']))))
  | member {key : String} {l : Literal} {b b' v : List Char} : IsBare key.toList → AreBlanks b →
      AreBlanks b' → IsLiteral l v → IsStatement (.member key l) (key.toList ++ (b ++ '=' :: (b' ++ v)))

inductive IsComment : List Char → Prop
  | none : IsComment []
  | some {s : List Char} : (∀ c ∈ s, isControl c = false) → IsComment ('#' :: s)

/-- The end of a line before a text. The last line may end without one. -/
inductive IsEnd : List Char → List Char → Prop
  | feed (t : List Char) : IsEnd ['\n'] t
  | returnFeed (t : List Char) : IsEnd ['\r', '\n'] t
  | ofText : IsEnd [] []

inductive IsRest : List Char → List Char → Prop
  | mk {b c e t : List Char} : AreBlanks b → IsComment c → IsEnd e t → IsRest (b ++ (c ++ e)) t

inductive Document : List Statement → List Char → Prop
  | nil : Document [] []
  | rest {sts : List Statement} {r t : List Char} :
      r ≠ [] → IsRest r t → Document sts t → Document sts (r ++ t)
  | statement {st : Statement} {sts : List Statement} {b s r t : List Char} :
      AreBlanks b → IsStatement st s → IsRest r t → Document sts t →
        Document (st :: sts) (b ++ (s ++ (r ++ t)))

def Literal.write : Literal → List Char
  | text s => '"' :: (s.toList ++ ['"'])
  | number n => (toString n).toList
  | flag true => ['t', 'r', 'u', 'e']
  | flag false => ['f', 'a', 'l', 's', 'e']

def Statement.write : Statement → List Char
  | header name => '[' :: (name.toList ++ [']'])
  | member key l => key.toList ++ (' ' :: '=' :: ' ' :: l.write)

def Statement.IsWritable : Statement → Prop
  | header name => IsBare name.toList
  | member key (.text s) => IsBare key.toList ∧ IsPlain s.toList
  | member key _ => IsBare key.toList

theorem Statement.IsWritable.write {st : Statement} (writable : st.IsWritable) :
    IsStatement st st.write := by
  have nothing : AreBlanks [] := by simp [AreBlanks]
  have space : AreBlanks [' '] := by simp [AreBlanks, isBlank]
  cases st with
  | header name => exact .header writable nothing nothing
  | member key l =>
      cases l with
      | text s => exact .member writable.1 space space (.text writable.2)
      | number n => exact .member writable space space (.number n)
      | flag b =>
          cases b with
          | true => exact .member writable space space .yes
          | false => exact .member writable space space .no

theorem document_write {sts : List Statement} (writable : ∀ st ∈ sts, st.IsWritable) :
    Document sts (sts.flatMap fun st => st.write ++ ['\n']) := by
  induction sts with
  | nil => exact .nil
  | cons st sts ih =>
      obtain ⟨first, writable⟩ := List.forall_mem_cons.1 writable
      have nothing : AreBlanks [] := by simp [AreBlanks]
      have ending : IsRest ['\n'] (sts.flatMap fun st => st.write ++ ['\n']) :=
        .mk nothing .none (.feed _)
      simpa using Document.statement nothing first.write ending (ih writable)

end SheetSuite.Toml
