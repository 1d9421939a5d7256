import SheetSuite.FileTree.Basic
import Mathlib.Data.List.Infix

namespace SheetSuite

theorem Text.split_eq_splitOnP (isSeparator : Char → Bool) (s : List Char) :
    split isSeparator s = s.splitOnP isSeparator := by
  induction s with
  | nil => rfl
  | cons c s ih =>
      rw [List.splitOnP_cons_eq_if_modifyHead, split, ih]
      cases h : isSeparator c with
      | true => simp
      | false =>
          cases parts : s.splitOnP isSeparator with
          | nil => exact absurd parts (List.splitOnP_ne_nil _ _)
          | cons part parts => simp

theorem Text.split_append_cons {isSeparator : Char → Bool} {c : Char} (h : isSeparator c = true)
    (s t : List Char) :
    split isSeparator (s ++ c :: t) = split isSeparator s ++ split isSeparator t := by
  simp only [split_eq_splitOnP]
  exact List.splitOnP_append_cons s t h

theorem Text.not_isSeparator_of_mem_split {isSeparator : Char → Bool} {s part : List Char}
    (h : part ∈ split isSeparator s) : ∀ c ∈ part, isSeparator c = false := by
  induction s generalizing part with
  | nil =>
      rw [split, List.mem_singleton] at h
      simp [h]
  | cons c s ih =>
      rw [split] at h
      split at h
      · rcases List.mem_cons.1 h with rfl | h
        · simp
        · exact ih h
      · rename_i plain
        split at h
        · rename_i first parts equal
          rcases List.mem_cons.1 h with rfl | h
          · have rest := ih (show first ∈ Text.split isSeparator s by simp [equal])
            intro d hd
            rcases List.mem_cons.1 hd with rfl | hd
            · simpa using plain
            · exact rest d hd
          · exact ih (show part ∈ Text.split isSeparator s by simp [equal, h])
        · rw [List.mem_singleton] at h
          simp [h, plain]

namespace Path

def IsName (name : String) : Prop :=
  name ≠ "" ∧ '/' ∉ name.toList

instance (name : String) : Decidable (IsName name) :=
  inferInstanceAs (Decidable (_ ∧ _))

def IsStartOf (start path : Path) : Prop :=
  start.isAbsolute = path.isAbsolute ∧ start.steps <+: path.steps

theorem IsStartOf.refl (path : Path) : path.IsStartOf path :=
  ⟨rfl, List.prefix_refl _⟩

theorem IsStartOf.trans {p q r : Path} (hpq : p.IsStartOf q) (hqr : q.IsStartOf r) : p.IsStartOf r :=
  ⟨hpq.1.trans hqr.1, hpq.2.trans hqr.2⟩

/-! ## Names -/

theorem names_append_slash (a b : String) : names (a ++ "/" ++ b) = names a ++ names b := by
  have toList : (a ++ "/" ++ b).toList = a.toList ++ '/' :: b.toList := by simp
  rw [names, toList, Text.split_append_cons rfl, List.filter_append, List.map_append, names, names]

@[simp] theorem names_empty : names "" = [] := by decide

theorem names_of_endsInSlash {base : Path} (h : base.endsInSlash = true) (path : Path) :
    names (base ++ path) = names base ++ names path := by
  have last : base.toList.getLast? = some '/' := by simpa [endsInSlash] using h
  obtain ⟨front, split⟩ := List.getLast?_eq_some_iff.1 last
  have whole : base = String.ofList front ++ "/" := by
    rw [← String.toList_inj]
    simp [split]
  have own := names_append_slash (String.ofList front) ""
  rw [String.append_empty, names_empty, List.append_nil] at own
  rw [whole, names_append_slash, own]

theorem names_join {path : Path} (relative : path.isAbsolute = false) (base : Path) :
    (base.join path).names = base.names ++ path.names := by
  unfold join
  rw [if_neg (by simp [relative])]
  by_cases empty : base = ""
  · subst empty
    simp
  · by_cases slash : base.endsInSlash = true
    · rw [if_pos (by simp [slash]), names_of_endsInSlash slash]
    · rw [if_neg (by simp [slash, empty]), names_append_slash]

theorem isName_of_mem_names {path : Path} {name : String} (h : name ∈ path.names) : IsName name := by
  simp only [names, List.mem_map, List.mem_filter] at h
  obtain ⟨part, ⟨member, full⟩, rfl⟩ := h
  constructor
  · intro empty
    have : part = [] := by simpa using congrArg String.toList empty
    simp [this] at full
  · intro slash
    rw [String.toList_ofList] at slash
    simpa using Text.not_isSeparator_of_mem_split member _ slash

theorem names_of_isName {name : String} (h : IsName name) : names name = [name] := by
  have plain : ∀ c ∈ name.toList, (c == '/') = false := by
    intro c hc
    rw [beq_eq_false_iff_ne]
    rintro rfl
    exact h.2 hc
  have full : name.toList ≠ [] := by
    simpa using h.1
  simp [names, Text.split_eq_splitOnP, List.splitOnP_eq_singleton plain, full]

theorem names_intercalate {xs : List String} (h : ∀ x ∈ xs, IsName x) :
    names ("/".intercalate xs) = xs := by
  induction xs with
  | nil => simp
  | cons x xs ih =>
      cases xs with
      | nil => simpa using names_of_isName (h x (by simp))
      | cons y ys =>
          rw [String.intercalate_cons_cons, names_append_slash, names_of_isName (h x (by simp)),
            ih fun z hz => h z (List.mem_cons_of_mem x hz)]
          rfl

/-! ## Steps -/

theorem isAbsolute_join {path : Path} (relative : path.isAbsolute = false) (base : Path) :
    (base.join path).isAbsolute = base.isAbsolute := by
  unfold join
  rw [if_neg (by simp [relative])]
  by_cases empty : base = ""
  · subst empty
    simpa [isAbsolute] using relative
  · have head (rest : String) : (base ++ rest).isAbsolute = base.isAbsolute := by
      have full : base.toList ≠ [] := by simpa using empty
      simp [isAbsolute, List.head?_append_of_ne_nil _ full]
    split
    · exact head path
    · rw [String.append_assoc]
      exact head ("/" ++ path)

def countedNames (absolute : Bool) : List String → List String
  | [] => []
  | name :: rest =>
      if name == "." && absolute then rest.filter (· != ".") else name :: rest.filter (· != ".")

theorem steps_eq_countedNames (path : Path) :
    path.steps = countedNames path.isAbsolute path.names := by
  unfold steps
  cases path.names <;> rfl

theorem countedNames_cons_of_dropped {absolute : Bool} {name : String}
    (h : (name == "." && absolute) = true) (rest : List String) :
    countedNames absolute (name :: rest) = rest.filter (· != ".") := by
  simp only [countedNames, h, if_true]

theorem countedNames_cons_of_kept {absolute : Bool} {name : String}
    (h : ¬(name == "." && absolute) = true) (rest : List String) :
    countedNames absolute (name :: rest) = name :: rest.filter (· != ".") := by
  simp only [countedNames, h, Bool.false_eq_true, if_false]

theorem mem_of_mem_countedNames {absolute : Bool} {names : List String} {name : String}
    (h : name ∈ countedNames absolute names) : name ∈ names := by
  cases names with
  | nil => exact h
  | cons first rest =>
      by_cases dot : (first == "." && absolute) = true
      · rw [countedNames_cons_of_dropped dot] at h
        exact List.mem_cons_of_mem _ (List.mem_of_mem_filter h)
      · rw [countedNames_cons_of_kept dot] at h
        rcases List.mem_cons.1 h with rfl | h
        · exact List.mem_cons_self
        · exact List.mem_cons_of_mem _ (List.mem_of_mem_filter h)

theorem countedNames_of_dotless {absolute : Bool} {names : List String}
    (h : ∀ name ∈ names, name ≠ ".") : countedNames absolute names = names := by
  cases names with
  | nil => rfl
  | cons first rest =>
      have plain : rest.filter (· != ".") = rest :=
        List.filter_eq_self.2 fun x hx => by simpa using h x (List.mem_cons_of_mem _ hx)
      simp [countedNames, plain, h first List.mem_cons_self]

/-- The dots are gone once only the names that count are left, so these all count. -/
theorem countedNames_take_countedNames (absolute : Bool) (names : List String) (n : Nat) :
    countedNames absolute ((countedNames absolute names).take n) =
      (countedNames absolute names).take n := by
  cases names with
  | nil => simp [countedNames]
  | cons first rest =>
      have dotless (k : Nat) : ((rest.filter (· != ".")).take k).filter (· != ".") =
          (rest.filter (· != ".")).take k :=
        List.filter_eq_self.2 fun x hx => (List.mem_filter.1 (List.mem_of_mem_take hx)).2
      by_cases dot : (first == "." && absolute) = true
      · rw [countedNames_cons_of_dropped dot]
        apply countedNames_of_dotless
        intro x hx
        rw [← dotless] at hx
        simpa using (List.mem_filter.1 hx).2
      · rw [countedNames_cons_of_kept dot]
        cases n with
        | zero => rfl
        | succ n => rw [List.take_succ_cons, countedNames_cons_of_kept dot, dotless]

theorem countedNames_append_singleton (absolute : Bool) (names : List String) {name : String}
    (h : name ≠ ".") :
    countedNames absolute (names ++ [name]) = countedNames absolute names ++ [name] := by
  cases names with
  | nil => simp [countedNames, h]
  | cons first rest =>
      have last : [name].filter (· != ".") = [name] := by simp [h]
      by_cases dot : (first == "." && absolute) = true
      · rw [List.cons_append, countedNames_cons_of_dropped dot, countedNames_cons_of_dropped dot,
          List.filter_append, last]
      · rw [List.cons_append, countedNames_cons_of_kept dot, countedNames_cons_of_kept dot,
          List.filter_append, last, List.cons_append]

theorem isName_of_mem_steps {path : Path} {name : String} (h : name ∈ path.steps) : IsName name := by
  rw [steps_eq_countedNames] at h
  exact isName_of_mem_names (mem_of_mem_countedNames h)

theorem names_ofSteps (absolute : Bool) {xs : List String} (h : ∀ x ∈ xs, IsName x) :
    (ofSteps absolute xs).names = xs := by
  cases absolute with
  | false => simpa [ofSteps] using names_intercalate h
  | true =>
      have := names_append_slash "" ("/".intercalate xs)
      rwa [String.empty_append, names_empty, List.nil_append, names_intercalate h] at this

theorem isAbsolute_ofSteps (absolute : Bool) {xs : List String} (h : ∀ x ∈ xs, IsName x) :
    (ofSteps absolute xs).isAbsolute = absolute := by
  cases absolute with
  | true => simp [ofSteps, isAbsolute]
  | false =>
      cases xs with
      | nil => simp [ofSteps, isAbsolute]
      | cons x xs =>
          -- The first name is not empty, so its first character is that of the whole path.
          obtain ⟨full, slashless⟩ := h x List.mem_cons_self
          obtain ⟨c, rest, chars⟩ := List.exists_cons_of_ne_nil (show x.toList ≠ [] by simpa using full)
          have head : c ≠ '/' := by
            rintro rfl
            exact slashless (by rw [chars]; exact List.mem_cons_self)
          cases xs with
          | nil => simp [ofSteps, isAbsolute, chars, head]
          | cons y ys => simp [ofSteps, isAbsolute, chars, head]

theorem steps_ofSteps_take (path : Path) (n : Nat) :
    (ofSteps path.isAbsolute (path.steps.take n)).steps = path.steps.take n := by
  have names : ∀ x ∈ path.steps.take n, IsName x :=
    fun x hx => isName_of_mem_steps (List.mem_of_mem_take hx)
  rw [steps_eq_countedNames (ofSteps _ _), isAbsolute_ofSteps _ names, names_ofSteps _ names,
    steps_eq_countedNames path]
  exact countedNames_take_countedNames _ _ _

theorem IsName.isAbsolute {name : String} (h : IsName name) : Path.isAbsolute name = false := by
  have := isAbsolute_ofSteps false (show ∀ x ∈ [name], IsName x by simpa using h)
  simpa [ofSteps] using this

theorem steps_join_name (base : Path) {name : String} (h : IsName name) (undotted : name ≠ ".") :
    (base.join name).steps = base.steps ++ [name] := by
  rw [steps_eq_countedNames, isAbsolute_join h.isAbsolute, names_join h.isAbsolute, names_of_isName h,
    countedNames_append_singleton _ _ undotted, ← steps_eq_countedNames]

theorem join_name_ne_empty (base : Path) {name : String} (h : IsName name) : base.join name ≠ "" := by
  intro empty
  have names := names_join h.isAbsolute base
  rw [empty, names_empty, names_of_isName h] at names
  simp at names

/-! ## Paths above a path -/

theorem ofSteps_take_isStartOf (path : Path) (n : Nat) :
    (ofSteps path.isAbsolute (path.steps.take n)).IsStartOf path := by
  constructor
  · exact isAbsolute_ofSteps _ fun x hx => isName_of_mem_steps (List.mem_of_mem_take hx)
  · rw [steps_ofSteps_take]
    exact List.take_prefix _ _

theorem isStartOf_of_mem_above {start path : Path} (h : start ∈ path.above) : start.IsStartOf path := by
  simp only [above, List.mem_map, List.mem_reverse] at h
  obtain ⟨n, -, rfl⟩ := h
  exact ofSteps_take_isStartOf path n

theorem parent?_of_steps {path : Path} {front : List String} {last : String}
    (h : path.steps = front ++ [last]) : path.parent? = some (ofSteps path.isAbsolute front) := by
  have nearest : (List.range (front ++ [last]).length).reverse =
      front.length :: (List.range front.length).reverse := by
    simp [List.range_succ]
  simp only [parent?, above, h, nearest, List.map_cons, List.head?_cons, List.take_left]

theorem directory_cases (path : Path) :
    path.directory = "." ∨ path.directory = ofSteps path.isAbsolute path.steps.dropLast := by
  unfold directory
  rcases List.eq_nil_or_concat path.steps with empty | ⟨front, last, equal⟩
  · left
    simp [parent?, above, empty]
  · rw [List.concat_eq_append] at equal
    rw [parent?_of_steps equal, equal, List.dropLast_concat]
    dsimp only
    split
    · exact Or.inl rfl
    · exact Or.inr rfl

/-- The directory of an entry is a start of the path of each of its siblings, unless it is only said by
a dot. -/
theorem directory_join_name (base : Path) {name other : String} (h : IsName name)
    (undotted : name ≠ ".") (h' : IsName other) (undotted' : other ≠ ".") :
    (base.join name).directory = "." ∨ (base.join name).directory.IsStartOf (base.join other) := by
  rcases directory_cases (base.join name) with dot | equal
  · exact Or.inl dot
  · right
    have start := ofSteps_take_isStartOf (base.join other) base.steps.length
    rw [steps_join_name base h' undotted', List.take_left, isAbsolute_join h'.isAbsolute] at start
    rwa [equal, steps_join_name base h undotted, List.dropLast_concat, isAbsolute_join h.isAbsolute]

end Path

end SheetSuite
