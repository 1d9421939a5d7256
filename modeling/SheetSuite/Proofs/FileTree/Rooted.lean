import SheetSuite.Proofs.FileTree.Growth

/-!
# Trees in which every entry lies in a directory

A tree is a list of entries, and nothing in that keeps an entry from lying in no directory. On a disk there
is no such entry (`Rooted`), and no operation makes one. In such a tree a path without two dots leads to
whatever is at the place that its names spell (`Rooted.locate_of_locate`), so that new directories elsewhere
do not change what it means.
-/

namespace SheetSuite

namespace Path

/-- The last name of the path is this one, which is no dot and no two dots. -/
def EndsIn (path : Path) (name : String) : Prop :=
  path.names.getLast? = some name ∧ name ≠ "." ∧ name ≠ ".."

theorem endsIn_join (base : Path) {name : String} (h : IsName name) (plain : name ≠ "." ∧ name ≠ "..") :
    (base.join name).EndsIn name := by
  refine ⟨?_, plain⟩
  rw [names_join h.isAbsolute, names_of_isName h]
  simp

theorem isAbsolute_of_names_nil {path : Path} (full : path ≠ "") (h : path.names = []) :
    path.isAbsolute = true := by
  obtain ⟨c, s, chars⟩ := List.exists_cons_of_ne_nil (show path.toList ≠ [] by simpa using full)
  by_cases slash : c = '/'
  · simp [isAbsolute, chars, slash]
  · simp only [names, chars, List.map_eq_nil_iff, List.filter_eq_nil_iff] at h
    rw [Text.split] at h
    cases parts : Text.split (· == '/') s with
    | nil => simp [slash, parts] at h
    | cons first parts => simp [slash, parts] at h

end Path

namespace FileTree

variable {t t' : FileTree} {l d : Location} {path : Path} {name : String} {node : Node}

/-- Every entry lies in a directory. -/
def Rooted (t : FileTree) : Prop :=
  ∀ ⦃name l node⦄, t.get? (name :: l) = some node → t.get? l = some .directory

theorem rooted_of_entries (h : ∀ entry ∈ t.entries, t.get? entry.1.tail = some .directory) :
    t.Rooted := by
  intro name l node found
  obtain ⟨before, after, entries, -⟩ := List.lookup_eq_some_iff.1 found
  exact h (name :: l, node) (by simp [entries])

theorem Rooted.above (rooted : t.Rooted) {xs : List String}
    (h : t.get? (xs ++ l) = some .directory) : t.get? l = some .directory := by
  induction xs with
  | nil => exact h
  | cons x xs ih => exact ih (rooted h)

/-! ## Changes -/

theorem Rooted.put (rooted : t.Rooted) (held : t.get? d = some .directory)
    (kept : t.get? (name :: d) = some .directory → node = .directory) :
    (t.put (name :: d) node).Rooted := by
  have below : d ≠ name :: d := by simp
  intro n k other found
  by_cases same : n :: k = name :: d
  · obtain ⟨rfl, rfl⟩ := List.cons.inj same
    rw [get?_put_of_ne _ _ below, held]
  · rw [get?_put_of_ne _ _ same] at found
    have directory := rooted found
    by_cases inside : k = name :: d
    · rw [inside] at directory ⊢
      rw [get?_put_self _ _ (List.cons_ne_nil _ _), kept directory]
    · rw [get?_put_of_ne _ _ inside, directory]

theorem Rooted.erase (rooted : t.Rooted) (free : t.get? l ≠ some .directory) : (t.erase l).Rooted := by
  intro n k node found
  have proper : l ≠ [] := by
    rintro rfl
    exact free rfl
  have other : n :: k ≠ l := by
    rintro rfl
    rw [get?_erase_self _ proper] at found
    cases found
  rw [get?_erase_of_ne _ other] at found
  have directory := rooted found
  rw [get?_erase_of_ne, directory]
  rintro rfl
  exact free directory

theorem makeDirectory_rooted (rooted : t.Rooted) (h : t.makeDirectory path = .ok t') : t'.Rooted := by
  unfold makeDirectory at h
  obtain ⟨⟨d, last⟩, located, h⟩ := bind_eq_ok.1 h
  cases last with
  | none => cases h
  | some name =>
      obtain ⟨-, front, -, -, -, held⟩ := locateLast_ok_some.1 located
      dsimp only at h
      split at h
      · cases h
      · split at h
        · cases h
        · obtain ⟨-, -, h⟩ := bind_eq_ok.1 h
          obtain rfl := Except.ok.inj h
          exact rooted.put held fun _ => rfl

/-- What every new directory keeps, an attempt to make some of them keeps. -/
theorem makeDirectoriesFrom_keeps {P : FileTree → Prop}
    (keeps : ∀ {t t' : FileTree} {path : Path}, P t → t.makeDirectory path = .ok t' → P t')
    (paths : List Path) (h : P t) : P (t.makeDirectoriesFrom paths).2 := by
  fun_induction makeDirectoriesFrom t paths with
  | case1 => exact h
  | case2 => exact h
  | case3 path above full t' done => exact keeps h done
  | case4 path above full missing fault t' failed ih =>
      rw [failed] at ih
      exact ih
  | case5 path above full missing t' held t'' done ih =>
      rw [held] at ih
      exact keeps ih done
  | case6 path above full missing t' held fault failed there ih =>
      rw [held] at ih
      exact ih
  | case7 path above full missing t' held fault failed absent ih =>
      rw [held] at ih
      exact ih
  | case8 => exact h
  | case9 => exact h

theorem makeDirectories_rooted (rooted : t.Rooted) (path : Path) : (t.makeDirectories path).2.Rooted :=
  makeDirectoriesFrom_keeps makeDirectory_rooted (path :: path.above) rooted

/-! ## Places -/

def spelled (l : Location) (names : List String) : Location :=
  (names.filter (· != ".")).reverse ++ l

theorem spelled_dot (l : Location) (names : List String) : spelled l ("." :: names) = spelled l names := by
  simp [spelled]

theorem spelled_cons (plain : name ≠ ".") (l : Location) (names : List String) :
    spelled l (name :: names) = spelled (name :: l) names := by
  simp [spelled, plain]

theorem walk_eq_spelled {names : List String} (straight : ".." ∉ names)
    (walked : t.walk l names = .ok d) : d = spelled l names := by
  induction names generalizing l with
  | nil => simpa [walk, spelled, eq_comm] using walked
  | cons name names ih =>
      rw [List.mem_cons, not_or] at straight
      obtain ⟨-, ⟨rfl, rest⟩ | ⟨rfl, -⟩ | ⟨plain, -, -, rest⟩⟩ := walk_cons_ok.1 walked
      · rw [spelled_dot]
        exact ih straight.2 rest
      · exact absurd rfl straight.1
      · rw [spelled_cons plain.1]
        exact ih straight.2 rest

/-- The names can be followed in a rooted tree if they can be followed in some tree, and lead to a
directory of the rooted one. -/
theorem Rooted.walk_of_walk (rooted : t.Rooted) {names : List String} (straight : ".." ∉ names)
    (walked : t'.walk l names = .ok d) (directory : t.get? d = some .directory) :
    t.walk l names = .ok d := by
  have place := walk_eq_spelled straight walked
  induction names generalizing l with
  | nil => simpa [walk] using walked
  | cons name names ih =>
      have start : t.get? l = some .directory := by
        rw [place, spelled] at directory
        exact rooted.above directory
      rw [List.mem_cons, not_or] at straight
      obtain ⟨-, ⟨rfl, rest⟩ | ⟨rfl, -⟩ | ⟨plain, short, -, rest⟩⟩ := walk_cons_ok.1 walked
      · rw [spelled_dot] at place
        exact walk_cons_ok.2 ⟨start, Or.inl ⟨rfl, ih straight.2 rest place⟩⟩
      · exact absurd rfl straight.1
      · rw [spelled_cons plain.1] at place
        have next : t.get? (name :: l) = some .directory := by
          rw [place, spelled] at directory
          exact rooted.above directory
        refine walk_cons_ok.2 ⟨start, Or.inr (Or.inr ⟨plain, short, by simp [next], ?_⟩)⟩
        exact ih straight.2 rest place

/-! ## Paths that end in a name -/

theorem locateLast_of_locate (ends : path.EndsIn name) (located : t.locate path = .ok l) :
    ∃ d, l = name :: d ∧ t.locateLast path = .ok (d, some name) ∧ isTooLong name = false ∧
      (t.get? l).isSome = true := by
  obtain ⟨checked, walked, -⟩ := locate_ok.1 located
  obtain ⟨front, names⟩ := List.getLast?_eq_some_iff.1 ends.1
  rw [names, walk_append_ok] at walked
  obtain ⟨d, first, last⟩ := walked
  obtain ⟨held, ⟨dot, -⟩ | ⟨dots, -⟩ | ⟨-, short, found, stop⟩⟩ := walk_cons_ok.1 last
  · exact absurd dot ends.2.1
  · exact absurd dots ends.2.2
  · obtain rfl : name :: d = l := by simpa [walk] using stop
    exact ⟨d, rfl, locateLast_ok_some.2 ⟨checked, front, names, ends.2, first, held⟩, short, found⟩

theorem locate_kept (ends : path.EndsIn name) (located : t.locate path = .ok l)
    (home : t'.home = t.home) (kept : ∀ l, t.get? l = some .directory → t'.get? l = some .directory)
    (found : t'.get? l = some node) (slash : path.endsInSlash = true → node = .directory) :
    t'.locate path = .ok l := by
  obtain ⟨d, rfl, last, short, -⟩ := locateLast_of_locate ends located
  exact locate_of_locateLast home kept last short found slash

/-- In a rooted tree, a path without two dots leads to the place to which it leads in another tree, if
something of the right kind is there. -/
theorem Rooted.locate_of_locate (rooted : t.Rooted) (ends : path.EndsIn name)
    (straight : ".." ∉ path.names) (home : t'.home = t.home) (located : t'.locate path = .ok l)
    (found : t.get? l = some node) (slash : path.endsInSlash = true → node = .directory) :
    t.locate path = .ok l := by
  obtain ⟨d, rfl, last, short, -⟩ := locateLast_of_locate ends located
  obtain ⟨checked, front, names, plain, walked, -⟩ := locateLast_ok_some.1 last
  rw [startOf_congr home] at walked
  have held := rooted found
  have within : ".." ∉ front := by
    intro member
    exact straight (by simp [names, member])
  have walked' := rooted.walk_of_walk within walked held
  have last' := locateLast_ok_some.2 ⟨checked, front, names, plain, walked', held⟩
  exact locate_of_locateLast rfl (fun _ => id) last' short found slash

theorem Rooted.endsIn_of_file (rooted : t.Rooted) {data : List UInt8} (located : t.locate path = .ok l)
    (found : t.get? l = some (.file data)) :
    ∃ name d, l = name :: d ∧ path.EndsIn name ∧ path.endsInSlash = false := by
  obtain ⟨checked, walked, slash⟩ := locate_ok.1 located
  have slashless : path.endsInSlash = false := by
    by_contra ends
    rw [slash (by simpa using ends)] at found
    cases found
  cases names : path.names.getLast? with
  | none =>
      have none := List.getLast?_eq_none_iff.1 names
      have full : path ≠ "" := by
        rintro rfl
        cases checked
      have absolute := Path.isAbsolute_of_names_nil full none
      rw [none, startOf, if_pos absolute] at walked
      obtain rfl : [] = l := by simpa [walk] using walked
      cases found
  | some name =>
      obtain ⟨front, split⟩ := List.getLast?_eq_some_iff.1 names
      rw [split, walk_append_ok] at walked
      obtain ⟨d, -, last⟩ := walked
      obtain ⟨held, ⟨-, stop⟩ | ⟨-, stop⟩ | ⟨plain, -, -, stop⟩⟩ := walk_cons_ok.1 last
      · obtain rfl : d = l := by simpa [walk] using stop
        rw [held] at found
        cases found
      · obtain rfl : d.tail = l := by simpa [walk] using stop
        have above : t.get? d.tail = some .directory := by
          cases d with
          | nil => rfl
          | cons n d => exact rooted held
        rw [above] at found
        cases found
      · obtain rfl : name :: d = l := by simpa [walk] using stop
        exact ⟨name, d, rfl, ⟨names, plain⟩, slashless⟩

end FileTree

end SheetSuite
