import SheetSuite.FileTree.Operations
import SheetSuite.Proofs.Except

namespace SheetSuite.FileTree

variable {t t' : FileTree} {l d : Location} {path : Path} {name : String}

@[simp] theorem isDirectory_iff : t.isDirectory l = true ↔ t.get? l = some .directory := by
  simp [isDirectory]

theorem walk_cons_ok {names : List String} :
    t.walk l (name :: names) = .ok d ↔ t.get? l = some .directory ∧
      (name = "." ∧ t.walk l names = .ok d ∨
        name = ".." ∧ t.walk l.tail names = .ok d ∨
        (name ≠ "." ∧ name ≠ "..") ∧ isTooLong name = false ∧ (t.get? (name :: l)).isSome ∧
          t.walk (name :: l) names = .ok d) := by
  rw [walk]
  by_cases directory : t.get? l = some .directory
  · by_cases dot : name = "."
    · subst dot
      simp [isDirectory, directory]
    · by_cases dots : name = ".."
      · subst dots
        simp [isDirectory, directory]
      · by_cases long : isTooLong name = true
        · simp [isDirectory, directory, dot, dots, long]
        · cases t.get? (name :: l) <;> simp [isDirectory, directory, dot, dots, long]
  · simp [isDirectory, directory]

theorem walk_append_ok {xs ys : List String} :
    t.walk l (xs ++ ys) = .ok d ↔ ∃ m, t.walk l xs = .ok m ∧ t.walk m ys = .ok d := by
  induction xs generalizing l with
  | nil => simp [walk]
  | cons x xs ih =>
      simp only [List.cons_append, walk_cons_ok, ih]
      constructor
      · rintro ⟨directory, ⟨dot, m, first, last⟩ | ⟨dots, m, first, last⟩ |
          ⟨plain, short, found, m, first, last⟩⟩
        · exact ⟨m, ⟨directory, Or.inl ⟨dot, first⟩⟩, last⟩
        · exact ⟨m, ⟨directory, Or.inr (Or.inl ⟨dots, first⟩)⟩, last⟩
        · exact ⟨m, ⟨directory, Or.inr (Or.inr ⟨plain, short, found, first⟩)⟩, last⟩
      · rintro ⟨m, ⟨directory, ⟨dot, first⟩ | ⟨dots, first⟩ | ⟨plain, short, found, first⟩⟩, last⟩
        · exact ⟨directory, Or.inl ⟨dot, m, first, last⟩⟩
        · exact ⟨directory, Or.inr (Or.inl ⟨dots, m, first, last⟩)⟩
        · exact ⟨directory, Or.inr (Or.inr ⟨plain, short, found, m, first, last⟩)⟩

theorem directory_of_walk {names : List String} (walked : t.walk l names = .ok d)
    (directory : t.get? d = some .directory) : t.get? l = some .directory := by
  cases names with
  | nil =>
      obtain rfl : l = d := by simpa [walk] using walked
      exact directory
  | cons name names => exact (walk_cons_ok.1 walked).1

theorem walk_mono {names : List String}
    (kept : ∀ l, t.get? l = some .directory → t'.get? l = some .directory)
    (walked : t.walk l names = .ok d) (directory : t.get? d = some .directory) :
    t'.walk l names = .ok d := by
  induction names generalizing l with
  | nil => simpa [walk] using walked
  | cons name names ih =>
      rw [walk_cons_ok] at walked ⊢
      obtain ⟨start, ⟨dot, rest⟩ | ⟨dots, rest⟩ | ⟨plain, short, -, rest⟩⟩ := walked
      · exact ⟨kept _ start, Or.inl ⟨dot, ih rest⟩⟩
      · exact ⟨kept _ start, Or.inr (Or.inl ⟨dots, ih rest⟩)⟩
      · have found := kept _ (directory_of_walk rest directory)
        exact ⟨kept _ start, Or.inr (Or.inr ⟨plain, short, by simp [found], ih rest⟩)⟩

theorem locate_ok : t.locate path = .ok l ↔ checkPath path = .ok () ∧
    t.walk (t.startOf path) path.names = .ok l ∧
      (path.endsInSlash = true → t.get? l = some .directory) := by
  unfold locate
  simp only [bind_eq_ok]
  constructor
  · rintro ⟨⟨⟩, checked, m, walked, h⟩
    split at h
    · cases h
    · rename_i ends
      obtain rfl : m = l := by simpa using h
      exact ⟨checked, walked, by simpa using ends⟩
  · rintro ⟨checked, walked, ends⟩
    refine ⟨(), checked, l, walked, ?_⟩
    rw [if_neg]
    simpa using ends

theorem startOf_congr (home : t'.home = t.home) (path : Path) : t'.startOf path = t.startOf path := by
  unfold startOf
  rw [home]

theorem locate_mono (home : t'.home = t.home)
    (kept : ∀ l, t.get? l = some .directory → t'.get? l = some .directory)
    (located : t.locate path = .ok l) (directory : t.get? l = some .directory) :
    t'.locate path = .ok l := by
  obtain ⟨checked, walked, -⟩ := locate_ok.1 located
  rw [← startOf_congr home] at walked
  exact locate_ok.2 ⟨checked, walk_mono kept walked directory, fun _ => kept _ directory⟩

theorem read_of_locate {data : List UInt8} (located : t.locate path = .ok l)
    (found : t.get? l = some (.file data)) : t.read path = .ok data := by
  simp [read, located, found]

theorem isDirectoryAt_iff :
    t.isDirectoryAt path = true ↔ ∃ l, t.locate path = .ok l ∧ t.get? l = some .directory := by
  unfold isDirectoryAt
  cases t.locate path with
  | error fault => simp
  | ok l => simp

theorem isDirectoryAt_mono (home : t'.home = t.home)
    (kept : ∀ l, t.get? l = some .directory → t'.get? l = some .directory)
    (h : t.isDirectoryAt path = true) : t'.isDirectoryAt path = true := by
  obtain ⟨l, located, directory⟩ := isDirectoryAt_iff.1 h
  exact isDirectoryAt_iff.2 ⟨l, locate_mono home kept located directory, kept l directory⟩

theorem locateLast_ok_some : t.locateLast path = .ok (d, some name) ↔ checkPath path = .ok () ∧
    ∃ front, path.names = front ++ [name] ∧ (name ≠ "." ∧ name ≠ "..") ∧
      t.walk (t.startOf path) front = .ok d ∧ t.get? d = some .directory := by
  unfold locateLast
  simp only [bind_eq_ok]
  constructor
  · rintro ⟨⟨⟩, checked, m, walked, h⟩
    split at h
    · cases h
    · rename_i directory
      split at h
      · cases h
      · rename_i last ends
        obtain ⟨front, names⟩ := List.getLast?_eq_some_iff.1 ends
        simp only [Except.ok.injEq, Prod.mk.injEq] at h
        obtain ⟨rfl, h⟩ := h
        split at h
        · cases h
        · rename_i undotted
          obtain rfl : last = name := by simpa using h
          rw [names, List.dropLast_concat] at walked
          exact ⟨checked, front, names, by simpa using undotted, walked, by simpa using directory⟩
  · rintro ⟨checked, front, names, plain, walked, directory⟩
    refine ⟨(), checked, d, by simpa [names] using walked, ?_⟩
    simp [names, plain, directory, isDirectory]

/-- Once something is where the last name of a path is looked up, the path leads there. -/
theorem locate_of_locateLast {node : Node} (home : t'.home = t.home)
    (kept : ∀ l, t.get? l = some .directory → t'.get? l = some .directory)
    (last : t.locateLast path = .ok (d, some name)) (short : isTooLong name = false)
    (found : t'.get? (name :: d) = some node)
    (slash : path.endsInSlash = true → node = .directory) : t'.locate path = .ok (name :: d) := by
  obtain ⟨checked, front, names, plain, walked, directory⟩ := locateLast_ok_some.1 last
  rw [← startOf_congr home] at walked
  refine locate_ok.2 ⟨checked, ?_, fun ends => by rw [found, slash ends]⟩
  rw [names, walk_append_ok]
  refine ⟨d, walk_mono kept walked directory, ?_⟩
  rw [walk_cons_ok]
  exact ⟨kept d directory, Or.inr (Or.inr ⟨plain, short, by simp [found], rfl⟩)⟩

end SheetSuite.FileTree
