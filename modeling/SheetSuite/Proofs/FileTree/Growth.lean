import SheetSuite.Proofs.FileTree.Lookup
import SheetSuite.Proofs.FileTree.Path
import Mathlib.Data.Set.Insert

namespace SheetSuite.FileTree

/-- The second tree has all that the first one has, and besides that only directories that some of the
given paths name. Nothing is said of the locations that are set aside. -/
structure Grown (named : Path → Prop) (aside : Set Location) (t t' : FileTree) : Prop where
  home : t'.home = t.home
  defects : t'.defects = t.defects
  kept : ∀ {l node}, l ∉ aside → t.get? l = some node → t'.get? l = some node
  added : ∀ {l node}, l ∉ aside → t.get? l = none → t'.get? l = some node →
    node = .directory ∧ ∃ path, named path ∧ t'.locate path = .ok l

namespace Grown

variable {named named' : Path → Prop} {t t' t'' : FileTree}

theorem refl (named : Path → Prop) (t : FileTree) : Grown named ∅ t t where
  home := rfl
  defects := rfl
  kept _ found := found
  added _ absent found := by
    rw [absent] at found
    cases found

theorem directories (h : Grown named ∅ t t') (l : Location) (found : t.get? l = some .directory) :
    t'.get? l = some .directory :=
  h.kept (Set.notMem_empty l) found

theorem trans (first : Grown named ∅ t t') (second : Grown named ∅ t' t'') : Grown named ∅ t t'' where
  home := second.home.trans first.home
  defects := second.defects.trans first.defects
  kept outside found := second.kept outside (first.kept outside found)
  added {l node} outside absent found := by
    cases middle : t'.get? l with
    | none => exact second.added outside middle found
    | some node' =>
        obtain ⟨rfl, path, hpath, located⟩ := first.added outside absent middle
        rw [second.kept outside middle] at found
        cases found
        exact ⟨rfl, path, hpath, locate_mono second.home second.directories located middle⟩

theorem mono (h : Grown named ∅ t t') (sub : ∀ path, named path → named' path) :
    Grown named' ∅ t t' where
  home := h.home
  defects := h.defects
  kept := h.kept
  added outside absent found := by
    obtain ⟨kind, path, hpath, located⟩ := h.added outside absent found
    exact ⟨kind, path, sub path hpath, located⟩

theorem file_iff_of_notMem {aside : Set Location} (h : Grown named aside t t') {l : Location}
    (outside : l ∉ aside) (data : List UInt8) :
    t'.get? l = some (.file data) ↔ t.get? l = some (.file data) := by
  constructor
  · intro found
    cases before : t.get? l with
    | none => cases (h.added outside before found).1
    | some node => rw [← h.kept outside before, found]
  · exact h.kept outside

theorem file_iff (h : Grown named ∅ t t') (l : Location) (data : List UInt8) :
    t'.get? l = some (.file data) ↔ t.get? l = some (.file data) :=
  h.file_iff_of_notMem (Set.notMem_empty l) data

end Grown

theorem get?_put_of_absent {t : FileTree} {l k : Location} {node node' : Node}
    (absent : t.get? l = none) (found : t.get? k = some node) :
    (t.put l node').get? k = some node := by
  rw [get?_put_of_ne, found]
  rintro rfl
  rw [absent] at found
  cases found

theorem makeDirectory_ok {t t' : FileTree} {path : Path} (h : t.makeDirectory path = .ok t') :
    ∃ l, l ≠ [] ∧ t.get? l = none ∧ t' = t.put l .directory ∧ t'.locate path = .ok l := by
  unfold makeDirectory at h
  obtain ⟨⟨d, last⟩, located, h⟩ := bind_eq_ok.1 h
  cases last with
  | none => cases h
  | some name =>
      dsimp only at h
      split at h
      · cases h
      · rename_i short
        split at h
        · cases h
        · rename_i absent
          obtain ⟨-, -, h⟩ := bind_eq_ok.1 h
          obtain rfl := Except.ok.inj h
          have absent : t.get? (name :: d) = none := by simpa using absent
          refine ⟨name :: d, List.cons_ne_nil _ _, absent, rfl, ?_⟩
          have found : (t.put (name :: d) .directory).get? (name :: d) = some .directory :=
            get?_put_self t _ (List.cons_ne_nil _ _)
          exact locate_of_locateLast (home_put t _ _) (fun l => get?_put_of_absent absent) located
            (by simpa using short) found fun _ => rfl

theorem grown_makeDirectory {t t' : FileTree} {path : Path} (h : t.makeDirectory path = .ok t') :
    Grown (· = path) ∅ t t' := by
  obtain ⟨l, proper, absent, rfl, located⟩ := makeDirectory_ok h
  constructor
  · rfl
  · rfl
  · intro k node outside found
    exact get?_put_of_absent absent found
  · intro k node outside none found
    by_cases same : k = l
    · subst same
      rw [get?_put_self _ _ proper] at found
      cases found
      exact ⟨rfl, path, rfl, located⟩
    · rw [get?_put_of_ne _ _ same, none] at found
      cases found

theorem isDirectoryAt_of_makeDirectory {t t' : FileTree} {path : Path}
    (h : t.makeDirectory path = .ok t') : t'.isDirectoryAt path = true := by
  obtain ⟨l, proper, -, rfl, located⟩ := makeDirectory_ok h
  exact isDirectoryAt_iff.2 ⟨l, located, get?_put_self _ _ proper⟩

theorem makeDirectoriesFrom_grown (t : FileTree) (paths : List Path) :
    Grown (· ∈ paths) ∅ t (t.makeDirectoriesFrom paths).2 := by
  have made {t t' : FileTree} {path : Path} {above : List Path} (h : t.makeDirectory path = .ok t') :
      Grown (· ∈ path :: above) ∅ t t' :=
    (grown_makeDirectory h).mono fun _ same => same ▸ List.mem_cons_self
  have lifted {t t' : FileTree} {path : Path} {above : List Path} (h : Grown (· ∈ above) ∅ t t') :
      Grown (· ∈ path :: above) ∅ t t' :=
    h.mono fun _ member => List.mem_cons_of_mem _ member
  fun_induction makeDirectoriesFrom t paths with
  | case1 => exact .refl _ t
  | case2 => exact .refl _ t
  | case3 path above full t' done => exact made done
  | case4 path above full missing fault t' failed ih =>
      rw [failed] at ih
      exact lifted ih
  | case5 path above full missing t' held t'' done ih =>
      rw [held] at ih
      exact (lifted ih).trans (made done)
  | case6 path above full missing t' held fault failed there ih =>
      rw [held] at ih
      exact lifted ih
  | case7 path above full missing t' held fault failed absent ih =>
      rw [held] at ih
      exact lifted ih
  | case8 => exact .refl _ t
  | case9 => exact .refl _ t

theorem makeDirectories_grown (t : FileTree) (path : Path) :
    Grown (·.IsStartOf path) ∅ t (t.makeDirectories path).2 := by
  apply (makeDirectoriesFrom_grown t (path :: path.above)).mono
  intro start member
  rcases List.mem_cons.1 member with rfl | above
  · exact .refl start
  · exact Path.isStartOf_of_mem_above above

theorem isDirectoryAt_of_makeDirectories {t t' : FileTree} {path : Path} (full : path ≠ "")
    (h : t.makeDirectories path = (.ok (), t')) : t'.isDirectoryAt path = true := by
  unfold makeDirectories makeDirectoriesFrom at h
  rw [if_neg (by simpa using full)] at h
  split at h
  · rename_i done
    cases h
    exact isDirectoryAt_of_makeDirectory done
  · split at h
    · cases h
    · split at h
      · rename_i done
        cases h
        exact isDirectoryAt_of_makeDirectory done
      · split at h
        · rename_i there
          cases h
          exact there
        · cases h
  · split at h
    · rename_i there
      cases h
      exact there
    · cases h

theorem makeDirectories_dot (t : FileTree) : (t.makeDirectories ".").2 = t := by
  have names : Path.names "." = ["."] := by decide
  have checked : checkPath "." = .ok () := by decide
  -- A dot is no name for a new directory; with another fault nothing more is tried.
  have refused : ∃ fault, fault ≠ .noEntry ∧ t.makeDirectory "." = .error fault := by
    unfold makeDirectory locateLast
    by_cases directory : t.isDirectory (t.startOf ".") = true
    · refine ⟨.alreadyExists, by simp, ?_⟩
      simp [names, checked, directory, walk, bind, Except.bind]
    · refine ⟨.notDirectory, by simp, ?_⟩
      simp [names, checked, directory, walk, bind, Except.bind]
  obtain ⟨fault, other, refused⟩ := refused
  unfold makeDirectories makeDirectoriesFrom
  rw [if_neg (by decide), refused]
  split
  · rename_i impossible
    cases impossible
  · rename_i impossible
    exact absurd (Except.error.inj impossible) other
  · split <;> rfl

end SheetSuite.FileTree
