import SheetSuite.Proofs.FileTree.Replacement
import SheetSuite.Proofs.FileTree.Rooted

namespace SheetSuite.FileTree

variable {t t' : FileTree} {l d source : Location} {path : Path} {name : String} {node : Node}

theorem makeDirectory_again (there : t.isDirectoryAt path = true) :
    t.makeDirectory path = .error .alreadyExists := by
  obtain ⟨l, located, directory⟩ := isDirectoryAt_iff.1 there
  obtain ⟨checked, walked, -⟩ := locate_ok.1 located
  unfold makeDirectory locateLast
  rcases List.eq_nil_or_concat path.names with none | ⟨front, last, names⟩
  · have start : t.isDirectory (t.startOf path) = true :=
      isDirectory_iff.2 (directory_of_walk walked directory)
    simp [checked, none, walk, start]
  · rw [List.concat_eq_append] at names
    rw [names, walk_append_ok] at walked
    obtain ⟨d, first, final⟩ := walked
    obtain ⟨held, step⟩ := walk_cons_ok.1 final
    have held : t.isDirectory d = true := isDirectory_iff.2 held
    rcases step with ⟨rfl, -⟩ | ⟨rfl, -⟩ | ⟨plain, short, found, -⟩
    · simp [checked, names, first, held]
    · simp [checked, names, first, held]
    · simp [checked, names, first, held, plain, short, found]

theorem makeDirectories_again (there : t.isDirectoryAt path = true) :
    t.makeDirectories path = (.ok (), t) := by
  unfold makeDirectories makeDirectoriesFrom
  split
  · rfl
  · simp [makeDirectory_again there]

theorem moveOver_of_locateLast (last : t.locateLast path = .ok (d, some name))
    (short : isTooLong name = false) (slashless : path.endsInSlash = false)
    (free : t.get? (name :: d) ≠ some .directory) (found : t.get? source = some node)
    (moved : t.attempt .move = .ok ()) :
    t.moveOver source path = .ok ((t.erase source).put (name :: d) node) := by
  have checked := (locateLast_ok_some.1 last).1
  have clean : path.toList.contains '\x00' = false := by
    by_contra nul
    rw [Bool.not_eq_false] at nul
    rw [checkPath, if_pos nul] at checked
    cases checked
  have free : t.isDirectory (name :: d) = false := by
    rw [Bool.eq_false_iff]
    exact fun directory => free (isDirectory_iff.1 directory)
  simp only [moveOver, clean, last, ok_bind, short, slashless, free, found, moved, Bool.false_eq_true,
    if_false]
  rfl

theorem directory_ne_empty (path : Path) : path.directory ≠ "" := by
  unfold Path.directory
  split
  · split
    · decide
    · rename_i full
      simpa using full
  · decide

/-- The disk fails at nothing that it takes to put data beside a file and to move them over it. -/
structure Accepts (t : FileTree) (data : List UInt8) : Prop where
  creates : t.attempt .create = .ok ()
  appends : data ≠ [] → t.attempt .append = .ok ()
  syncs : t.attempt .sync = .ok ()
  moves : t.attempt .move = .ok ()

theorem Accepts.congr {data : List UInt8} (h : t.Accepts data) (same : t'.defects = t.defects) :
    t'.Accepts data where
  creates := (attempt_congr same _).trans h.creates
  appends full := (attempt_congr same _).trans (h.appends full)
  syncs := (attempt_congr same _).trans h.syncs
  moves := (attempt_congr same _).trans h.moves

theorem Accepts.withTemporary {data : List UInt8} (h : t.Accepts data) (path : Path) (l : Location) :
    (Replacement.withTemporary ⟨path, data⟩ t l).1 = .ok () := by
  unfold Replacement.withTemporary
  dsimp only
  split
  · exact h.syncs
  · rename_i full
    rw [h.appends (by simpa using full)]
    exact h.syncs

open Replacement in
theorem replace_accepts {data : List UInt8} (h : t.replace path data = (.ok (), t')) :
    t'.Accepts data := by
  obtain ⟨target, -, -, -, outcome⟩ := replace_ok h
  obtain ⟨t₁, temporary, t₂, made, located, filled, moved⟩ := replace_ok_cases h
  rw [made] at outcome
  obtain ⟨d, -, created, rfl⟩ := locateNew_ok located
  have agree := withTemporary_agree ⟨path, data⟩ t₁ (freshName ⟨path, data⟩ t₁ :: d)
  rw [filled] at agree
  obtain ⟨-, synced, appended⟩ := withTemporary_ok (List.cons_ne_nil _ _) filled
  obtain ⟨-, -, -, -, -, -, -, -, moved, -⟩ := moveOver_ok moved
  have accepts : t₁.Accepts data :=
    ⟨created, appended, synced, (attempt_congr agree.defects _).symm.trans moved⟩
  exact accepts.congr outcome.defects

theorem replace_directory {data : List UInt8} (h : t.replace path data = (.ok (), t')) :
    t'.isDirectoryAt path.directory = true := by
  obtain ⟨target, -, -, free, agree⟩ := replace_ok h
  obtain ⟨t₁, -, -, made, -⟩ := replace_ok_cases h
  rw [made] at free agree
  have there := isDirectoryAt_of_makeDirectories (directory_ne_empty path) made
  exact isDirectoryAt_mono agree.home (agree.directories (by simpa using free)) there

open Replacement in
theorem replace_again (ends : path.EndsIn name) (there : t.isDirectoryAt path.directory = true)
    (located : t.locate path = .ok l) {old : List UInt8} (found : t.get? l = some (.file old))
    {data : List UInt8} (accepts : t.Accepts data) : ∃ t', t.replace path data = (.ok (), t') ∧
      t'.locate path = .ok l ∧ t'.get? l = some (.file data) ∧ AgreeBut {l} t t' := by
  obtain ⟨d, holds, directory⟩ := isDirectoryAt_iff.1 there
  have slashless : path.endsInSlash = false := by
    by_contra slash
    rw [(locate_ok.1 located).2.2 (by simpa using slash)] at found
    cases found
  set r : Replacement := ⟨path, data⟩
  set temporary := r.freshName t :: d
  have placed : t.locateNew path.directory (r.freshName t) = .ok temporary := by
    simp only [locateNew, holds, ok_bind, accepts.creates]
    rfl
  obtain ⟨t₁, filled⟩ : ∃ t₁, r.withTemporary t temporary = (.ok (), t₁) :=
    ⟨_, Prod.ext (accepts.withTemporary path temporary) rfl⟩
  have absent : t.get? temporary = none := get?_freshName r t d
  have agree : AgreeBut {temporary} t t₁ := by simpa [filled] using withTemporary_agree r t temporary
  have kept := agree.directories (by simp [absent])
  have apart : l ≠ temporary := by
    rintro rfl
    rw [absent] at found
    cases found
  have found₁ : t₁.get? l = some (.file old) := (agree.same apart).trans found
  have located₁ := locate_kept ends located agree.home kept found₁ (by simp [slashless])
  obtain ⟨d', rfl, last, short, -⟩ := locateLast_of_locate ends located₁
  have moved := moveOver_of_locateLast last short slashless (by simp [found₁])
    (withTemporary_ok (List.cons_ne_nil _ _) filled).1 ((attempt_congr agree.defects _).trans accepts.moves)
  have replaced : t.replace path data = (.ok (), (t₁.erase temporary).put (name :: d') (.file data)) := by
    rw [replace, perform_eq, makeDirectories_again there]
    dsimp only
    rw [placed]
    dsimp only
    rw [filled]
    dsimp only
    rw [moved]
  obtain ⟨target, located', content, free, same⟩ := replace_ok replaced
  rw [makeDirectories_again there] at free same
  have kept' := same.directories (by simpa using free)
  have leads := locate_kept ends located same.home kept' (get?_put_self _ _ (List.cons_ne_nil _ _))
    (by simp [slashless])
  obtain rfl : target = name :: d' := Except.ok.inj (located'.symm.trans leads)
  exact ⟨_, replaced, leads, content, same⟩

end SheetSuite.FileTree
