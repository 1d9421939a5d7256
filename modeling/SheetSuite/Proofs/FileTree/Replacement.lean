import SheetSuite.FileTree.Replace
import SheetSuite.Proofs.FileTree.Growth
import Mathlib.Data.List.Nodup

namespace SheetSuite

namespace FileTree

/-- Both trees have the same entries, those at the given locations aside. -/
structure AgreeBut (aside : Set Location) (t t' : FileTree) : Prop where
  home : t'.home = t.home
  defects : t'.defects = t.defects
  same : ∀ {l}, l ∉ aside → t'.get? l = t.get? l

namespace AgreeBut

variable {aside aside' : Set Location} {t t' t'' : FileTree}

theorem trans (first : AgreeBut aside t t') (second : AgreeBut aside t' t'') :
    AgreeBut aside t t'' where
  home := second.home.trans first.home
  defects := second.defects.trans first.defects
  same outside := (second.same outside).trans (first.same outside)

theorem mono (h : AgreeBut aside t t') (sub : aside ⊆ aside') : AgreeBut aside' t t' where
  home := h.home
  defects := h.defects
  same outside := h.same fun inside => outside (sub inside)

theorem put (t : FileTree) (l : Location) (node : Node) : AgreeBut {l} t (t.put l node) where
  home := rfl
  defects := rfl
  same outside := get?_put_of_ne t node outside

theorem erase (t : FileTree) (l : Location) : AgreeBut {l} t (t.erase l) where
  home := rfl
  defects := rfl
  same outside := get?_erase_of_ne t outside

theorem remove {l : Location} (h : AgreeBut (insert l aside) t t') (same : t'.get? l = t.get? l) :
    AgreeBut aside t t' where
  home := h.home
  defects := h.defects
  same {k} outside := by
    by_cases equal : k = l
    · rw [equal, same]
    · exact h.same fun inside => (Set.mem_insert_iff.1 inside).elim equal outside

theorem directories (h : AgreeBut aside t t') (free : ∀ l ∈ aside, t.get? l ≠ some .directory)
    (l : Location) (directory : t.get? l = some .directory) : t'.get? l = some .directory := by
  rw [h.same, directory]
  intro inside
  exact free l inside directory

end AgreeBut

theorem Grown.agree {named : Path → Prop} {aside : Set Location} {t t' t'' : FileTree}
    (grown : Grown named ∅ t t') (agree : AgreeBut aside t' t'')
    (free : ∀ l ∈ aside, t'.get? l ≠ some .directory) : Grown named aside t t'' where
  home := agree.home.trans grown.home
  defects := agree.defects.trans grown.defects
  kept {l node} outside found := by
    rw [agree.same outside]
    exact grown.kept (Set.notMem_empty l) found
  added {l node} outside absent found := by
    rw [agree.same outside] at found
    obtain ⟨rfl, path, hpath, located⟩ := grown.added (Set.notMem_empty l) absent found
    exact ⟨rfl, path, hpath, locate_mono agree.home (agree.directories free) located found⟩

theorem moveOver_ok {t t' : FileTree} {source : Location} {path : Path}
    (h : t.moveOver source path = .ok t') :
    ∃ d name node, t.locateLast path = .ok (d, some name) ∧ isTooLong name = false ∧
      path.endsInSlash = false ∧ t.get? (name :: d) ≠ some .directory ∧ t.get? source = some node ∧
        t.attempt .move = .ok () ∧ t' = (t.erase source).put (name :: d) node := by
  unfold moveOver at h
  split at h
  · cases h
  · obtain ⟨⟨d, last⟩, located, h⟩ := bind_eq_ok.1 h
    cases last with
    | none => cases h
    | some name =>
        dsimp only at h
        split at h
        · cases h
        · rename_i short
          split at h
          · cases h
          · rename_i slashless
            split at h
            · cases h
            · rename_i proper
              split at h
              · rename_i node found
                obtain ⟨⟨⟩, moved, h⟩ := bind_eq_ok.1 h
                exact ⟨d, name, node, located, by simpa using short, by simpa using slashless,
                  by simpa using proper, found, moved, (Except.ok.inj h).symm⟩
              · cases h

theorem moveOver_file {t t' : FileTree} {source : Location} {path : Path} {data : List UInt8}
    (h : t.moveOver source path = .ok t') (content : t.get? source = some (.file data)) :
    ∃ target, t'.locate path = .ok target ∧ t'.get? target = some (.file data) ∧
      t.get? target ≠ some .directory ∧ AgreeBut {source, target} t t' ∧
        (source ≠ target → t'.get? source = none) := by
  obtain ⟨d, name, node, last, short, slashless, free, found, -, rfl⟩ := moveOver_ok h
  rw [content] at found
  cases found
  have target : ((t.erase source).put (name :: d) (.file data)).get? (name :: d) =
      some (.file data) := get?_put_self _ _ (List.cons_ne_nil _ _)
  have agree : AgreeBut {source, name :: d} t ((t.erase source).put (name :: d) (.file data)) :=
    ((AgreeBut.erase t source).mono (by simp)).trans ((AgreeBut.put _ _ _).mono (by simp))
  have kept := agree.directories (by simpa [content] using free)
  refine ⟨name :: d, locate_of_locateLast agree.home kept last short target (by simp [slashless]),
    target, free, agree, ?_⟩
  intro apart
  rw [get?_put_of_ne _ _ apart]
  cases source with
  | nil => simp at content
  | cons => exact get?_erase_self _ (List.cons_ne_nil _ _)

end FileTree

namespace Replacement

open FileTree

variable {r : Replacement} {t t' : FileTree}

/-! ## The name of the temporary file -/

theorem temporaryName_injective : Function.Injective temporaryName := by
  intro m n h
  have digits : Nat.toDigits 10 m = Nat.toDigits 10 n := by
    simpa [temporaryName] using congrArg String.toList h
  simpa using congrArg (Nat.ofDigitChars 10 · 0) digits

theorem freshName_not_mem (r : Replacement) (t : FileTree) :
    r.freshName t ∉ t.entries.filterMap (·.1.head?) ++ r.target.names := by
  unfold freshName
  generalize t.entries.filterMap (·.1.head?) ++ r.target.names = taken
  dsimp only
  cases found : (List.range taken.length).find? fun n => !taken.contains (temporaryName n) with
  | some n => simpa using List.find?_some found
  | none =>
      -- All numbers below the number of names are taken, so there is no room for the next one.
      intro last
      have below : ∀ n < taken.length, temporaryName n ∈ taken := by
        simpa using found
      have subset : (List.range (taken.length + 1)).map temporaryName ⊆ taken := by
        intro name member
        obtain ⟨n, bound, rfl⟩ := List.mem_map.1 member
        rcases Nat.lt_succ_iff_lt_or_eq.1 (List.mem_range.1 bound) with lt | rfl
        · exact below n lt
        · exact last
      have nodup : ((List.range (taken.length + 1)).map temporaryName).Nodup :=
        List.Nodup.map temporaryName_injective List.nodup_range
      have tooMany := nodup.length_le_of_subset subset
      simp only [List.length_map, List.length_range] at tooMany
      omega

theorem get?_freshName (r : Replacement) (t : FileTree) (d : Location) :
    t.get? (r.freshName t :: d) = none := by
  have fresh := freshName_not_mem r t
  change t.entries.lookup _ = none
  rw [List.lookup_eq_none_iff]
  intro entry member
  rw [bne_iff_ne]
  intro equal
  refine fresh (List.mem_append_left _ (List.mem_filterMap.2 ⟨entry, member, ?_⟩))
  rw [← equal, List.head?_cons]

/-! ## The steps -/

theorem locateNew_ok {path : Path} {name : String} {temporary : Location}
    (h : t.locateNew path name = .ok temporary) :
    ∃ d, t.locate path = .ok d ∧ t.attempt .create = .ok () ∧ temporary = name :: d := by
  obtain ⟨d, located, h⟩ := bind_eq_ok.1 h
  obtain ⟨⟨⟩, created, h⟩ := bind_eq_ok.1 h
  exact ⟨d, located, created, (Except.ok.inj h).symm⟩

/-- The tree with what there is of the temporary file when the last byte was synced, or when that was given
up. -/
def withTemporary (r : Replacement) (t : FileTree) (temporary : Location) :
    Except FileFault Unit × FileTree :=
  let made := t.put temporary (.file [])
  if r.data.isEmpty then (t.attempt .sync, made)
  else match t.attempt .append with
    | .error fault => (.error fault, made)
    | .ok () => (t.attempt .sync, append made temporary r.data)

theorem append_agree (t : FileTree) (l : Location) (bytes : List UInt8) :
    AgreeBut {l} t (append t l bytes) := by
  unfold append
  split
  · exact .put _ _ _
  · exact ⟨rfl, rfl, fun _ => rfl⟩

theorem withTemporary_agree (r : Replacement) (t : FileTree) (temporary : Location) :
    AgreeBut {temporary} t (r.withTemporary t temporary).2 := by
  have made := AgreeBut.put t temporary (.file [])
  unfold withTemporary
  dsimp only
  split
  · exact made
  · split
    · exact made
    · exact made.trans (append_agree _ _ _)

theorem withTemporary_ok {temporary : Location} (proper : temporary ≠ [])
    (h : r.withTemporary t temporary = (.ok (), t')) :
    t'.get? temporary = some (.file r.data) ∧ t.attempt .sync = .ok () ∧
      (r.data ≠ [] → t.attempt .append = .ok ()) := by
  unfold withTemporary at h
  dsimp only at h
  split at h
  · rename_i empty
    have empty := List.isEmpty_iff.1 empty
    obtain ⟨synced, rfl⟩ := Prod.mk.inj h
    exact ⟨by rw [get?_put_self _ _ proper, empty], synced, fun full => absurd empty full⟩
  · split at h
    · cases h
    · rename_i appended
      obtain ⟨synced, rfl⟩ := Prod.mk.inj h
      refine ⟨?_, synced, fun _ => appended⟩
      rw [append, get?_put_self _ _ proper]
      dsimp only
      rw [get?_put_self _ _ proper, List.nil_append]

/-! ### One step -/

section
variable {name : String} {count : Nat} {temporary : Location} {left : List UInt8} {fault : FileFault}

theorem step_requested_ok (made : t.makeDirectories r.target.directory = (.ok (), t')) :
    r.step name count .requested t = (.prepared, t') := by
  change r.prepare t = _
  unfold prepare
  rw [made]

theorem step_requested_error (made : t.makeDirectories r.target.directory = (.error fault, t')) :
    r.step name count .requested t = (.closed (.error fault), t') := by
  change r.prepare t = _
  unfold prepare
  rw [made]

theorem step_prepared_ok (located : t.locateNew r.target.directory name = .ok temporary) :
    r.step name count .prepared t = (.writing temporary r.data, t.put temporary (.file [])) := by
  change r.create name t = _
  unfold create
  rw [located]

theorem step_prepared_error (located : t.locateNew r.target.directory name = .error fault) :
    r.step name count .prepared t = (.closed (.error fault), t) := by
  change r.create name t = _
  unfold create
  rw [located]

theorem step_writing_append (full : left ≠ []) (appended : t.attempt .append = .ok ()) :
    r.step name count (.writing temporary left) t =
      (.writing temporary (left.drop count), append t temporary (left.take count)) := by
  change write count temporary left t = _
  unfold write
  rw [if_neg (by simpa using full), appended]

theorem step_writing_sync (synced : t.attempt .sync = .ok ()) :
    r.step name count (.writing temporary []) t = (.written temporary, t) := by
  change write count temporary [] t = _
  unfold write
  rw [if_pos List.isEmpty_nil, synced]

theorem step_writing_error (failed : t.attempt (if left = [] then .sync else .append) = .error fault) :
    r.step name count (.writing temporary left) t = (.refused temporary fault, t) := by
  change write count temporary left t = _
  unfold write
  cases left with
  | nil => rw [if_pos List.isEmpty_nil, show t.attempt .sync = _ from failed]
  | cons b left => rw [if_neg (by simp), show t.attempt .append = _ from failed]

theorem step_written_ok (moved : t.moveOver temporary r.target = .ok t') :
    r.step name count (.written temporary) t = (.closed (.ok ()), t') := by
  change r.move temporary t = _
  unfold move
  rw [moved]

theorem step_written_error (moved : t.moveOver temporary r.target = .error fault) :
    r.step name count (.written temporary) t = (.refused temporary fault, t) := by
  change r.move temporary t = _
  unfold move
  rw [moved]

end

/-! ### Steps in a row -/

theorem steps_succ {stage stage' : Stage} (n : Nat)
    (h : r.step (r.freshName t) r.data.length stage t = (stage', t')) :
    r.steps (n + 1) stage t = r.steps n stage' t' := by
  simp only [steps, h]

theorem steps_closed (r : Replacement) (n : Nat) (result : Except FileFault Unit) (t : FileTree) :
    r.steps n (.closed result) t = (.closed result, t) := by
  induction n with
  | zero => rfl
  | succ n ih => exact ih

theorem steps_refused (r : Replacement) (n : Nat) (temporary : Location) (fault : FileFault)
    (t : FileTree) :
    r.steps (n + 1) (.refused temporary fault) t = (.closed (.error fault), t.erase temporary) := by
  rw [steps_succ n rfl, steps_closed]

theorem steps_written (r : Replacement) (n : Nat) (temporary : Location) (t : FileTree) :
    r.steps (n + 2) (.written temporary) t = match t.moveOver temporary r.target with
      | .ok t' => (.closed (.ok ()), t')
      | .error fault => (.closed (.error fault), t.erase temporary) := by
  cases moved : t.moveOver temporary r.target with
  | ok t' => rw [steps_succ (n + 1) (step_written_ok moved), steps_closed]
  | error fault => rw [steps_succ (n + 1) (step_written_error moved), steps_refused]

theorem steps_synced (r : Replacement) (n : Nat) (temporary : Location) (t : FileTree) :
    r.steps (n + 3) (.writing temporary []) t = match t.attempt .sync with
      | .ok () => r.steps (n + 2) (.written temporary) t
      | .error fault => (.closed (.error fault), t.erase temporary) := by
  cases synced : t.attempt .sync with
  | ok _ => rw [steps_succ (n + 2) (step_writing_sync synced)]
  | error fault => rw [steps_succ (n + 2) (step_writing_error synced), steps_refused]

theorem steps_writing (r : Replacement) (n : Nat) (temporary : Location) (t : FileTree) :
    ∃ m, r.steps (n + 4) (.writing temporary r.data) (t.put temporary (.file [])) =
      match r.withTemporary t temporary with
      | (.ok (), t') => r.steps (m + 2) (.written temporary) t'
      | (.error fault, t') => (.closed (.error fault), t'.erase temporary) := by
  have same (operation : FileOperation) :
      (t.put temporary (.file [])).attempt operation = t.attempt operation := attempt_congr rfl operation
  unfold withTemporary
  by_cases data : r.data = []
  · refine ⟨n + 1, ?_⟩
    rw [data, steps_synced, same]
    cases t.attempt .sync <;> rfl
  · refine ⟨n, ?_⟩
    dsimp only
    rw [if_neg (by simpa using data)]
    cases appended : t.attempt .append with
    | error fault =>
        have failed : (t.put temporary (.file [])).attempt (if r.data = [] then .sync else .append) =
            .error fault := by
          rw [if_neg data, same, appended]
        rw [steps_succ (n + 3) (step_writing_error failed), steps_refused]
    | ok _ =>
        have kept : (append (t.put temporary (.file [])) temporary r.data).attempt .sync =
            t.attempt .sync :=
          attempt_congr ((append_agree _ _ _).defects) .sync
        rw [steps_succ (n + 3) (step_writing_append data ((same _).trans appended)), List.drop_length,
          List.take_length, steps_synced, kept]
        cases t.attempt .sync <;> rfl

theorem perform_eq (r : Replacement) (t : FileTree) :
    r.perform t = match t.makeDirectories r.target.directory with
      | (.error fault, t) => (.error fault, t)
      | (.ok (), t) => match t.locateNew r.target.directory (r.freshName t) with
        | .error fault => (.error fault, t)
        | .ok temporary => match r.withTemporary t temporary with
          | (.error fault, t) => (.error fault, t.erase temporary)
          | (.ok (), t) => match t.moveOver temporary r.target with
            | .ok t => (.ok (), t)
            | .error fault => (.error fault, t.erase temporary) := by
  unfold perform
  rcases made : t.makeDirectories r.target.directory with ⟨result, t₁⟩
  cases result with
  | error fault => rw [steps_succ 5 (step_requested_error made), steps_closed]
  | ok _ =>
      rw [steps_succ 5 (step_requested_ok made)]
      cases located : t₁.locateNew r.target.directory (r.freshName t₁) with
      | error fault =>
          rw [steps_succ 4 (step_prepared_error located), steps_closed]
          simp only [located]
      | ok temporary =>
          obtain ⟨m, run⟩ := steps_writing r 0 temporary t₁
          rw [steps_succ 4 (step_prepared_ok located), run]
          simp only [located]
          rcases r.withTemporary t₁ temporary with ⟨result, t₂⟩
          cases result with
          | error fault => rfl
          | ok _ =>
              dsimp only
              rw [steps_written]
              cases t₂.moveOver temporary r.target with
              | ok t₃ => rfl
              | error fault => rfl

end Replacement

/-! ## The outcome -/

namespace FileTree

variable {t t' : FileTree} {path : Path} {data : List UInt8}

theorem AgreeBut.erase_new {l : Location} (agree : AgreeBut {l} t t') (proper : l ≠ [])
    (absent : t.get? l = none) : AgreeBut ∅ t (t'.erase l) := by
  apply AgreeBut.remove (l := l)
  · simpa using agree.trans (.erase t' l)
  · rw [get?_erase_self _ proper, absent]

open Replacement in
theorem replace_error {fault : FileFault} (h : t.replace path data = (.error fault, t')) :
    AgreeBut ∅ (t.makeDirectories path.directory).2 t' := by
  unfold replace at h
  rw [perform_eq] at h
  dsimp only at h
  split at h
  · rename_i made
    cases h
    rw [made]
    exact ⟨rfl, rfl, fun _ => rfl⟩
  · rename_i t₁ made
    rw [made]
    split at h
    · cases h
      exact ⟨rfl, rfl, fun _ => rfl⟩
    · rename_i temporary located
      obtain ⟨d, -, -, rfl⟩ := locateNew_ok located
      set r : Replacement := ⟨path, data⟩
      have agree := withTemporary_agree r t₁ (r.freshName t₁ :: d)
      have erased := agree.erase_new (List.cons_ne_nil _ _) (get?_freshName r t₁ d)
      split at h
      · rename_i filled
        cases h
        rwa [filled] at erased
      · rename_i filled
        rw [filled] at erased
        split at h
        · cases h
        · cases h
          exact erased

open Replacement in
theorem replace_ok_cases (h : t.replace path data = (.ok (), t')) :
    ∃ t₁ temporary t₂, t.makeDirectories path.directory = (.ok (), t₁) ∧
      t₁.locateNew path.directory (freshName ⟨path, data⟩ t₁) = .ok temporary ∧
      withTemporary ⟨path, data⟩ t₁ temporary = (.ok (), t₂) ∧ t₂.moveOver temporary path = .ok t' := by
  unfold replace at h
  rw [perform_eq] at h
  dsimp only at h
  split at h
  · cases h
  · rename_i t₁ made
    split at h
    · cases h
    · rename_i temporary located
      split at h
      · cases h
      · rename_i t₂ filled
        split at h
        · rename_i t₃ moved
          cases h
          exact ⟨t₁, temporary, t₂, made, located, filled, moved⟩
        · cases h

open Replacement in
theorem replace_ok (h : t.replace path data = (.ok (), t')) :
    ∃ target, t'.locate path = .ok target ∧ t'.get? target = some (.file data) ∧
      (t.makeDirectories path.directory).2.get? target ≠ some .directory ∧
        AgreeBut {target} (t.makeDirectories path.directory).2 t' := by
  obtain ⟨t₁, temporary, t₂, made, located, filled, moved⟩ := replace_ok_cases h
  obtain ⟨d, -, -, fresh⟩ := locateNew_ok located
  have proper : temporary ≠ [] := fresh ▸ List.cons_ne_nil _ _
  have absent : t₁.get? temporary = none := fresh ▸ get?_freshName ⟨path, data⟩ t₁ d
  have agree := withTemporary_agree ⟨path, data⟩ t₁ temporary
  rw [filled] at agree
  rw [made]
  obtain ⟨target, located, content, free, moved, gone⟩ :=
    moveOver_file moved (withTemporary_ok proper filled).1
  -- That the target is not the temporary file itself is not needed: it holds in both cases.
  refine ⟨target, located, content, ?_, ?_⟩
  · by_cases same : target = temporary
    · rw [same, absent]
      simp
    · rwa [agree.same same] at free
  · have both := (agree.mono (Set.singleton_subset_iff.2 (Set.mem_insert _ _))).trans moved
    by_cases same : temporary = target
    · rwa [same, Set.pair_eq_singleton] at both
    · exact both.remove ((gone same).trans absent.symm)

end FileTree

end SheetSuite
