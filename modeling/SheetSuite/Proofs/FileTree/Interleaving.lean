import Mathlib.Logic.Function.Basic
import Mathlib.Logic.Relation
import SheetSuite.Proofs.FileTree.Repetition

/-!
# Replacements side by side

Any number of replacements work on one tree, and their steps come in any order (`Session.Moves`). A
temporary file belongs to one replacement, from the step that makes it to the one that moves it or removes
it, and no step but the move touches a target. So whoever reads a target sees what was there in the
beginning or all that some replacement has for it, and once all replacements are over, no temporary file is
left (`Session.readers_see_whole_files`).
-/

namespace SheetSuite

namespace Replacement.Stage

def temporary? : Stage → Option Location
  | writing l _ => some l
  | written l => some l
  | refused l _ => some l
  | _ => none

/-- What can be in the temporary file: together with what is left to append, it is all there is. -/
def HasWritten (r : Replacement) (data : List UInt8) : Stage → Prop
  | writing _ left => data ++ left = r.data
  | written _ => data = r.data
  | _ => True

def failed (fault : FileFault) : Stage → Stage
  | requested => closed (.error fault)
  | prepared => closed (.error fault)
  | writing l _ => refused l fault
  | written l => refused l fault
  | refused l fault => refused l fault
  | closed result => closed result

end Replacement.Stage

open Replacement (Stage)

structure Session (ι : Type) where
  tree : FileTree
  stage : ι → Stage

namespace Session

variable {ι : Type} {request : ι → Replacement} {t : FileTree} {s : Session ι}

def start (t : FileTree) : Session ι where
  tree := t
  stage := fun _ => .requested

def act [DecidableEq ι] (request : ι → Replacement) (s : Session ι) (i : ι) (name : String)
    (count : Nat) : Session ι where
  tree := ((request i).step name count (s.stage i) s.tree).2
  stage := Function.update s.stage i ((request i).step name count (s.stage i) s.tree).1

/-- A replacement may call its temporary file so: nothing is there, and no target is called that. -/
def Fresh (request : ι → Replacement) (s : Session ι) (i : ι) (name : String) : Prop :=
  (∀ d, s.tree.locate (request i).target.directory = .ok d → s.tree.get? (name :: d) = none) ∧
    ∀ j, (request j).target.names.getLast? ≠ some name

/-- What can happen next: a step of any replacement, in which a new temporary file has a fresh name, or a
failure in place of a step. -/
inductive Moves [DecidableEq ι] (request : ι → Replacement) : Session ι → Session ι → Prop
  | act {s : Session ι} {i : ι} {name : String} {count : Nat} :
      (s.stage i = .prepared → Fresh request s i name) → Moves request s (s.act request i name count)
  | fail {s : Session ι} {i : ι} {fault : FileFault} :
      Moves request s { s with stage := Function.update s.stage i ((s.stage i).failed fault) }

/-! ## What the steps maintain -/

def Complete (request : ι → Replacement) (tree : FileTree) (l : Location) (data : List UInt8) : Prop :=
  ∃ i, tree.locate (request i).target = .ok l ∧ (request i).data = data

structure Owned (request : ι → Replacement) (t tree : FileTree) (r : Replacement) (stage : Stage)
    (l : Location) : Prop where
  new : t.get? l = none
  untargeted : ∀ i name, l.head? = some name → (request i).target.names.getLast? ≠ some name
  content : ∃ data, tree.get? l = some (.file data) ∧ stage.HasWritten r data

/-- What every session maintains that started with a rooted tree. -/
structure Sound (request : ι → Replacement) (t : FileTree) (s : Session ι) : Prop where
  home : s.tree.home = t.home
  rooted : s.tree.Rooted
  directories : ∀ l, t.get? l = some .directory → s.tree.get? l = some .directory
  files : ∀ l data, t.get? l = some (.file data) → ∃ data', s.tree.get? l = some (.file data')
  origin : ∀ l data, s.tree.get? l = some (.file data) → t.get? l = some (.file data) ∨
    Complete request s.tree l data ∨ ∃ i, (s.stage i).temporary? = some l
  prepared : ∀ i, s.stage i = .prepared → s.tree.isDirectoryAt (request i).target.directory = true
  owned : ∀ i l, (s.stage i).temporary? = some l →
    Owned request t s.tree (request i) (s.stage i) l
  distinct : ∀ i j l, (s.stage i).temporary? = some l → (s.stage j).temporary? = some l → i = j

/-- A change of a tree that keeps all directories, and all files that are not set aside. -/
structure Keeps (aside : Set Location) (tree tree' : FileTree) : Prop where
  home : tree'.home = tree.home
  rooted : tree'.Rooted
  directories : ∀ l, tree.get? l = some .directory → tree'.get? l = some .directory
  same : ∀ l data, l ∉ aside → (tree'.get? l = some (.file data) ↔ tree.get? l = some (.file data))

theorem Sound.start (rooted : t.Rooted) : Sound request t (start t) where
  home := rfl
  rooted := rooted
  directories _ found := found
  files _ data found := ⟨data, found⟩
  origin _ _ found := Or.inl found
  prepared _ early := by cases early
  owned _ _ none := by cases none
  distinct _ _ _ none := by cases none

theorem Complete.kept {tree tree' : FileTree} {aside : Set Location} {l : Location}
    {data data' : List UInt8} (rooted : tree.Rooted) (keeps : Keeps aside tree tree')
    (h : Complete request tree l data) (found : tree.get? l = some (.file data'))
    (found' : tree'.get? l = some (.file data)) :
    Complete request tree' l data := by
  obtain ⟨i, located, equal⟩ := h
  obtain ⟨name, d, -, ends, slashless⟩ := rooted.endsIn_of_file located found
  exact ⟨i, FileTree.locate_kept ends located keeps.home keeps.directories found' (by simp [slashless]),
    equal⟩

variable [DecidableEq ι]

/-- What one replacement does, seen by all: it changes files that are its own, or that it completes. -/
theorem Sound.change (sound : Sound request t s) {i : ι} {tree : FileTree} {stage : Stage}
    {aside : Set Location} (keeps : Keeps aside s.tree tree)
    (apart : ∀ j, j ≠ i → ∀ l, (s.stage j).temporary? = some l → l ∉ aside ∧ stage.temporary? ≠ some l)
    (kept : ∀ l ∈ aside, ∀ data, t.get? l = some (.file data) →
      ∃ data', tree.get? l = some (.file data'))
    (made : ∀ l ∈ aside, ∀ data, tree.get? l = some (.file data) →
      stage.temporary? = some l ∨ Complete request tree l data)
    (released : ∀ l, (s.stage i).temporary? = some l → l ∈ aside ∨ stage.temporary? = some l)
    (owned : ∀ l, stage.temporary? = some l → Owned request t tree (request i) stage l)
    (prepared : stage = .prepared → tree.isDirectoryAt (request i).target.directory = true) :
    Sound request t ⟨tree, Function.update s.stage i stage⟩ := by
  constructor
  · exact keeps.home.trans sound.home
  · exact keeps.rooted
  · exact fun l found => keeps.directories l (sound.directories l found)
  · intro l data found
    by_cases inside : l ∈ aside
    · exact kept l inside data found
    · obtain ⟨data', found'⟩ := sound.files l data found
      exact ⟨data', (keeps.same l data' inside).2 found'⟩
  · intro l data found
    by_cases inside : l ∈ aside
    · rcases made l inside data found with own | complete
      · exact Or.inr (Or.inr ⟨i, by simpa using own⟩)
      · exact Or.inr (Or.inl complete)
    · have before := (keeps.same l data inside).1 found
      rcases sound.origin l data before with initial | complete | ⟨j, own⟩
      · exact Or.inl initial
      · exact Or.inr (Or.inl (complete.kept sound.rooted keeps before found))
      · refine Or.inr (Or.inr ⟨j, ?_⟩)
        by_cases same : j = i
        · subst same
          simpa using (released l own).resolve_left inside
        · simpa [same] using own
  · intro j early
    by_cases same : j = i
    · subst same
      exact prepared (by simpa using early)
    · exact FileTree.isDirectoryAt_mono keeps.home keeps.directories
        (sound.prepared j (by simpa [same] using early))
  · intro j l own
    by_cases same : j = i
    · subst same
      simpa using owned l (by simpa using own)
    · have own : (s.stage j).temporary? = some l := by simpa [same] using own
      obtain ⟨new, untargeted, data, found, written⟩ := sound.owned j l own
      have found' := (keeps.same l data (apart j same l own).1).2 found
      exact ⟨new, untargeted, data, found', by simpa [same] using written⟩
  · intro j k l own own'
    by_cases same : j = i
    · by_cases same' : k = i
      · rw [same, same']
      · subst same
        have other := (apart k same' l (by simpa [same'] using own')).2
        exact absurd (by simpa using own) other
    · by_cases same' : k = i
      · subst same'
        have other := (apart j same l (by simpa [same] using own)).2
        exact absurd (by simpa using own') other
      · exact sound.distinct j k l (by simpa [same] using own) (by simpa [same'] using own')

/-! ## Changes of the tree -/

namespace Keeps

variable {tree tree' : FileTree} {l d : Location} {name : String} {data : List UInt8}

theorem refl (rooted : tree.Rooted) : Keeps ∅ tree tree where
  home := rfl
  rooted := rooted
  directories _ found := found
  same _ _ _ := Iff.rfl

theorem makeDirectories (rooted : tree.Rooted) (path : Path) :
    Keeps ∅ tree (tree.makeDirectories path).2 where
  home := (FileTree.makeDirectories_grown tree path).home
  rooted := FileTree.makeDirectories_rooted rooted path
  directories := (FileTree.makeDirectories_grown tree path).directories
  same l data _ := (FileTree.makeDirectories_grown tree path).file_iff l data

theorem of_agree {aside : Set Location} (rooted : tree'.Rooted)
    (agree : FileTree.AgreeBut aside tree tree')
    (free : ∀ l ∈ aside, tree.get? l ≠ some .directory) : Keeps aside tree tree' where
  home := agree.home
  rooted := rooted
  directories := agree.directories free
  same l data outside := by rw [agree.same outside]

theorem put (rooted : tree.Rooted) (held : tree.get? d = some .directory)
    (free : tree.get? (name :: d) ≠ some .directory) :
    Keeps {name :: d} tree (tree.put (name :: d) (.file data)) :=
  of_agree (rooted.put held fun directory => absurd directory free) (.put _ _ _) (by simpa using free)

theorem erase (rooted : tree.Rooted) (free : tree.get? l ≠ some .directory) :
    Keeps {l} tree (tree.erase l) :=
  of_agree (rooted.erase free) (.erase _ _) (by simpa using free)

theorem moveOver (rooted : tree.Rooted) {path : Path} (found : tree.get? l = some (.file data))
    (moved : tree.moveOver l path = .ok tree') :
    ∃ target, tree'.locate path = .ok target ∧ tree'.get? target = some (.file data) ∧
      (l ≠ target → tree'.get? l = none) ∧ Keeps {l, target} tree tree' := by
  obtain ⟨target, located, content, free, agree, gone⟩ := FileTree.moveOver_file moved found
  refine ⟨target, located, content, gone, of_agree ?_ agree (by simp [found, free])⟩
  obtain ⟨d, name, node, last, -, -, free, -, -, rfl⟩ := FileTree.moveOver_ok moved
  obtain ⟨-, -, -, -, -, held⟩ := FileTree.locateLast_ok_some.1 last
  have file : tree.get? l ≠ some .directory := by simp [found]
  have erased := FileTree.AgreeBut.erase tree l
  refine (rooted.erase file).put (erased.directories (by simpa using file) d held) fun directory => ?_
  -- There was no directory before, and nothing is there if the temporary file itself was.
  by_cases same : name :: d = l
  · rw [same, FileTree.get?_erase_self _ (same ▸ List.cons_ne_nil _ _)] at directory
    cases directory
  · rw [FileTree.get?_erase_of_ne _ same] at directory
    exact absurd directory free

end Keeps

/-! ## One step -/

omit [DecidableEq ι] in
theorem Sound.absent (sound : Sound request t s) {l : Location} (absent : s.tree.get? l = none) :
    t.get? l = none := by
  cases before : t.get? l with
  | none => rfl
  | some node =>
      cases node with
      | directory =>
          rw [sound.directories l before] at absent
          cases absent
      | file data =>
          obtain ⟨data', found⟩ := sound.files l data before
          rw [found] at absent
          cases absent

section
variable (sound : Sound request t s) {i : ι}
include sound

theorem Sound.pass {tree : FileTree} {stage : Stage} (keeps : Keeps ∅ s.tree tree)
    (same : stage.temporary? = (s.stage i).temporary?)
    (written : ∀ data, (s.stage i).HasWritten (request i) data → stage.HasWritten (request i) data)
    (prepared : stage = .prepared → tree.isDirectoryAt (request i).target.directory = true) :
    Sound request t ⟨tree, Function.update s.stage i stage⟩ := by
  refine sound.change keeps ?_ ?_ ?_ ?_ ?_ prepared
  · intro j other l own
    refine ⟨Set.notMem_empty l, fun own' => other ?_⟩
    exact sound.distinct j i l own (same ▸ own')
  · intro l inside
    cases inside
  · intro l inside
    cases inside
  · intro l own
    exact Or.inr (same.trans own)
  · intro l own
    obtain ⟨new, untargeted, data, found, part⟩ := sound.owned i l (same ▸ own)
    exact ⟨new, untargeted, data, (keeps.same l data (Set.notMem_empty l)).2 found, written data part⟩

theorem Sound.write {stage : Stage} {name : String} {d : Location} {data : List UInt8}
    (held : s.tree.get? d = some .directory) (stays : stage.temporary? = some (name :: d))
    (mine : s.tree.get? (name :: d) = none ∧ (s.stage i).temporary? = none ∨
      (s.stage i).temporary? = some (name :: d))
    (untargeted : ∀ j, (request j).target.names.getLast? ≠ some name)
    (written : stage.HasWritten (request i) data) :
    Sound request t ⟨s.tree.put (name :: d) (.file data), Function.update s.stage i stage⟩ := by
  have free : s.tree.get? (name :: d) ≠ some .directory := by
    rcases mine with ⟨absent, -⟩ | own
    · simp [absent]
    · obtain ⟨data', found, -⟩ := (sound.owned i _ own).content
      simp [found]
  have new : t.get? (name :: d) = none := by
    rcases mine with ⟨absent, -⟩ | own
    · exact sound.absent absent
    · exact (sound.owned i _ own).new
  have apart (j : ι) (other : j ≠ i) (l : Location) (own : (s.stage j).temporary? = some l) :
      l ≠ name :: d := by
    rintro rfl
    rcases mine with ⟨absent, -⟩ | own'
    · obtain ⟨data', found, -⟩ := (sound.owned j _ own).content
      rw [absent] at found
      cases found
    · exact other (sound.distinct j i _ own own')
  refine sound.change (.put sound.rooted held free) ?_ ?_ ?_ ?_ ?_ ?_
  · intro j other l own
    refine ⟨apart j other l own, fun own' => apart j other l own ?_⟩
    exact Option.some.inj (own'.symm.trans stays)
  · rintro l rfl data found
    rw [new] at found
    cases found
  · rintro l rfl data found
    exact Or.inl stays
  · intro l own
    rcases mine with ⟨-, none⟩ | own'
    · rw [none] at own
      cases own
    · exact Or.inl (Option.some.inj (own.symm.trans own'))
  · intro l own
    obtain rfl : name :: d = l := Option.some.inj (stays.symm.trans own)
    refine ⟨new, fun j name' head => ?_, data, FileTree.get?_put_self _ _ (List.cons_ne_nil _ _), written⟩
    obtain rfl : name = name' := Option.some.inj head
    exact untargeted j
  · rintro rfl
    cases stays

theorem Sound.remove {l : Location} (own : (s.stage i).temporary? = some l)
    (result : Except FileFault Unit) :
    Sound request t ⟨s.tree.erase l, Function.update s.stage i (.closed result)⟩ := by
  obtain ⟨new, -, data, found, -⟩ := sound.owned i l own
  have proper : l ≠ [] := by
    rintro rfl
    cases found
  refine sound.change (.erase sound.rooted (by simp [found])) ?_ ?_ ?_ ?_ ?_ ?_
  · intro j other k own'
    refine ⟨?_, by simp [Replacement.Stage.temporary?]⟩
    rintro rfl
    exact other (sound.distinct j i _ own' own)
  · rintro k rfl data found
    rw [new] at found
    cases found
  · rintro k rfl data found
    rw [FileTree.get?_erase_self _ proper] at found
    cases found
  · intro k own'
    exact Or.inl (Option.some.inj (own'.symm.trans own))
  · intro k impossible
    cases impossible
  · intro impossible
    cases impossible

theorem Sound.move {l : Location} {tree : FileTree} (stage : s.stage i = .written l)
    (moved : s.tree.moveOver l (request i).target = .ok tree) (result : Except FileFault Unit) :
    Sound request t ⟨tree, Function.update s.stage i (.closed result)⟩ := by
  have own : (s.stage i).temporary? = some l := by rw [stage]; rfl
  obtain ⟨new, untargeted, data, found, whole⟩ := sound.owned i l own
  obtain rfl : data = (request i).data := by rwa [stage] at whole
  obtain ⟨target, located, content, gone, keeps⟩ := Keeps.moveOver sound.rooted found moved
  obtain ⟨name, d, rfl, ends, -⟩ := keeps.rooted.endsIn_of_file located content
  -- No temporary file is called like a target, so the move leaves those of others alone.
  have apart (j : ι) (k : Location) (own : (s.stage j).temporary? = some k) : k ≠ name :: d := by
    rintro rfl
    exact (sound.owned j _ own).untargeted i name rfl ends.1
  refine sound.change keeps ?_ ?_ ?_ ?_ ?_ ?_
  · intro j other k own'
    refine ⟨?_, by simp [Replacement.Stage.temporary?]⟩
    rintro (rfl | rfl)
    · exact other (sound.distinct j i _ own' own)
    · exact apart j _ own' rfl
  · rintro k (rfl | rfl) data found
    · rw [new] at found
      cases found
    · exact ⟨_, content⟩
  · rintro k (rfl | rfl) data found
    · rw [gone (apart i _ own)] at found
      cases found
    · rw [content] at found
      cases found
      exact Or.inr ⟨i, located, rfl⟩
  · intro k own'
    exact Or.inl (Or.inl (Option.some.inj (own'.symm.trans own)))
  · intro k impossible
    cases impossible
  · intro impossible
    cases impossible

/-! ### By the stage -/

theorem Sound.fail (fault : FileFault) :
    Sound request t { s with stage := Function.update s.stage i ((s.stage i).failed fault) } := by
  refine sound.pass (.refl sound.rooted) ?_ ?_ ?_
  · cases s.stage i <;> rfl
  · intro data part
    cases stage : s.stage i <;> simp [Replacement.Stage.failed, Replacement.Stage.HasWritten]
  · cases s.stage i <;> simp [Replacement.Stage.failed]

theorem Sound.act {name : String} (count : Nat)
    (fresh : s.stage i = .prepared → Fresh request s i name) :
    Sound request t (s.act request i name count) := by
  have quiet := Keeps.refl sound.rooted
  unfold Session.act
  cases stage : s.stage i with
  | requested =>
      have made := Keeps.makeDirectories sound.rooted (request i).target.directory
      rcases done : s.tree.makeDirectories (request i).target.directory with ⟨result, tree⟩
      rw [done] at made
      cases result with
      | ok _ =>
          rw [Replacement.step_requested_ok done]
          refine sound.pass made (by rw [stage]; rfl) (fun _ _ => trivial) fun _ => ?_
          exact FileTree.isDirectoryAt_of_makeDirectories (FileTree.directory_ne_empty _) done
      | error fault =>
          rw [Replacement.step_requested_error done]
          exact sound.pass made (by rw [stage]; rfl) (fun _ _ => trivial) (by simp)
  | prepared =>
      obtain ⟨absent, untargeted⟩ := fresh stage
      cases placed : s.tree.locateNew (request i).target.directory name with
      | ok l =>
          obtain ⟨d, located, held⟩ := FileTree.isDirectoryAt_iff.1 (sound.prepared i stage)
          obtain ⟨d', located', -, rfl⟩ := Replacement.locateNew_ok placed
          obtain rfl : d = d' := Except.ok.inj (located.symm.trans located')
          rw [Replacement.step_prepared_ok placed]
          exact sound.write held rfl (Or.inl ⟨absent d located, by rw [stage]; rfl⟩) untargeted rfl
      | error fault =>
          rw [Replacement.step_prepared_error placed]
          exact sound.pass quiet (by rw [stage]; rfl) (fun _ _ => trivial) (by simp)
  | writing l left =>
      have own : (s.stage i).temporary? = some l := by rw [stage]; rfl
      obtain ⟨new, untargeted, data, found, part⟩ := sound.owned i l own
      have part : data ++ left = (request i).data := by rwa [stage] at part
      cases attempted : s.tree.attempt (if left = [] then .sync else .append) with
      | error fault =>
          rw [Replacement.step_writing_error attempted]
          exact sound.pass quiet (by rw [stage]; rfl) (fun _ _ => trivial) (by simp)
      | ok _ =>
          by_cases empty : left = []
          · subst empty
            rw [Replacement.step_writing_sync attempted]
            refine sound.pass quiet (by rw [stage]; rfl) (fun data part => ?_) (by simp)
            rw [stage] at part
            simpa [Replacement.Stage.HasWritten] using part
          · rw [if_neg empty] at attempted
            rw [Replacement.step_writing_append empty attempted, Replacement.append, found]
            cases l with
            | nil => cases found
            | cons name d =>
                refine sound.write (sound.rooted found) rfl (Or.inr own) (fun j => untargeted j name rfl) ?_
                simp [Replacement.Stage.HasWritten, part]
  | written l =>
      cases moved : s.tree.moveOver l (request i).target with
      | ok tree =>
          rw [Replacement.step_written_ok moved]
          exact sound.move stage moved (.ok ())
      | error fault =>
          rw [Replacement.step_written_error moved]
          exact sound.pass quiet (by rw [stage]; rfl) (fun _ _ => trivial) (by simp)
  | refused l fault => exact sound.remove (by rw [stage]; rfl) (.error fault)
  | closed result =>
      exact sound.pass quiet (by rw [stage]; rfl) (fun _ _ => trivial) (by simp [Replacement.step])

end

/-! ## Any number of steps -/

/-- The steps that a replacement does in a row, without others, are moves of a session. -/
theorem steps_reached (r : Replacement) (n : Nat) (stage : Stage) (t : FileTree) :
    Relation.ReflTransGen (Moves fun _ : Unit => r) ⟨t, fun _ => stage⟩
      ⟨(r.steps n stage t).2, fun _ => (r.steps n stage t).1⟩ := by
  induction n generalizing stage t with
  | zero => exact .refl
  | succ n ih =>
      have fresh : Fresh (fun _ : Unit => r) ⟨t, fun _ => stage⟩ () (r.freshName t) := by
        refine ⟨fun d _ => Replacement.get?_freshName r t d, fun _ last => ?_⟩
        exact Replacement.freshName_not_mem r t (List.mem_append_right _ (List.mem_of_getLast? last))
      have move : Moves (fun _ : Unit => r) ⟨t, fun _ => stage⟩
          (act (fun _ => r) ⟨t, fun _ => stage⟩ () (r.freshName t) r.data.length) :=
        .act fun _ => fresh
      have only (next : Stage) : Function.update (fun _ : Unit => stage) () next = fun _ => next := by
        funext
        simp
      rw [act, only] at move
      exact .head move (ih _ _)

/-! ### Two replacements of one file -/

theorem Moves.create {i : ι} {name : String} {d : Location}
    (located : s.tree.locate (request i).target.directory = .ok d)
    (absent : s.tree.get? (name :: d) = none)
    (untargeted : ∀ j, (request j).target.names.getLast? ≠ some name) (count : Nat) :
    Moves request s (s.act request i name count) := by
  refine .act fun _ => ⟨fun d' located' => ?_, untargeted⟩
  obtain rfl : d = d' := Except.ok.inj (located.symm.trans located')
  exact absent

theorem Moves.proceed {i : ι} {l : Location} (own : (s.stage i).temporary? = some l) (name : String)
    (count : Nat) : Moves request s (s.act request i name count) := by
  refine .act fun prepared => ?_
  rw [prepared] at own
  cases own

end Session

end SheetSuite
