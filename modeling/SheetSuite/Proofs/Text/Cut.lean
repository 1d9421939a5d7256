import SheetSuite.Text.Cut
import Mathlib.Data.List.Infix

namespace SheetSuite.Text

namespace Pieces

def prepend (s : List Char) (p : Pieces) : Pieces :=
  { p with lead := s ++ p.lead }

@[simp] theorem prepend_nil (p : Pieces) : p.prepend [] = p := rfl

theorem push_prepend (c : Char) (s : List Char) (p : Pieces) :
    (p.prepend s).push c = p.prepend (c :: s) := rfl

@[simp] theorem lead_prepend (s : List Char) (p : Pieces) : (p.prepend s).lead = s ++ p.lead := rfl

@[simp] theorem chunks_prepend (s : List Char) (p : Pieces) : (p.prepend s).chunks = p.chunks := rfl

@[simp] theorem join_prepend (s : List Char) (p : Pieces) : (p.prepend s).join = s ++ p.join := by
  simp [join, prepend]

@[simp] theorem lead_mark (found : List Char) (p : Pieces) : (p.mark found).lead = [] := rfl

@[simp] theorem chunks_mark (found : List Char) (p : Pieces) :
    (p.mark found).chunks = p.lead :: p.chunks := rfl

theorem lead_isPrefix_join (p : Pieces) : p.lead <+: p.join :=
  ⟨_, rfl⟩

theorem join_cons (lead found chunk : List Char) (parts : List (List Char × List Char)) :
    join ⟨lead, (found, chunk) :: parts⟩ = lead ++ (found ++ join ⟨chunk, parts⟩) := by
  simp [join]

end Pieces

variable {length? : Matcher}

@[simp] theorem cut_nil : cut length? [] = ⟨[], []⟩ := rfl

theorem cut_of_none {c : Char} {s : List Char} (h : length? (c :: s) = none) :
    cut length? (c :: s) = (cut length? s).push c := by
  simp only [cut, cutFrom, h]

theorem cut_of_some {s : List Char} {n : Nat} (full : s ≠ []) (h : length? s = some n) (pos : 0 < n) :
    cut length? s = (cut length? (s.drop n)).mark (s.take n) := by
  obtain ⟨c, s, rfl⟩ := List.exists_cons_of_ne_nil full
  obtain ⟨m, rfl⟩ : ∃ m, n = m + 1 := ⟨n - 1, by omega⟩
  rw [cut, cutFrom, h]
  dsimp only
  rw [Nat.add_sub_cancel, cutFrom_eq_cut_drop, List.drop_succ_cons]

/-- What holds at the end, and at each place if it holds where the scan goes on, holds of every cut. -/
theorem cut_induction {motive : List Char → Pieces → Prop}
    (pos : ∀ s n, length? s = some n → 0 < n) (nil : motive [] ⟨[], []⟩)
    (push : ∀ c s, length? (c :: s) = none → motive s (cut length? s) →
      motive (c :: s) ((cut length? s).push c))
    (mark : ∀ s n, length? s = some n → motive (s.drop n) (cut length? (s.drop n)) →
      motive s ((cut length? (s.drop n)).mark (s.take n)))
    (s : List Char) : motive s (cut length? s) := by
  induction size : s.length using Nat.strong_induction_on generalizing s with
  | _ size ih =>
      cases s with
      | nil => exact nil
      | cons c s =>
          cases found : length? (c :: s) with
          | none =>
              rw [cut_of_none found]
              exact push c s found (ih s.length (by simp [← size]) s rfl)
          | some n =>
              have step := pos _ _ found
              rw [cut_of_some (List.cons_ne_nil c s) found step]
              exact mark _ n found (ih _ (by rw [← size, List.length_drop, List.length_cons]; omega) _ rfl)

section

variable {p : Char → Bool} {s rest : List Char}

theorem takeWhile_run (inside : ∀ c ∈ s, p c = true) (stop : ∀ c ∈ rest.head?, p c = false) :
    (s ++ rest).takeWhile p = s := by
  have ends : rest.takeWhile p = [] := by
    cases rest with
    | nil => rfl
    | cons c rest => simp [stop c rfl]
  rw [List.takeWhile_append_of_pos inside, ends, List.append_nil]

theorem dropWhile_run (inside : ∀ c ∈ s, p c = true) (stop : ∀ c ∈ rest.head?, p c = false) :
    (s ++ rest).dropWhile p = rest := by
  rw [List.dropWhile_append_of_pos inside]
  cases rest with
  | nil => rfl
  | cons c rest => simp [stop c rfl]

end

theorem cut_append {s rest : List Char}
    (free : ∀ c s', c :: s' <:+ s → length? (c :: (s' ++ rest)) = none) :
    cut length? (s ++ rest) = (cut length? rest).prepend s := by
  induction s with
  | nil => simp
  | cons c s ih =>
      rw [List.cons_append, cut_of_none (free c s (List.suffix_refl _)), ih, Pieces.push_prepend]
      intro d s' suffix
      exact free d s' (suffix.trans (List.suffix_cons c s))

theorem cut_of_free {s : List Char} (free : ∀ c s', c :: s' <:+ s → length? (c :: s') = none) :
    cut length? s = ⟨s, []⟩ := by
  have passed : cut length? (s ++ []) = (cut length? []).prepend s := by
    apply cut_append
    intro c s' suffix
    rw [List.append_nil]
    exact free c s' suffix
  simpa [Pieces.prepend] using passed

theorem cut_match_append {found rest : List Char} (full : found ≠ [])
    (h : length? (found ++ rest) = some found.length) :
    cut length? (found ++ rest) = (cut length? rest).mark found := by
  rw [cut_of_some (by simp [full]) h (List.length_pos_of_ne_nil full), List.drop_left, List.take_left]

end SheetSuite.Text
