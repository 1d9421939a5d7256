import SheetSuite.Options.Parser
import SheetSuite.Proofs.Except
import SheetSuite.Proofs.Text.Cut
import Mathlib.Data.List.Perm.Basic
import Mathlib.Data.List.Nodup

namespace SheetSuite.Options

inductive Given where
  | value (option : ValueOption) (text : String)
  | flag (f : Flag)
  deriving Repr, DecidableEq

namespace Given

def name : Given → OptionName
  | value option _ => .value option
  | flag f => .flag f

def argument : Given → String
  | value option text => "--" ++ option.name ++ "=" ++ text
  | flag f => "--" ++ f.name

def Fits : Given → Prop
  | value .timeoutSeconds text => ∃ n, number text.toList = .ok n
  | _ => True

def put (o : Options) : Given → Options
  | value .feedUrl text => { o with feedUrl := text }
  | value .outputDir text => { o with outputDir := text }
  | value .timeoutSeconds text => { o with timeoutSeconds := (number text.toList).toOption }
  | value .config text => { o with config := some text }
  | flag .pretty => { o with pretty := true }
  | flag .dryRun => { o with dryRun := true }
  | flag .verbose => { o with verbose := true }
  | flag .jsonLogs => { o with jsonLogs := true }

end Given

theorem foldlM_addDigit {s : List Char} (digits : ∀ c ∈ s, c.isDigit = true) {n : Nat}
    (small : Nat.ofDigitChars 10 s n < UInt64.size) :
    s.foldlM addDigit n = .ok (Nat.ofDigitChars 10 s n) := by
  induction s generalizing n with
  | nil => rfl
  | cons c s ih =>
      obtain ⟨digit, digits⟩ := List.forall_mem_cons.1 digits
      have next : Nat.ofDigitChars 10 (c :: s) n = Nat.ofDigitChars 10 s (n * 10 + (c.toNat - 48)) := by
        rw [Nat.ofDigitChars_cons, Nat.mul_comm]
        rfl
      rw [next] at small ⊢
      -- What has been read so far is no larger than the whole number.
      have smaller : n * 10 + (c.toNat - 48) < UInt64.size := by
        rw [Nat.ofDigitChars_eq_ofDigitChars_zero] at small
        have := Nat.le_mul_of_pos_left (n * 10 + (c.toNat - 48)) (Nat.pow_pos (n := s.length) (by decide : 0 < 10))
        omega
      have read : addDigit n c = .ok (n * 10 + (c.toNat - 48)) := by
        simp [addDigit, digit, smaller]
      rw [List.foldlM_cons, read, ok_bind, ih digits small]

theorem number_toDigits {n : Nat} (small : n < UInt64.size) : number (Nat.toDigits 10 n) = .ok n := by
  have digits (c : Char) (inside : c ∈ Nat.toDigits 10 n) : c.isDigit = true :=
    Nat.isDigit_of_mem_toDigits (by decide) (by decide) inside
  have value : Nat.ofDigitChars 10 (Nat.toDigits 10 n) 0 = n := Nat.ofDigitChars_ten_toDigits
  have read := foldlM_addDigit digits (value.symm ▸ small)
  unfold number
  split
  · rename_i none
    exact absurd none Nat.toDigits_ne_nil
  · rename_i sign
    cases digits '+' (by simp [sign])
  · rename_i sign
    cases digits '+' (by simp [sign])
  · rw [value] at read
    exact read

theorem takeWhile_name {s t : List Char} (free : '=' ∉ s) (stop : ∀ c ∈ t.head?, c = '=') :
    (s ++ t).takeWhile (· != '=') = s := by
  refine Text.takeWhile_run (fun c inside => ?_) (fun c first => by simp [stop c first])
  have other : c ≠ '=' := fun equal => free (equal ▸ inside)
  simpa using other

theorem name_free (option : ValueOption) : '=' ∉ option.name.toList := by
  cases option <;> decide

theorem flagName_free (f : Flag) : '=' ∉ f.name.toList := by
  cases f <;> decide

namespace Reading

variable {r : Reading} {g : Given}

theorem take_value (r : Reading) (option : ValueOption) (text : String) :
    r.take (Given.value option text).argument = r.takeLong option.name (some text) := by
  have chars : (Given.value option text).argument.toList =
      '-' :: '-' :: (option.name.toList ++ '=' :: text.toList) := by
    simp [Given.argument]
  have name : (option.name.toList ++ '=' :: text.toList).takeWhile (· != '=') = option.name.toList :=
    takeWhile_name (name_free option) (by simp)
  unfold take
  rw [chars]
  simp [name]

theorem take_flag (r : Reading) (f : Flag) :
    r.take (Given.flag f).argument = r.takeLong f.name none := by
  have chars : (Given.flag f).argument.toList = '-' :: '-' :: f.name.toList := by
    simp [Given.argument]
  have name : f.name.toList.takeWhile (· != '=') = f.name.toList := by
    simpa using takeWhile_name (t := []) (flagName_free f) (by simp)
  unfold take
  rw [chars]
  simp [name]

theorem takeLong_value (r : Reading) (option : ValueOption) (text : String) :
    r.takeLong option.name (some text) = r.takeOption option (some text) := by
  cases option <;> rfl

theorem takeLong_flag (r : Reading) (f : Flag) : r.takeLong f.name none = r.takeFlag f := by
  cases f <;> rfl

theorem settle_eq (settled : r.pending = none) : r.settle = .ok r := by
  rw [settle, settled]

theorem note_fresh {name : OptionName} (fresh : name ∉ r.given) :
    r.note name = .ok { r with given := r.given ++ [name] } :=
  if_neg fresh

theorem setValue_fresh {option : ValueOption} {text : String} (fresh : OptionName.value option ∉ r.given)
    (fits : (Given.value option text).Fits) : r.setValue option text =
      .ok { r with options := (Given.value option text).put r.options
                   given := r.given ++ [.value option] } := by
  unfold setValue
  rw [note_fresh fresh, ok_bind]
  cases option with
  | feedUrl => rfl
  | outputDir => rfl
  | config => rfl
  | timeoutSeconds =>
      obtain ⟨n, read⟩ := fits
      simp [read, Given.put]

theorem takeFlag_fresh {f : Flag} (settled : r.pending = none) (fresh : OptionName.flag f ∉ r.given) :
    r.takeFlag f =
      .ok { r with options := (Given.flag f).put r.options, given := r.given ++ [.flag f] } := by
  rw [takeFlag, settle_eq settled, ok_bind, note_fresh fresh, ok_bind]
  cases f <;> rfl

theorem take_argument (settled : r.pending = none) (fresh : g.name ∉ r.given) (fits : g.Fits) :
    r.take g.argument = .ok { r with options := g.put r.options, given := r.given ++ [g.name] } := by
  cases g with
  | value option text =>
      rw [take_value, takeLong_value, takeOption, settle_eq settled]
      exact setValue_fresh fresh fits
  | flag f =>
      rw [take_flag, takeLong_flag]
      exact takeFlag_fresh settled fresh

theorem takeAll_cons {argument : String} (option : argument ≠ "--") (rest : List String) :
    r.takeAll (argument :: rest) = (do (← r.take argument).takeAll rest) := by
  rw [takeAll]
  exact fun equal => option equal

theorem argument_ne (g : Given) : g.argument ≠ "--" := by
  intro equal
  have short := congrArg (·.toList.length) equal
  cases g with
  | value option text =>
      simp [Given.argument] at short
  | flag f =>
      cases f <;> simp [Given.argument, Flag.name] at short

theorem takeAll_arguments {gs : List Given} (settled : r.pending = none)
    (once : (gs.map Given.name).Nodup) (fresh : ∀ g ∈ gs, g.name ∉ r.given) (fit : ∀ g ∈ gs, g.Fits) :
    r.takeAll (gs.map Given.argument) =
      .ok { r with options := gs.foldl Given.put r.options, given := r.given ++ gs.map Given.name } := by
  induction gs generalizing r with
  | nil =>
      rw [List.map_nil, takeAll, settle_eq settled]
      simp
  | cons g gs ih =>
      obtain ⟨other, once⟩ := List.nodup_cons.1 once
      rw [List.map_cons, takeAll_cons (argument_ne g),
        take_argument settled (fresh g List.mem_cons_self) (fit g List.mem_cons_self), ok_bind, ih _ once]
      · simp
      · -- The names after this one are other names.
        intro g' inside given
        rcases List.mem_append.1 given with given | given
        · exact fresh g' (List.mem_cons_of_mem g inside) given
        · exact other (List.mem_singleton.1 given ▸ List.mem_map_of_mem inside)
      · exact fun g' inside => fit g' (List.mem_cons_of_mem g inside)
      · exact settled

end Reading

/-- Options that are given once each, with values that they take, are all set. -/
theorem parse_arguments {gs : List Given} (once : (gs.map Given.name).Nodup) (fit : ∀ g ∈ gs, g.Fits) :
    parse (gs.map Given.argument) = .ok (gs.foldl Given.put {}) := by
  rw [parse, Reading.takeAll_arguments rfl once (by simp) fit]
  rfl

theorem put_comm {g g' : Given} (other : g.name ≠ g'.name) (o : Options) :
    g'.put (g.put o) = g.put (g'.put o) := by
  rcases g with ⟨_ | _ | _ | _, text⟩ | ⟨_ | _ | _ | _⟩ <;>
    rcases g' with ⟨_ | _ | _ | _, text'⟩ | ⟨_ | _ | _ | _⟩ <;>
    simp [Given.name] at other <;> rfl

theorem foldl_put_perm {gs gs' : List Given} (same : gs.Perm gs') (once : (gs.map Given.name).Nodup)
    (o : Options) : gs.foldl Given.put o = gs'.foldl Given.put o := by
  refine same.foldl_eq' (fun g inside g' inside' o => ?_) o
  by_cases other : g.name = g'.name
  · rw [List.inj_on_of_nodup_map once inside inside' other]
  · exact put_comm other o

end SheetSuite.Options
