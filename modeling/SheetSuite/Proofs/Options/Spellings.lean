import SheetSuite.Proofs.Options.Attached
import Mathlib.Data.List.Duplicate
import Mathlib.Data.List.Forall2

/-!
# Options in all their spellings

An option may be written in several ways (`IsSpelling`), some of which take two arguments. A value that stands
apart is settled late, when the next option begins or the arguments end, but it makes no difference: a list of
spellings is read as its options are, one by one (`takeAll_spelled`). So whatever was chosen comes out of every
list that spells it, in every order; and if an option is given twice, this is what is reported
(`parse_spelled`).
-/

namespace SheetSuite.Options

/-! ## Spellings -/

/-- A value that may be an argument of its own: it does not look like an option. -/
def StandsApart (text : String) : Prop :=
  text = "-" ∨ text.toList.head? ≠ some '-'

theorem StandsApart.toList_ne {text : String} (apart : StandsApart text) (c : Char) (rest : List Char) :
    text.toList ≠ '-' :: c :: rest := by
  intro equal
  rcases apart with rfl | other
  · cases (List.cons.inj equal).2
  · simp [equal] at other

theorem StandsApart.ne {text : String} (apart : StandsApart text) : text ≠ "--" := by
  rintro rfl
  exact apart.toList_ne '-' [] rfl

inductive IsSpelling : Given → List String → Prop
  | attached (option : ValueOption) (text : String) :
      IsSpelling (.value option text) ["--" ++ option.name ++ "=" ++ text]
  | apart (option : ValueOption) {text : String} :
      StandsApart text → IsSpelling (.value option text) ["--" ++ option.name, text]
  | shortApart {text : String} : StandsApart text → IsSpelling (.value .config text) ["-c", text]
  | shortEquals (text : String) : IsSpelling (.value .config text) ["-c=" ++ text]
  | shortJoined {text : String} : text ≠ "" → text.toList.head? ≠ some '=' →
      IsSpelling (.value .config text) ["-c" ++ text]
  | long (f : Flag) : IsSpelling (.flag f) ["--" ++ f.name]
  | shortVerbose : IsSpelling (.flag .verbose) ["-v"]

namespace Reading

variable {r r₀ : Reading} {g : Given} {option : ValueOption} {text : String}

theorem take_long (r : Reading) (option : ValueOption) :
    r.take ("--" ++ option.name) = r.takeOption option none := by
  have chars : ("--" ++ option.name).toList = '-' :: '-' :: option.name.toList := by simp
  have name : (option.name.toList ++ []).takeWhile (· != '=') = option.name.toList :=
    takeWhile_name (name_free option) (by simp)
  rw [List.append_nil] at name
  unfold take
  rw [chars]
  cases option <;> simp [name] <;> rfl

theorem take_shortEquals (r : Reading) (text : String) :
    r.take ("-c=" ++ text) = r.takeOption .config (some text) := by
  have chars : ("-c=" ++ text).toList = '-' :: 'c' :: '=' :: text.toList := by simp
  unfold take
  rw [chars]
  simp [takeShort]

theorem take_shortJoined (r : Reading) (full : text ≠ "") (other : text.toList.head? ≠ some '=') :
    r.take ("-c" ++ text) = r.takeOption .config (some text) := by
  have chars : ("-c" ++ text).toList = '-' :: 'c' :: text.toList := by simp
  unfold take
  rw [chars]
  cases start : text.toList with
  | nil => exact absurd (String.toList_eq_nil_iff.1 start) full
  | cons c rest =>
      rw [start] at other
      have other : c ≠ '=' := by simpa using other
      rw [← String.ofList_toList (s := text), start]
      simp [takeShort, other]

theorem take_shortVerbose (r : Reading) : r.take "-v" = r.takeFlag .verbose := by
  have read : r.take "-v" = (do (← r.takeFlag .verbose).takeShort []) := rfl
  rw [read]
  cases r.takeFlag .verbose <;> rfl

theorem take_apart (r : Reading) (apart : StandsApart text) : r.take text = r.takePlain text := by
  unfold take
  split
  · rename_i equal
    exact absurd equal (apart.toList_ne _ _)
  · rename_i equal
    exact absurd equal (apart.toList_ne _ _)
  · rfl

/-! ## One option -/

def add (r : Reading) : Given → Except UsageFault Reading
  | .value option text => r.setValue option text
  | .flag f => r.takeFlag f

theorem note_ok {name : OptionName} (h : r.note name = .ok r₀) : r₀.pending = r.pending := by
  unfold note at h
  split at h
  · cases h
  · cases h
    rfl

theorem setValue_pending (h : r.setValue option text = .ok r₀) : r₀.pending = r.pending := by
  obtain ⟨r₁, noted, h⟩ := bind_eq_ok.1 h
  have kept := note_ok noted
  cases option with
  | timeoutSeconds =>
      dsimp only at h
      split at h
      · cases h
        exact kept
      · cases h
  | feedUrl | outputDir | config =>
      cases h
      exact kept

theorem settle_pending (h : r.settle = .ok r₀) : r₀.pending = none := by
  unfold settle at h
  split at h
  · rename_i settled
    cases h
    exact settled
  · cases h
  · exact setValue_pending h

theorem takeFlag_pending {f : Flag} (h : r.takeFlag f = .ok r₀) : r₀.pending = none := by
  obtain ⟨r₁, settled, h⟩ := bind_eq_ok.1 h
  obtain ⟨r₂, noted, h⟩ := bind_eq_ok.1 h
  have kept : r₂.pending = none := (note_ok noted).trans (settle_pending settled)
  cases f <;> (cases h; exact kept)

theorem add_settle (settled : r.pending = none) : (r.add g >>= settle) = r.add g := by
  cases read : r.add g with
  | error fault => rfl
  | ok r₁ =>
      apply settle_eq
      cases g with
      | value option text => exact (setValue_pending read).trans settled
      | flag f => exact takeFlag_pending read

/-- These arguments, after whatever was read before, read an option. What they leave may not be settled, but it
will be when the next option begins. -/
def Read (arguments : List String) (g : Given) : Prop :=
  ∃ next : Reading → Except UsageFault Reading,
    (∀ r : Reading, r.pending = none → (next r >>= settle) = r.add g) ∧
      ∀ (r : Reading) (rest : List String), r.takeAll (arguments ++ rest) =
        r.settle >>= fun r => next r >>= fun r => r.takeAll rest

theorem read_atOnce {argument : String} (option : argument ≠ "--")
    (read : ∀ r : Reading, r.take argument = r.settle >>= fun r => r.add g) : Read [argument] g := by
  refine ⟨fun r => r.add g, fun r => add_settle, fun r rest => ?_⟩
  rw [List.singleton_append, takeAll_cons option, read, bind_assoc]

theorem read_value {argument : String} (isOption : argument ≠ "--")
    (read : ∀ r : Reading, r.take argument = r.takeOption option (some text)) :
    Read [argument] (.value option text) :=
  read_atOnce isOption read

theorem read_flag {argument : String} {f : Flag} (isOption : argument ≠ "--")
    (read : ∀ r : Reading, r.take argument = r.takeFlag f) : Read [argument] (.flag f) := by
  refine read_atOnce isOption fun r => ?_
  rw [read]
  cases settled : r.settle with
  | error fault => rw [takeFlag, settled, error_bind, error_bind]
  | ok r₀ => rw [ok_bind, add, takeFlag, settled, takeFlag, settle_eq (settle_pending settled)]

theorem read_apart {argument : String} (isOption : argument ≠ "--")
    (read : ∀ r : Reading, r.take argument = r.takeOption option none) (apart : StandsApart text) :
    Read [argument, text] (.value option text) := by
  refine ⟨fun r => .ok { r with pending := some (option, some text) }, ?_, fun r rest => ?_⟩
  · intro r settled
    have same : { r with pending := none } = r := by rw [← settled]
    rw [ok_bind, settle, add]
    dsimp only
    rw [same]
  · rw [List.cons_append, takeAll_cons isOption, read, takeOption, bind_assoc]
    congr
    funext r
    rw [ok_bind, ok_bind, List.singleton_append, takeAll_cons apart.ne, take_apart _ apart, takePlain, ok_bind]

theorem read_of_isSpelling {arguments : List String} (spelled : IsSpelling g arguments) :
    Read arguments g := by
  cases spelled with
  | attached option text =>
      apply read_value (argument_ne (.value option text))
      intro r
      rw [take_value, takeLong_value]
  | apart option apart =>
      have isOption : "--" ++ option.name ≠ "--" := by cases option <;> decide
      exact read_apart isOption (fun r => r.take_long option) apart
  | shortApart apart => exact read_apart (by decide) (fun r => rfl) apart
  | shortEquals text =>
      have isOption : "-c=" ++ text ≠ "--" := fun equal => by simpa using congrArg String.toList equal
      exact read_value isOption fun r => r.take_shortEquals text
  | @shortJoined text full other =>
      have isOption : "-c" ++ text ≠ "--" := fun equal => by simpa using congrArg String.toList equal
      exact read_value isOption fun r => r.take_shortJoined full other
  | long f =>
      apply read_flag (argument_ne (.flag f))
      intro r
      rw [take_flag, takeLong_flag]
  | shortVerbose => exact read_flag (by decide) take_shortVerbose

theorem takeAll_spelled {gs : List Given} {spellings : List (List String)}
    (spelled : List.Forall₂ IsSpelling gs spellings) (r : Reading) :
    r.takeAll spellings.flatten = r.settle >>= fun r => gs.foldlM add r := by
  induction spelled generalizing r with
  | nil =>
      rw [List.flatten_nil, takeAll]
      cases r.settle <;> rfl
  | @cons g arguments gs spellings first others ih =>
      obtain ⟨next, settles, read⟩ := read_of_isSpelling first
      rw [List.flatten_cons, read]
      cases settled : r.settle with
      | error fault => rfl
      | ok r₀ =>
          rw [ok_bind, ok_bind, List.foldlM_cons, ← settles r₀ (settle_pending settled), bind_assoc]
          simp only [ih]

/-! ## All options -/

theorem add_fresh (settled : r.pending = none) (fresh : g.name ∉ r.given) (fits : g.Fits) :
    r.add g = .ok { r with options := g.put r.options, given := r.given ++ [g.name] } := by
  cases g with
  | value option text => exact setValue_fresh fresh fits
  | flag f => exact takeFlag_fresh settled fresh

theorem add_repeated (settled : r.pending = none) (known : g.name ∈ r.given) :
    r.add g = .error (.repeated g.name) := by
  have refused : r.note g.name = .error (.repeated g.name) := if_pos known
  cases g with
  | value option text =>
      rw [add, setValue, Given.name] at *
      rw [refused, error_bind]
  | flag f =>
      rw [add, takeFlag, settle_eq settled, ok_bind]
      rw [Given.name] at *
      rw [refused, error_bind]

theorem isSpelling_argument (g : Given) : IsSpelling g [g.argument] := by
  cases g with
  | value option text => exact .attached option text
  | flag f => exact .long f

theorem foldlM_add {gs : List Given} (settled : r.pending = none) (once : (gs.map Given.name).Nodup)
    (fresh : ∀ g ∈ gs, g.name ∉ r.given) (fit : ∀ g ∈ gs, g.Fits) :
    gs.foldlM add r =
      .ok { r with options := gs.foldl Given.put r.options, given := r.given ++ gs.map Given.name } := by
  -- Every spelling is as good as the one with the value attached.
  have spelled : List.Forall₂ IsSpelling gs (gs.map fun g => [g.argument]) := by
    rw [List.forall₂_map_right_iff, List.forall₂_same]
    exact fun g _ => isSpelling_argument g
  have flat : (gs.map fun g => [g.argument]).flatten = gs.map Given.argument := by
    rw [← List.flatMap_def]
    exact List.flatMap_pure_eq_map Given.argument gs
  have read := takeAll_spelled spelled r
  rw [flat, settle_eq settled, ok_bind] at read
  rw [← read]
  exact takeAll_arguments settled once fresh fit

theorem foldlM_add_repeated {gs : List Given} (settled : r.pending = none) (fit : ∀ g ∈ gs, g.Fits)
    (once : r.given.Nodup) (twice : ¬(r.given ++ gs.map Given.name).Nodup) :
    ∃ name, List.Duplicate name (r.given ++ gs.map Given.name) ∧
      gs.foldlM add r = .error (.repeated name) := by
  induction gs generalizing r with
  | nil => simp [once] at twice
  | cons g gs ih =>
      rw [List.foldlM_cons]
      by_cases known : g.name ∈ r.given
      · refine ⟨g.name, ?_, by rw [add_repeated settled known, error_bind]⟩
        rw [List.duplicate_iff_sublist]
        exact (List.singleton_sublist.2 known).append (List.singleton_sublist.2 (by simp))
      · have longer : r.given ++ (g :: gs).map Given.name =
            (r.given ++ [g.name]) ++ gs.map Given.name := by
          simp
        rw [longer] at twice ⊢
        obtain ⟨first, others⟩ := List.forall_mem_cons.1 fit
        rw [add_fresh settled known first, ok_bind]
        apply @ih { r with options := g.put r.options, given := r.given ++ [g.name] } settled others _ twice
        simpa [List.nodup_append, once] using fun name inside => ne_of_mem_of_not_mem inside known

end Reading

/-! ## Choices -/

structure Choice where
  feedUrl : Option String := none
  outputDir : Option String := none
  timeoutSeconds : Option UInt64 := none
  config : Option String := none
  pretty : Bool := false
  dryRun : Bool := false
  verbose : Bool := false
  jsonLogs : Bool := false

namespace Choice

def ofValue (option : ValueOption) (text : Option String) : List Given :=
  (text.map (Given.value option)).toList

def ofFlag (f : Flag) (set : Bool) : List Given :=
  if set then [.flag f] else []

def given (c : Choice) : List Given :=
  ofValue .feedUrl c.feedUrl ++ (ofValue .outputDir c.outputDir ++
    (ofValue .timeoutSeconds (c.timeoutSeconds.map fun n => toString n.toNat) ++
      (ofValue .config c.config ++ (ofFlag .pretty c.pretty ++ (ofFlag .dryRun c.dryRun ++
        (ofFlag .verbose c.verbose ++ ofFlag .jsonLogs c.jsonLogs))))))

def options (c : Choice) : Options where
  feedUrl := c.feedUrl.getD "https://spreadsheets.google.com/feeds/list/0AjzMl1BJlJDkdDI2c0VUSHNZMnR6ZVR5S2hXZEdtd1E/1/public/basic?alt=json"
  outputDir := c.outputDir.getD "."
  timeoutSeconds := c.timeoutSeconds.map UInt64.toNat
  config := c.config
  pretty := c.pretty
  dryRun := c.dryRun
  verbose := c.verbose
  jsonLogs := c.jsonLogs

theorem number_toString (n : UInt64) : number (toString n.toNat).toList = .ok n.toNat := by
  simpa using number_toDigits n.toNat_lt_size

theorem fits_of_mem_given {c : Choice} {g : Given} (inside : g ∈ c.given) : g.Fits := by
  rcases g with ⟨_ | _ | _ | _, text⟩ | f
  · trivial
  · trivial
  · have known : ∃ n, c.timeoutSeconds = some n ∧ toString n.toNat = text := by
      simpa [given, ofValue, ofFlag] using inside
    obtain ⟨n, -, rfl⟩ := known
    exact ⟨n.toNat, number_toString n⟩
  · trivial
  · trivial

theorem given_nodup (c : Choice) : (c.given.map Given.name).Nodup := by
  have value (option : ValueOption) (text : Option String) :
      ((ofValue option text).map Given.name).Sublist [.value option] := by
    cases text <;> simp [ofValue, Given.name]
  have flag (f : Flag) (set : Bool) : ((ofFlag f set).map Given.name).Sublist [.flag f] := by
    cases set <;> simp [ofFlag, Given.name]
  have names : (c.given.map Given.name).Sublist ([.value .feedUrl] ++ ([.value .outputDir] ++
      ([.value .timeoutSeconds] ++ ([.value .config] ++ ([.flag .pretty] ++ ([.flag .dryRun] ++
        ([.flag .verbose] ++ [.flag .jsonLogs]))))))) := by
    simp only [given, List.map_append]
    repeat' apply List.Sublist.append
    all_goals first | exact value _ _ | exact flag _ _
  exact names.nodup (by decide)

theorem foldl_given (c : Choice) : c.given.foldl Given.put {} = c.options := by
  have feedUrl (x : Option String) (o : Options) : (ofValue .feedUrl x).foldl Given.put o =
      { o with feedUrl := x.getD o.feedUrl } := by
    cases x <;> rfl
  have outputDir (x : Option String) (o : Options) : (ofValue .outputDir x).foldl Given.put o =
      { o with outputDir := x.getD o.outputDir } := by
    cases x <;> rfl
  have timeoutSeconds (x : Option UInt64) (o : Options) :
      (ofValue .timeoutSeconds (x.map fun n => toString n.toNat)).foldl Given.put o =
        { o with timeoutSeconds := (x.map UInt64.toNat).or o.timeoutSeconds } := by
    cases x with
    | none => rfl
    | some n => simp only [ofValue, Option.map_some, Option.toList_some, List.foldl_cons, List.foldl_nil,
        Given.put, number_toString, toOption_ok, Option.some_or]
  have config (x : Option String) (o : Options) : (ofValue .config x).foldl Given.put o =
      { o with config := x.or o.config } := by
    cases x <;> rfl
  have pretty (set : Bool) (o : Options) : (ofFlag .pretty set).foldl Given.put o =
      { o with pretty := set || o.pretty } := by
    cases set <;> rfl
  have dryRun (set : Bool) (o : Options) : (ofFlag .dryRun set).foldl Given.put o =
      { o with dryRun := set || o.dryRun } := by
    cases set <;> rfl
  have verbose (set : Bool) (o : Options) : (ofFlag .verbose set).foldl Given.put o =
      { o with verbose := set || o.verbose } := by
    cases set <;> rfl
  have jsonLogs (set : Bool) (o : Options) : (ofFlag .jsonLogs set).foldl Given.put o =
      { o with jsonLogs := set || o.jsonLogs } := by
    cases set <;> rfl
  simp only [given, List.foldl_append, feedUrl, outputDir, timeoutSeconds, config, pretty, dryRun, verbose,
    jsonLogs, Option.or_none, Bool.or_false]
  rfl

end Choice

theorem parse_eq {gs : List Given} {spellings : List (List String)}
    (spelled : List.Forall₂ IsSpelling gs spellings) :
    parse spellings.flatten = (gs.foldlM Reading.add {}).map (·.options) := by
  rw [parse, Reading.takeAll_spelled spelled]
  rfl

/-- However options are spelled and in whatever order they stand, what was chosen is what is in force. If one of
them is given twice, this is reported, and nothing else. -/
theorem parse_spelled {gs : List Given} {spellings : List (List String)}
    (spelled : List.Forall₂ IsSpelling gs spellings) :
    (∀ c : Choice, gs.Perm c.given → parse spellings.flatten = .ok c.options) ∧
      ((∀ g ∈ gs, ∃ c : Choice, g ∈ c.given) → ¬(gs.map Given.name).Nodup →
        ∃ name, List.Duplicate name (gs.map Given.name) ∧
          parse spellings.flatten = .error (.repeated name)) := by
  rw [parse_eq spelled]
  constructor
  · intro c order
    have once := (order.map Given.name).nodup_iff.2 c.given_nodup
    have fit (g : Given) (inside : g ∈ gs) : g.Fits := Choice.fits_of_mem_given (order.mem_iff.1 inside)
    rw [Reading.foldlM_add rfl once (by simp) fit, ← c.foldl_given, ← foldl_put_perm order once]
    rfl
  · intro chosen twice
    have fit (g : Given) (inside : g ∈ gs) : g.Fits := by
      obtain ⟨c, inside⟩ := chosen g inside
      exact Choice.fits_of_mem_given inside
    obtain ⟨name, duplicate, refused⟩ :=
      @Reading.foldlM_add_repeated {} gs rfl fit List.nodup_nil twice
    exact ⟨name, duplicate, by rw [refused]; rfl⟩

def oddChoice : Choice where
  feedUrl := some "--pretty"
  timeoutSeconds := some 10
  config := some "-"
  verbose := true

theorem parse_spelled_odd :
    parse ["-c", "-", "-v", "--feed-url=--pretty", "--timeout-seconds", "10"] = .ok oddChoice.options ∧
      ∃ name, parse ["-cx", "--pretty", "--config", "y"] = .error (.repeated name) := by
  constructor
  · have spelled : List.Forall₂ IsSpelling
        [.value .config "-", .flag .verbose, .value .feedUrl "--pretty", .value .timeoutSeconds "10"]
        [["-c", "-"], ["-v"], ["--feed-url=--pretty"], ["--timeout-seconds", "10"]] :=
      .cons (.shortApart (.inl rfl)) (.cons .shortVerbose (.cons (.attached .feedUrl "--pretty")
        (.cons (.apart .timeoutSeconds (.inr (by decide))) .nil)))
    exact (parse_spelled spelled).1 oddChoice (by decide +kernel)
  · have spelled : List.Forall₂ IsSpelling [.value .config "x", .flag .pretty, .value .config "y"]
        [["-cx"], ["--pretty"], ["--config", "y"]] :=
      .cons (.shortJoined (by decide) (by decide)) (.cons (.long .pretty)
        (.cons (.apart .config (.inr (by decide))) .nil))
    have chosen : ∀ g ∈ [Given.value .config "x", .flag .pretty, .value .config "y"],
        ∃ c : Choice, g ∈ c.given := by
      simp only [List.forall_mem_cons, List.not_mem_nil, false_implies, implies_true, and_true]
      exact ⟨⟨{ config := some "x" }, by decide⟩, ⟨{ pretty := true }, by decide⟩,
        ⟨{ config := some "y" }, by decide⟩⟩
    obtain ⟨name, -, refused⟩ := (parse_spelled spelled).2 chosen (by decide)
    exact ⟨name, refused⟩

end SheetSuite.Options
