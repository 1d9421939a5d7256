import SheetSuite.Proofs.Template.Expansion

/-!
# References that are not closed

A name reaches to the next closing brace, whatever stands in between. So a reference is replaced by the value of
its variable if every reference that is begun before it is also ended there. If one is left open (`LeftOpen`),
all that follows it up to the next closing brace is taken for its name, and the next reference goes into that
name (`expand_reference_iff`).
-/

namespace SheetSuite.Template

variable {lookup : String → Option String} {s rest : List Char}

/-- A reference is begun in the text and not ended there. -/
def LeftOpen (s : List Char) : Prop :=
  ∃ before name, s = before ++ '$' :: '{' :: name ∧ '}' ∉ name

theorem LeftOpen.append (h : LeftOpen s) (before : List Char) : LeftOpen (before ++ s) := by
  obtain ⟨before', name, rfl, unended⟩ := h
  exact ⟨before ++ before', name, by simp, unended⟩

theorem leftOpen_cons {c : Char} :
    LeftOpen (c :: s) ↔ (c = '$' ∧ s.head? = some '{' ∧ '}' ∉ s) ∨ LeftOpen s := by
  constructor
  · rintro ⟨before, name, equal, unended⟩
    cases before with
    | nil =>
        obtain ⟨rfl, rfl⟩ := List.cons.inj equal
        exact Or.inl ⟨rfl, rfl, by simpa using unended⟩
    | cons d before =>
        obtain ⟨rfl, rfl⟩ := List.cons.inj equal
        exact Or.inr ⟨before, name, rfl, unended⟩
  · rintro (⟨rfl, brace, unended⟩ | later)
    · obtain ⟨name, rfl⟩ := List.head?_eq_some_iff.1 brace
      exact ⟨[], name, rfl, List.not_mem_of_not_mem_cons unended⟩
    · exact later.append [c]

instance decidableLeftOpen : DecidablePred LeftOpen
  | [] => isFalse (by simp [LeftOpen])
  | _ :: s =>
    have : Decidable (LeftOpen s) := decidableLeftOpen s
    decidable_of_iff _ leftOpen_cons.symm

theorem LeftOpen.first (h : LeftOpen s) :
    ∃ before name, s = before ++ '$' :: '{' :: name ∧ ¬LeftOpen before ∧ '}' ∉ name := by
  obtain ⟨before, name, rfl, unended⟩ := h
  induction size : before.length using Nat.strong_induction_on generalizing before name with
  | _ n ih =>
      by_cases earlier : LeftOpen before
      · obtain ⟨before', name', rfl, unended'⟩ := earlier
        have shorter : before'.length < n := by
          rw [← size]
          simp
        obtain ⟨q, r, equal, first, unended''⟩ :=
          ih _ shorter before' (name' ++ '$' :: '{' :: name) (by simp [unended, unended']) rfl
        exact ⟨q, r, by simpa using equal, first, unended''⟩
      · exact ⟨before, name, rfl, earlier, unended⟩

/-! ## The scan over a text -/

theorem expanded_cons {c : Char} (h : referenceLength? (c :: s) = none) :
    expanded lookup (c :: s) = c :: expanded lookup s := by
  simp [expanded, pieces, Text.cut_of_none h, Text.Pieces.push]

theorem expanded_of_notMem (unended : '}' ∉ s) : expanded lookup s = s := by
  induction s with
  | nil => rfl
  | cons c s ih =>
      have plain : referenceLength? (c :: s) = none := referenceLength?_eq_none.2 fun _ => Or.inr unended
      rw [expanded_cons plain, ih (List.not_mem_of_not_mem_cons unended)]

theorem start_cases {c : Char} (closed : ¬LeftOpen (c :: s)) :
    (∃ name tail, c :: s = reference name ++ tail ∧ name ≠ [] ∧ '}' ∉ name) ∨
      ∀ rest, rest.head? ≠ some '{' → referenceLength? (c :: (s ++ rest)) = none := by
  cases found : referenceLength? (c :: s) with
  | some n =>
      obtain ⟨name, tail, equal, -, full, braceless⟩ := referenceLength?_eq_some found
      exact Or.inl ⟨name, tail, equal, full, braceless⟩
  | none =>
      refine Or.inr fun rest apart => referenceLength?_eq_none.2 fun start => Or.inl ?_
      have start : ['$', '{'] <+: c :: s := start_of_append apart start
      rcases referenceLength?_eq_none.1 found start with ended | unended
      · exact ended.trans (List.prefix_append _ rest)
      · obtain ⟨name, equal⟩ := start
        rw [← equal] at unended
        exact absurd ⟨[], name, equal.symm, by simpa using unended⟩ closed

theorem expanded_append (closed : ¬LeftOpen s) (apart : rest.head? ≠ some '{') :
    expanded lookup (s ++ rest) = expanded lookup s ++ expanded lookup rest := by
  induction size : s.length using Nat.strong_induction_on generalizing s with
  | _ n ih =>
      cases s with
      | nil => simp
      | cons c s =>
          have later {before tail : List Char} (equal : c :: s = before ++ tail) (full : before ≠ []) :
              expanded lookup (tail ++ rest) = expanded lookup tail ++ expanded lookup rest := by
            refine ih tail.length ?_ (fun leftOpen => closed ?_) rfl
            · have := List.length_pos_of_ne_nil full
              rw [← size, equal, List.length_append]
              omega
            · rw [equal]
              exact leftOpen.append before
          rcases start_cases closed with ⟨name, tail, equal, full, braceless⟩ | plain
          · have later := later equal (by simp [reference])
            rw [equal, List.append_assoc, expanded_reference_append full braceless,
              expanded_reference_append full braceless, later, List.append_assoc]
          · have alone : referenceLength? (c :: s) = none := by
              simpa using plain [] (by simp)
            have later := @later [c] s rfl (by simp)
            rw [List.cons_append, expanded_cons (plain rest apart), expanded_cons alone, later,
              List.cons_append]

/-! ## References after a text -/

theorem expanded_append_reference {name : List Char} (full : name ≠ []) (braceless : '}' ∉ name)
    (closed : ¬LeftOpen s) (rest : List Char) : expanded lookup (s ++ (reference name ++ rest)) =
      expanded lookup s ++ (resolve lookup (reference name) ++ expanded lookup rest) := by
  rw [expanded_append closed (by simp [reference]), expanded_reference_append full braceless]

theorem expanded_open (closed : ¬LeftOpen s) {opened : List Char} (unended : '}' ∉ opened) :
    expanded lookup (s ++ '$' :: '{' :: opened) = expanded lookup s ++ '$' :: '{' :: opened := by
  have alone : expanded lookup ('$' :: '{' :: opened) = '$' :: '{' :: opened :=
    expanded_of_notMem (by simp [unended])
  rw [expanded_append closed (by simp), alone]

end SheetSuite.Template

namespace SheetSuite

namespace Environment

theorem value?_self (name value : String) : value? [(name, value)] name = some value := by
  simp [value?]

theorem value?_longer {name longer : String} (length : name.length < longer.length) :
    value? [(name, "")] longer = none := by
  have apart : (longer.toList ++ ['=']).isPrefixOf? (name.toList ++ ['=']) = none := by
    rw [Option.eq_none_iff_forall_ne_some]
    intro rest found
    rw [List.isPrefixOf?_eq_some_iff_append_eq] at found
    have same := congrArg List.length found
    simp only [List.length_append, String.length_toList, List.length_singleton] at same
    omega
  simpa [value?] using apart

end Environment

namespace Template

theorem LeftOpen.first_text {p : String} (h : LeftOpen p.toList) :
    ∃ before opened : String, p = before ++ "$\x7b" ++ opened ∧ ¬LeftOpen before.toList ∧
      '}' ∉ opened.toList := by
  obtain ⟨before, opened, equal, closed, unended⟩ := h.first
  refine ⟨String.ofList before, String.ofList opened, ?_, by simpa using closed, by simpa using unended⟩
  rw [← String.toList_inj]
  simpa using equal

theorem expand_append_reference {name : String} (proper : (Part.reference name).IsProper) {p : String}
    (closed : ¬LeftOpen p.toList) (s : String) : expand lookup (p ++ (Part.reference name).text ++ s) =
      expand lookup p ++ (Part.reference name).meaning lookup ++ expand lookup s := by
  have full : name.toList ≠ [] := by simpa using proper.1
  rw [← String.toList_inj]
  simp only [String.toList_append, toList_expand, Part.toList_text_reference,
    Part.toList_meaning_reference, List.append_assoc]
  exact expanded_append_reference full proper.2 closed s.toList

theorem text_reference_open (opened name : String) :
    "$\x7b" ++ opened ++ (Part.reference name).text = (Part.reference (opened ++ "$\x7b" ++ name)).text := by
  simp [Part.text, String.append_assoc]

/-- A reference that is left open takes the next one into its name. -/
theorem expand_open_reference {before opened name : String} (closed : ¬LeftOpen before.toList)
    (unended : '}' ∉ opened.toList) (proper : (Part.reference name).IsProper) (s : String) :
    expand lookup (before ++ "$\x7b" ++ opened ++ (Part.reference name).text ++ s) =
      expand lookup before ++ (Part.reference (opened ++ "$\x7b" ++ name)).meaning lookup ++
        expand lookup s := by
  have longer : (Part.reference (opened ++ "$\x7b" ++ name)).IsProper := by
    simpa [Part.IsProper, unended] using proper.2
  rw [← expand_append_reference longer closed, ← text_reference_open]
  simp only [String.append_assoc]

theorem expand_open {before opened : String} (closed : ¬LeftOpen before.toList)
    (unended : '}' ∉ opened.toList) :
    expand lookup (before ++ "$\x7b" ++ opened) = expand lookup before ++ "$\x7b" ++ opened := by
  rw [← String.toList_inj]
  simpa [toList_expand] using expanded_open closed unended

/-- A reference to a variable is replaced by its value, and what stands before and after it is treated as if it
stood alone, exactly if nothing before it is left open. Otherwise the reference goes into the name that was begun
there. -/
theorem expand_reference_iff {name : String} (proper : (Part.reference name).IsProper) (p : String) :
    ((∀ (env : Environment) (value s : String), env.value? name = some value →
        expand env.value? (p ++ (Part.reference name).text ++ s) =
          expand env.value? p ++ value ++ expand env.value? s) ↔ ¬LeftOpen p.toList) ∧
      (LeftOpen p.toList → ∃ before opened, p = before ++ "$\x7b" ++ opened ∧ ¬LeftOpen before.toList ∧
        ∀ (env : Environment) (s : String), expand env.value? (p ++ (Part.reference name).text ++ s) =
          expand env.value? before ++ (Part.reference (opened ++ "$\x7b" ++ name)).meaning env.value? ++
            expand env.value? s) := by
  refine ⟨⟨fun replaced leftOpen => ?_, fun closed env value s known => ?_⟩, fun leftOpen => ?_⟩
  · -- With no other variable defined, the reference stays, and the text is too long.
    obtain ⟨before, opened, rfl, closed, unended⟩ := leftOpen.first_text
    have sign : "$\x7b".length = 2 := rfl
    have wanted := replaced [(name, "")] "" "" (Environment.value?_self name "")
    have unknown : Environment.value? [(name, "")] (opened ++ "$\x7b" ++ name) = none :=
      Environment.value?_longer (by rw [String.length_append, String.length_append, sign]; omega)
    rw [expand_open_reference closed unended proper, expand_open closed unended, Part.meaning, unknown] at wanted
    have same := congrArg String.length wanted
    simp only [Part.text, Option.getD_none, String.length_append, String.length_empty, sign] at same
    omega
  · rw [expand_append_reference proper closed, Part.meaning, known, Option.getD_some]
  · obtain ⟨before, opened, rfl, closed, unended⟩ := leftOpen.first_text
    exact ⟨before, opened, rfl, closed, fun env s => expand_open_reference closed unended proper s⟩

def oneHost : Environment :=
  [("HOST", "example.org")]

theorem expand_reference_iff_adjacent :
    expand oneHost.value? ("$\x7b\x7d$" ++ (Part.reference "HOST").text ++ "$\x7bPORT\x7d") =
      expand oneHost.value? "$\x7b\x7d$" ++ "example.org" ++ expand oneHost.value? "$\x7bPORT\x7d" := by
  have proper : (Part.reference "HOST").IsProper := by decide
  exact (expand_reference_iff proper "$\x7b\x7d$").1.2 (by decide) oneHost "example.org" _ (by decide)

theorem expand_after_stray : oneHost.value? "HOST" = some "example.org" ∧
    expand oneHost.value? ("# $\x7b\n" ++ (Part.reference "HOST").text ++ "") ≠
      expand oneHost.value? "# $\x7b\n" ++ "example.org" ++ expand oneHost.value? "" := by
  decide +kernel

end Template

end SheetSuite
