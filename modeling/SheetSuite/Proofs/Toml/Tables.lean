import SheetSuite.Proofs.Toml.Reading

namespace SheetSuite.Toml

abbrev Tables := List (String × List (String × Literal))

def membersOf (ms : List (String × Literal)) : List Statement :=
  ms.map fun m => .member m.1 m.2

def Tables.statements (tables : Tables) : List Statement :=
  tables.flatMap fun table => .header table.1 :: membersOf table.2

def entriesOf (ms : List (String × Literal)) : Entries :=
  ms.map fun m => (m.1, m.2.value)

def Tables.entries (tables : Tables) : Entries :=
  tables.map fun table => (table.1, .table .header (entriesOf table.2))

variable {before es : Entries} {name key : String} {current : List String}

theorem put_append (fresh : before.lookup key = none) (v w : Value) :
    Entries.put key v (before ++ [(key, w)]) = before ++ [(key, v)] := by
  induction before with
  | nil => simp [Entries.put]
  | cons entry before ih =>
      rw [List.lookup_eq_none_iff] at fresh
      have other : entry.1 ≠ key := (bne_iff_ne.1 (fresh entry List.mem_cons_self)).symm
      have later : before.lookup key = none :=
        List.lookup_eq_none_iff.2 fun e inside => fresh e (List.mem_cons_of_mem entry inside)
      simp [Entries.put, other, ih later]

theorem apply_header (fresh : before.lookup name = none) :
    (Statement.header name).line.apply current before =
      some ([name], before ++ [(name, .table .header [])]) := by
  simp [Statement.line, Line.apply, openAt, change, openTable, fresh]

theorem apply_member (fresh : before.lookup name = none) (new : es.lookup key = none) (l : Literal) :
    (Statement.member key l).line.apply [name] (before ++ [(name, .table .header es)]) =
      some ([name], before ++ [(name, .table .header (es ++ [(key, l.value)]))]) := by
  have found : (before ++ [(name, Value.table .header es)]).lookup name = some (.table .header es) := by
    simp [List.lookup_append, fresh]
  have added : assign [key] l.value .header es = some (.header, es ++ [(key, l.value)]) := by
    simp [assign, change, addMember, new]
  simp [Statement.line, Line.apply, change, found, added, put_append fresh]

theorem applyAll_members {ms : List (String × Literal)} (fresh : before.lookup name = none)
    (distinct : (ms.map Prod.fst).Nodup) (new : ∀ m ∈ ms, es.lookup m.1 = none) (sts : List Statement) :
    applyAll (membersOf ms ++ sts) [name] (before ++ [(name, .table .header es)]) =
      applyAll sts [name] (before ++ [(name, .table .header (es ++ entriesOf ms))]) := by
  induction ms generalizing es with
  | nil => simp [membersOf, entriesOf]
  | cons m ms ih =>
      obtain ⟨other, distinct⟩ := List.nodup_cons.1 distinct
      obtain ⟨first, new⟩ := List.forall_mem_cons.1 new
      have others : ∀ m' ∈ ms, (es ++ [(m.1, m.2.value)]).lookup m'.1 = none := by
        intro m' inside
        have different : m'.1 ≠ m.1 := fun equal => other (List.mem_map.2 ⟨m', inside, equal⟩)
        simp [List.lookup_append, new m' inside, different]
      have later := ih distinct others
      simp only [membersOf, List.map_cons, List.cons_append, applyAll, apply_member fresh first] at later ⊢
      simpa [entriesOf] using later

theorem applyAll_statements {tables : Tables} (distinct : (tables.map Prod.fst).Nodup)
    (keys : ∀ table ∈ tables, (table.2.map Prod.fst).Nodup)
    (fresh : ∀ table ∈ tables, before.lookup table.1 = none) :
    applyAll tables.statements current before = some (before ++ tables.entries) := by
  induction tables generalizing before current with
  | nil => simp [Tables.statements, Tables.entries, applyAll]
  | cons table tables ih =>
      obtain ⟨other, distinct⟩ := List.nodup_cons.1 distinct
      obtain ⟨first, keys⟩ := List.forall_mem_cons.1 keys
      obtain ⟨unused, fresh⟩ := List.forall_mem_cons.1 fresh
      have others : ∀ table' ∈ tables,
          (before ++ [(table.1, Value.table .header (entriesOf table.2))]).lookup table'.1 = none := by
        intro table' inside
        have different : table'.1 ≠ table.1 := fun equal => other (List.mem_map.2 ⟨table', inside, equal⟩)
        simp [List.lookup_append, fresh table' inside, different]
      have filled : applyAll (membersOf table.2 ++ Tables.statements tables) [table.1]
          (before ++ [(table.1, .table .header [])]) =
            some (before ++ [(table.1, .table .header (entriesOf table.2))] ++ Tables.entries tables) := by
        rw [applyAll_members unused first (by simp), List.nil_append]
        exact ih distinct keys others
      simp only [Tables.statements, List.flatMap_cons, List.cons_append, applyAll, apply_header unused]
      simpa [Tables.statements, Tables.entries] using filled

theorem Document.head {sts : List Statement} {s : List Char} (h : Document sts s) :
    ∀ c ∈ s.head?, c ≠ '\uFEFF' := by
  have other (c : Char) (start : c ∈ restStarts) : c ≠ '\uFEFF' := by
    simpa using ne_of_mem_restStarts (p := (· == '\uFEFF')) rfl c start
  intro c first
  cases h with
  | nil => cases first
  | rest _ rest _ => exact other c (rest.head c first)
  | @statement st _ b s _ _ blanks statement =>
      cases b with
      | cons d b =>
          obtain rfl : d = c := by simpa using first
          exact other d (mem_restStarts_of_blank (blanks d List.mem_cons_self))
      | nil =>
          obtain ⟨d, u, rfl, start⟩ := statement.head
          obtain rfl : d = c := by simpa using first
          rintro rfl
          rcases start with start | start <;> cases start

theorem document?_tables {tables : Tables} {text : String} (h : Document tables.statements text.toList)
    (distinct : (tables.map Prod.fst).Nodup) (keys : ∀ table ∈ tables, (table.2.map Prod.fst).Nodup) :
    document? text = some tables.entries := by
  have unmarked : ∀ t, text.toList ≠ '\uFEFF' :: t := fun t equal => h.head '\uFEFF' (by simp [equal]) rfl
  unfold document?
  split
  · rename_i t equal
    exact absurd equal (unmarked t)
  · rw [h.lines?_eq (Nat.lt_succ_self _), applyAll_statements distinct keys (by simp)]
    rfl

end SheetSuite.Toml
