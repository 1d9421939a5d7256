import SheetSuite.Proofs.Json.Reading
import SheetSuite.Proofs.Json.Writing
import SheetSuite.Proofs.Text.Utf8
import SheetSuite.Proofs.Update.Phases

namespace SheetSuite

open Json (Value IsText Spells Reads)

section
variable {α : Type} {pairs : List (String × α)}

theorem lookup_of_mem (distinct : (pairs.map Prod.fst).Nodup) {pair : String × α} (mem : pair ∈ pairs) :
    pairs.lookup pair.1 = some pair.2 := by
  obtain ⟨before, after, rfl⟩ := List.append_of_mem mem
  have new : ∀ other ∈ before, pair.1 ≠ other.1 := by
    intro other mem equal
    rw [List.map_append, List.nodup_append] at distinct
    exact distinct.2.2 other.1 (List.mem_map_of_mem mem) pair.1 (by simp) equal.symm
  exact List.lookup_eq_some_iff.2 ⟨before, after, rfl, fun other mem => by simpa using new other mem⟩

theorem mapM_zip {ε : Type} {f : String → Except ε α} {keys : List String} {values : List α}
    (same : keys.length = values.length) (h : ∀ pair ∈ keys.zip values, f pair.1 = .ok pair.2) :
    keys.mapM f = .ok values := by
  induction keys generalizing values with
  | nil =>
      obtain rfl : values = [] := List.eq_nil_of_length_eq_zero same.symm
      rfl
  | cons key keys ih =>
      obtain ⟨a, as, rfl⟩ := List.exists_cons_of_length_eq_add_one same.symm
      rw [List.zip_cons_cons, List.forall_mem_cons] at h
      simp [h.1, ih (by simpa using same) h.2]

namespace Json.Record

theorem gather_fields {fields : List String} {field : Value → Option α} {shown : α → Value}
    (reads : ∀ a, field (shown a) = some a) (distinct : (pairs.map Prod.fst).Nodup)
    (known : ∀ pair ∈ pairs, pair.1 ∈ fields) {seen : List (String × α)}
    (new : ∀ pair ∈ pairs, seen.lookup pair.1 = none) :
    gather fields field seen (pairs.map fun pair => (some pair.1, shown pair.2)) =
      some (seen ++ pairs) := by
  induction pairs generalizing seen with
  | nil => simp [gather]
  | cons pair pairs ih =>
      rw [List.map_cons, List.nodup_cons] at distinct
      rw [List.forall_mem_cons] at known new
      have others : ∀ other ∈ pairs, (seen ++ [pair]).lookup other.1 = none := by
        intro other mem
        have different : other.1 ≠ pair.1 := fun equal =>
          distinct.1 (List.mem_map.2 ⟨other, mem, equal⟩)
        simp [List.lookup_append, new.2 other mem, different]
      simp [gather, known.1, new.1, reads, ih distinct.2 known.2 others]

theorem ofValue?_fields {β : Type} (r : Record α β) {field : Value → Option α} (shown : α → Value)
    (reads : ∀ a, field (shown a) = some a) (distinct : (pairs.map Prod.fst).Nodup)
    (known : ∀ pair ∈ pairs, pair.1 ∈ r.fields) :
    r.ofValue? field (.object (pairs.map fun pair => (some pair.1, shown pair.2))) =
      (r.build fun key => pairs.lookup key).toOption := by
  have gathered := gather_fields reads distinct known fun pair _ => List.lookup_nil
  simp [ofValue?, gathered]

end Json.Record

theorem Json.Value.list?_items {item : Value → Option α} {shown : α → Value}
    (reads : ∀ a, item (shown a) = some a) (as : List α) :
    Value.list? item (.array (as.map shown)) = some as := by
  rw [list?]
  induction as with
  | nil => rfl
  | cons a as ih => simp [reads, ih]

end

namespace TestCase

def value (t : TestCase) : Value :=
  .object ((keys.zip t.toFields).map fun pair => (some pair.1, .string (some pair.2)))

theorem value_spelled (t : TestCase) (layout : Json.Layout) (depth : Nat) :
    Spells t.value (t.write layout depth) := by
  have texts : keys.zip (t.toFields.map Json.writeString) =
      (keys.zip t.toFields).map fun pair => (pair.1, Json.writeString pair.2) :=
    List.zip_map_right ..
  rw [write, texts]
  exact Json.writeObject_spells _ Prod.fst _ _
    (fun pair _ => .string (Json.writeString_isString pair.2)) layout depth

theorem keys_zip_nodup (t : TestCase) : ((keys.zip t.toFields).map Prod.fst).Nodup := by
  rw [List.map_fst_zip (by simp)]
  decide

theorem build_toFields (t : TestCase) :
    record.build (fun key => (keys.zip t.toFields).lookup key) = .ok t := by
  refine bind_eq_ok.2 ⟨t.toFields, mapM_zip rfl ?_, rfl⟩
  intro pair mem
  simp only [lookup_of_mem t.keys_zip_nodup mem]

theorem ofValue?_value (t : TestCase) : record.ofValue? Value.text? t.value = some t := by
  have known : ∀ pair ∈ keys.zip t.toFields, pair.1 ∈ record.fields :=
    fun pair mem => (List.of_mem_zip mem).1
  rw [value, record.ofValue?_fields (fun text => .string (some text)) (fun text => rfl)
    t.keys_zip_nodup known, build_toFields, toOption_ok]

end TestCase

namespace Suite

theorem encode_isText (suite : Suite) (layout : Json.Layout) :
    IsText (.array (suite.map TestCase.value)) (suite.encode layout) := by
  have spelled := Json.writeList_spells (fun t (_ : t ∈ suite) => t.value_spelled layout 1) layout 0
  simpa [IsText, encode] using Json.SpellsItem.mk Json.isBlank_nil spelled Json.isBlank_nil

theorem decode_encode (suite : Suite) (layout : Json.Layout) :
    decode (suite.encode layout) = .ok suite := by
  have reads : Reads read (Value.list? (TestCase.record.ofValue? Value.text?)) :=
    Json.reads_text.record.list
  rw [← toOption_eq_some, decode, Json.decode_of_isText reads (suite.encode_isText layout)]
  exact Value.list?_items TestCase.ofValue?_value suite

end Suite

namespace Entry

def value (e : Entry) : Value :=
  .object [(some "content", .object [(some "$t", .string (some e.text))])]

theorem encode_isText (e : Entry) : IsText e.value e.encode := by
  have text : Spells (.string (some e.text)) (Json.writeString e.text) :=
    .string (Json.writeString_isString e.text)
  have content := Json.writeMember_spells "$t" text .compact 1
  have spelled := Json.writeMember_spells "content" content .compact 0
  simpa [IsText, encode, value] using Json.SpellsItem.mk Json.isBlank_nil spelled Json.isBlank_nil

theorem ofValue?_value (e : Entry) :
    record.ofValue? (contentRecord.ofValue? Value.text?) e.value = some e := by
  rfl

theorem decode_encode (e : Entry) : decode e.encode = .ok e := by
  have reads : Reads read (record.ofValue? (contentRecord.ofValue? Value.text?)) :=
    Json.reads_text.record.record
  rw [← toOption_eq_some, decode, Json.decode_of_isText reads e.encode_isText, ofValue?_value]

end Entry

namespace Update

def suiteOf (bytes : List UInt8) : Option (Except Json.Error Suite) :=
  (Text.strict? bytes).map Suite.decode

theorem suiteOf_content (settings : Settings) (suite : Suite) :
    suiteOf (content settings suite) = some (.ok suite) := by
  rw [suiteOf, content, Text.strict?_utf8, Option.map_some, Suite.decode_encode]

theorem ends_save_inMemory (settings : Settings) (suite : Suite) (table : Storage.Table) :
    ∃ table', (save settings .inMemory suite).ends table =
        (.ok (settings.outputDir.join suiteFile), table') ∧
      table'.files.lookup suiteFile = some (content settings suite) := by
  refine ⟨_, by simp [save, Storage.inMemory, detail, Task.ends_bind]; rfl, ?_⟩
  have others : (table.files.filter (·.1 != suiteFile)).lookup suiteFile = none := by
    refine List.lookup_eq_none_iff.2 fun file mem => ?_
    have other : file.1 ≠ suiteFile := by simpa using (List.mem_filter.1 mem).2
    simpa using other.symm
  simp [List.lookup_append, others, content]

/-- What is saved says the suite: in memory, on disk, in either layout; and an entry is read back from its
text. -/
theorem save_reads_back (suite : Suite) (entry : Entry) :
    (∀ settings table, ∃ table' bytes,
      (save settings .inMemory suite).ends table = (.ok (settings.outputDir.join suiteFile), table') ∧
        table'.files.lookup suiteFile = some bytes ∧ suiteOf bytes = some (.ok suite)) ∧
    (∀ settings base t t' p, (save settings (.onDisk base) suite).ends t = (.ok p, t') →
      ∃ bytes, t'.read (base.join suiteFile) = .ok bytes ∧ suiteOf bytes = some (.ok suite)) ∧
    (∀ layout, Suite.decode (suite.encode layout) = .ok suite) ∧
      Entry.decode entry.encode = .ok entry := by
  refine ⟨?_, ?_, suite.decode_encode, entry.decode_encode⟩
  · intro settings table
    obtain ⟨table', saved, found⟩ := ends_save_inMemory settings suite table
    exact ⟨table', _, saved, found, suiteOf_content settings suite⟩
  · intro settings base t t' p saved
    obtain ⟨-, -, target, located, found, -⟩ := save_ok saved
    exact ⟨_, FileTree.read_of_locate located found, suiteOf_content settings suite⟩

def awkwardSuite : Suite :=
  [{ expr := "\"\\\n\x1f", reason := "\x7f\u00e9\u20ac😀" }]

def compactSettings : Settings where
  feedUrl := "http://127.0.0.1:7070/"
  outputDir := "out"

def awkwardSave : Except Failure String × FileTree :=
  (save compactSettings (.onDisk compactSettings.outputDir) awkwardSuite).ends (.ofList [] [])

theorem save_reads_back_awkward : awkwardSave.1 = .ok "out/suite.json" ∧
    ∃ bytes, awkwardSave.2.read (compactSettings.outputDir.join suiteFile) = .ok bytes ∧
      suiteOf bytes = some (.ok awkwardSuite) := by
  have done : awkwardSave.1 = .ok "out/suite.json" := by decide +kernel
  have saved : awkwardSave = (.ok "out/suite.json", awkwardSave.2) := calc
    awkwardSave = (awkwardSave.1, awkwardSave.2) := (Prod.eta _).symm
    _ = (.ok "out/suite.json", awkwardSave.2) := by rw [done]
  exact ⟨done, (save_reads_back awkwardSuite ⟨""⟩).2.1 compactSettings _ _ _ _ saved⟩

end Update

end SheetSuite
