import SheetSuite.Proofs.Json.Objects
import SheetSuite.Proofs.Suite.RoundTrip

namespace SheetSuite

open Json (Value IsText Reads)

theorem toOption_mapM {α β ε : Type} (f : α → Except ε β) (xs : List α) :
    (xs.mapM f).toOption = xs.mapM fun x => (f x).toOption := by
  induction xs with
  | nil => rfl
  | cons x xs ih =>
      simp only [List.mapM_cons, toOption_bind, ih]
      rfl

namespace TestCase

/-- Each of the nine keys occurs once, with a string. -/
def Complete (v : Value) : Prop :=
  ∀ key ∈ keys, ∃ text, v.under key = [.string text]

/-- All keys of the object denote texts, and so do the strings under the nine keys. -/
def Legible (v : Value) : Prop :=
  v.KeysDenote ∧ ∀ key ∈ keys, .string none ∉ v.under key

def texts (v : Value) : List String :=
  keys.flatMap fun key => (v.under key).filterMap Value.text?

/-! ## One object -/

theorem map_text?_eq {vs : List Value} {ts : List String} :
    vs.map Value.text? = ts.map some ↔ vs = ts.map fun t => .string (some t) := by
  induction vs generalizing ts with
  | nil => cases ts <;> simp
  | cons v vs ih =>
      cases ts with
      | nil => simp
      | cons t ts => simp [Value.text?_eq_some, ih]

theorem toFields_ofFields {fields : List String} (nine : fields.length = 9) :
    (ofFields fields).toFields = fields := by
  match fields, nine with
  | [_, _, _, _, _, _, _, _, _], _ => rfl

theorem build_eq_some {look : String → Option String} {t : TestCase} :
    (record.build look).toOption = some t ↔ keys.map look = t.toFields.map some := by
  have built : (record.build look).toOption = (keys.mapM look).map ofFields := by
    refine (toOption_bind _ _).trans ?_
    rw [toOption_mapM]
    trans (keys.mapM look).bind fun fields => some (ofFields fields)
    · congr 2
      funext key
      cases look key <;> rfl
    · cases keys.mapM look <;> rfl
  rw [built, Option.map_eq_some_iff]
  simp only [mapM_eq_some_iff]
  constructor
  · rintro ⟨fields, found, rfl⟩
    have nine : fields.length = 9 := by simpa using (congrArg List.length found).symm
    rw [toFields_ofFields nine, found]
  · intro found
    exact ⟨t.toFields, found, t.ofFields_toFields⟩

/-- What an object has under a key that says this text, or is not there. -/
def said (text : Option String) : List Value :=
  text.toList.map fun t => .string (some t)

theorem said_injective : Function.Injective said := by
  intro a b equal
  cases a <;> cases b <;> simp_all [said]

theorem said_some_injective : Function.Injective fun text : String => said (some text) :=
  fun _ _ equal => Option.some.inj (said_injective equal)

section
variable {v : Value} {t : TestCase} {members : List (Option String × Value)}

theorem under_of_gather {out : List (String × String)}
    (gathered : Json.Record.gather keys Value.text? [] members = some out) {key : String}
    (inside : key ∈ keys) : (Value.object members).under key = said (out.lookup key) :=
  map_text?_eq.1 (Json.Record.map_under gathered inside)

theorem exists_said_of_map (found : (keys.map fun key => v.under key) =
    t.toFields.map fun text => said (some text)) {key : String} (inside : key ∈ keys) :
    ∃ text, v.under key = said (some text) := by
  have member := List.mem_map_of_mem (f := fun key => v.under key) inside
  rw [found] at member
  obtain ⟨text, -, under⟩ := List.mem_map.1 member
  exact ⟨text, under.symm⟩

theorem ofValue?_object : record.ofValue? Value.text? (.object members) = some t ↔
    (Value.object members).KeysDenote ∧
      (keys.map fun key => (Value.object members).under key) = t.toFields.map fun text => said (some text) := by
  have fields {out : List (String × String)}
      (gathered : Json.Record.gather keys Value.text? [] members = some out) :
      (record.build fun key => out.lookup key).toOption = some t ↔
        (keys.map fun key => (Value.object members).under key) =
          t.toFields.map fun text => said (some text) := by
    have same : (keys.map fun key => (Value.object members).under key) =
        (keys.map fun key => out.lookup key).map said := by
      rw [List.map_map]
      exact List.map_congr_left fun key inside => under_of_gather gathered inside
    have wanted : (t.toFields.map fun text => said (some text)) = (t.toFields.map some).map said := by
      rw [List.map_map]
      rfl
    rw [build_eq_some, same, wanted, List.map_inj_right fun a b equal => said_injective equal]
  rw [Json.Record.ofValue?, Option.bind_eq_bind, Option.bind_eq_some_iff]
  constructor
  · rintro ⟨out, gathered, built⟩
    exact ⟨(Json.Record.gather_eq_some gathered).1, (fields gathered).1 built⟩
  · rintro ⟨legible, found⟩
    obtain ⟨out, gathered⟩ : ∃ out, Json.Record.gather keys Value.text? [] members = some out := by
      apply Json.Record.exists_gather legible
      intro key inside
      obtain ⟨text, under⟩ := exists_said_of_map found inside
      rw [under]
      exact ⟨[text], rfl, le_rfl⟩
    exact ⟨out, gathered, (fields gathered).2 found⟩

theorem under_eq_texts {ks : List String} (found : ∀ key ∈ ks, ∃ text, v.under key = said (some text)) :
    (ks.map fun key => v.under key) =
      (ks.flatMap fun key => (v.under key).filterMap Value.text?).map fun text => said (some text) := by
  induction ks with
  | nil => rfl
  | cons key ks ih =>
      obtain ⟨⟨text, under⟩, others⟩ := List.forall_mem_cons.1 found
      have one : (said (some text)).filterMap Value.text? = [text] := rfl
      rw [List.map_cons, List.flatMap_cons, under, one, ih others, List.singleton_append, List.map_cons]

theorem exists_said (complete : Complete v) (legible : Legible v) {key : String} (inside : key ∈ keys) :
    ∃ text, v.under key = said (some text) := by
  obtain ⟨text, under⟩ := complete key inside
  have denotes := legible.2 key inside
  rw [under] at denotes ⊢
  cases text with
  | none => simp at denotes
  | some text => exact ⟨text, rfl⟩

theorem under_keys (complete : Complete v) (legible : Legible v) :
    (keys.map fun key => v.under key) = (texts v).map fun text => said (some text) :=
  under_eq_texts fun _ => exists_said complete legible

theorem length_texts (complete : Complete v) (legible : Legible v) : (texts v).length = 9 := by
  simpa using (congrArg List.length (under_keys complete legible)).symm

theorem ofValue?_eq_some (object : v.IsObject) : record.ofValue? Value.text? v = some t ↔
    Complete v ∧ Legible v ∧ t = ofFields (texts v) := by
  cases v with
  | object members =>
      rw [ofValue?_object]
      constructor
      · rintro ⟨legible, found⟩
        have each (key : String) (inside : key ∈ keys) := exists_said_of_map found inside
        refine ⟨fun key inside => ?_, ⟨legible, fun key inside => ?_⟩, ?_⟩
        · obtain ⟨text, under⟩ := each key inside
          exact ⟨some text, under⟩
        · obtain ⟨text, under⟩ := each key inside
          simp [under, said]
        · rw [under_eq_texts each, ← texts] at found
          rw [said_some_injective.list_map found, ofFields_toFields]
      · rintro ⟨complete, legible, rfl⟩
        refine ⟨legible.1, ?_⟩
        rw [toFields_ofFields (length_texts complete legible), under_keys complete legible]
  | null | boolean | number | string | array => cases object

end

end TestCase

namespace Suite

open TestCase (keys)

def quote (text : String) : String :=
  String.ofList (Json.writeString text)

def plainText (rows : List (List String)) : String :=
  "[" ++ ",".intercalate (rows.map fun row => "\x7b" ++ ",".intercalate ((keys.zip row).map
    fun pair => quote pair.1 ++ ":" ++ quote pair.2) ++ "\x7d") ++ "]"

theorem encode_compact (suite : Suite) : suite.encode .compact = plainText (suite.map TestCase.toFields) := by
  have write : TestCase.write .compact 1 = fun t => '{' :: ([','].intercalate ((keys.zip t.toFields).map
      fun pair => Json.writeString pair.1 ++ ':' :: Json.writeString pair.2) ++ ['}']) := by
    funext t
    rw [TestCase.write, Json.writeObject, Json.writeEnclosed_compact, List.zip_map_right, List.map_map]
    simp [Function.comp_def, Json.Layout.colon]
  rw [← String.toList_inj, encode, Json.writeList, Json.writeEnclosed_compact, write]
  simp [plainText, quote, Function.comp_def]

theorem mapM_ofValue?_eq_some {items : List Value} (objects : ∀ item ∈ items, item.IsObject) {suite : Suite} :
    items.mapM (TestCase.record.ofValue? Value.text?) = some suite ↔
      (∀ item ∈ items, TestCase.Complete item ∧ TestCase.Legible item) ∧
        suite = items.map fun item => TestCase.ofFields (TestCase.texts item) := by
  induction items generalizing suite with
  | nil => simp [eq_comm]
  | cons item items ih =>
      obtain ⟨object, objects⟩ := List.forall_mem_cons.1 objects
      simp only [List.mapM_cons, Option.bind_eq_bind, Option.bind_eq_some_iff, Option.pure_def,
        Option.some.injEq, TestCase.ofValue?_eq_some object, ih objects, List.forall_mem_cons, List.map_cons]
      constructor
      · rintro ⟨t, ⟨complete, legible, rfl⟩, _, ⟨others, rfl⟩, rfl⟩
        exact ⟨⟨⟨complete, legible⟩, others⟩, rfl⟩
      · rintro ⟨⟨⟨complete, legible⟩, others⟩, rfl⟩
        exact ⟨_, ⟨complete, legible, rfl⟩, _, ⟨others, rfl⟩, rfl⟩

def ofRecords (records : List Value) : Suite :=
  records.map fun record => TestCase.ofFields (TestCase.texts record)

section
variable {records : List Value} {body : String}

theorem decode_eq_ok (text : IsText (.array records) body) (objects : ∀ r ∈ records, r.IsObject)
    {suite : Suite} : decode body = .ok suite ↔
      (∀ r ∈ records, TestCase.Complete r ∧ TestCase.Legible r) ∧ suite = ofRecords records := by
  have reads : Reads read (Value.list? (TestCase.record.ofValue? Value.text?)) :=
    Json.reads_text.record.list
  rw [← toOption_eq_some, decode, Json.decode_of_isText reads text]
  exact mapM_ofValue?_eq_some objects

theorem toFields_ofRecords (good : ∀ r ∈ records, TestCase.Complete r ∧ TestCase.Legible r) :
    (ofRecords records).map TestCase.toFields = records.map TestCase.texts := by
  rw [ofRecords, List.map_map]
  refine List.map_congr_left fun r inside => TestCase.toFields_ofFields ?_
  exact TestCase.length_texts (good r inside).1 (good r inside).2

theorem ofRecords_eq (records : List Value) :
    ofRecords records = (records.map TestCase.texts).map TestCase.ofFields := by
  rw [ofRecords, List.map_map]
  rfl

/-- A list of objects is taken for a suite if and only if each object has each of the nine keys once with a
string, and denotes texts where it matters. The suite then only depends on the nine texts of each object in their
order, and it is written with the nine keys in their order, in either layout, and without blanks in exactly one
way. -/
theorem decode_records (text : IsText (.array records) body) (objects : ∀ r ∈ records, r.IsObject) :
    (∀ suite, decode body = .ok suite ↔
      (∀ r ∈ records, TestCase.Complete r ∧ TestCase.Legible r) ∧ suite = ofRecords records) ∧
    (∀ records' body', IsText (.array records') body' → (∀ r ∈ records', r.IsObject) →
      (∀ r ∈ records ++ records', TestCase.Complete r ∧ TestCase.Legible r) →
        records'.map TestCase.texts = records.map TestCase.texts → decode body' = decode body) ∧
    ∀ suite, decode body = .ok suite →
      suite.encode .compact = plainText (records.map TestCase.texts) ∧
      ∀ layout, IsText (.array (records.map fun r => .object ((keys.zip (TestCase.texts r)).map
        fun pair => (some pair.1, .string (some pair.2))))) (suite.encode layout) := by
  refine ⟨fun suite => decode_eq_ok text objects, ?_, ?_⟩
  · intro records' body' text' objects' good same
    obtain ⟨good, good'⟩ := List.forall_mem_append.1 good
    rw [(decode_eq_ok text' objects').2 ⟨good', rfl⟩, (decode_eq_ok text objects).2 ⟨good, rfl⟩, ofRecords_eq,
      same, ofRecords_eq]
  · intro suite decoded
    obtain ⟨good, rfl⟩ := (decode_eq_ok text objects).1 decoded
    have fields := toFields_ofRecords good
    refine ⟨by rw [encode_compact, fields], fun layout => ?_⟩
    have values : (ofRecords records).map TestCase.value = (records.map TestCase.texts).map fun texts =>
        .object ((keys.zip texts).map fun pair => (some pair.1, .string (some pair.2))) := by
      rw [← fields, List.map_map]
      rfl
    rw [List.map_map] at values
    have spelled := (ofRecords records).encode_isText layout
    rwa [values] at spelled

end

/-! ### Members in another order -/

def backward : List (String × String) :=
  ("id", "x") :: (keys.zip ["1", "2", "3", "4", "5", "6", "7", "8", "9"]).reverse

def backwardRecord : Value :=
  .object (backward.map fun pair => (some pair.1, .string (some pair.2)))

def backwardText : String :=
  String.ofList (Json.writeList .indented 0 [Json.writeObject .indented 1
    (backward.map fun pair => (pair.1, Json.writeString pair.2))])

theorem backward_isText : IsText (.array [backwardRecord]) backwardText := by
  have record := Json.writeObject_spells backward Prod.fst (fun pair => .string (some pair.2)) _
    (fun pair _ => .string (Json.writeString_isString pair.2)) .indented 1
  have list := Json.writeList_spells (fun _ (_ : _ ∈ [()]) => record) .indented 0
  simpa [IsText, backwardText, backwardRecord] using Json.SpellsItem.mk Json.isBlank_nil list Json.isBlank_nil

theorem backward_texts : TestCase.texts backwardRecord = ["1", "2", "3", "4", "5", "6", "7", "8", "9"] := by
  decide +kernel

theorem decode_records_backward :
    decode backwardText = .ok [TestCase.ofFields ["1", "2", "3", "4", "5", "6", "7", "8", "9"]] := by
  refine ((decode_records backward_isText ?_).1 _).2 ⟨?_, ?_⟩
  · simp [backwardRecord, Value.IsObject]
  · have legible : backwardRecord.KeysDenote := by
      intro member inside
      obtain ⟨pair, -, rfl⟩ := List.mem_map.1 inside
      rfl
    have found : TestCase.Complete backwardRecord ∧ ∀ key ∈ keys, .string none ∉ backwardRecord.under key := by
      simp [TestCase.Complete, keys, backwardRecord, backward, Value.under]
    simpa using ⟨found.1, legible, found.2⟩
  · simp [ofRecords, backward_texts]

/-! ### A key that denotes no text -/

def stray : String :=
  "[\x7b\"\\ud800\":1,\"expr\":\"\",\"local\":\"\",\"server\":\"\",\"difference\":\"\",\"reason\":\"\"," ++
    "\"desugar\":\"\",\"bytecode\":\"\",\"pyretSrc\":\"\",\"pyretAST\":\"\"\x7d]"

def strayRecord : Value :=
  .object ((none, .number) :: keys.map fun key => (some key, .string (some "")))

theorem stray_isText : IsText (.array [strayRecord]) stray := by
  have blank := Json.isBlank_nil
  have one : Json.IsNumber ['1'] :=
    ⟨[], ['1'], [], [], by simp [Json.IsWhole, Json.AreDigits, Json.IsFraction, Json.IsExponent]⟩
  have half : Json.IsString none ['"', '\\', 'u', 'd', '8', '0', '0', '"'] :=
    ⟨[.code 0xD800], _, .cons (.code rfl) .nil, rfl, rfl⟩
  have first := Json.SpellsMember.mk blank half blank (.mk blank (.number one) blank)
  have member (key : String) := Json.SpellsMember.mk blank (Json.writeString_isString key) blank
    (.mk blank (.string (Json.writeString_isString "")) blank)
  have members := Json.SpellsMembers.more first (.more (member "expr") (.more (member "local")
    (.more (member "server") (.more (member "difference") (.more (member "reason") (.more (member "desugar")
      (.more (member "bytecode") (.more (member "pyretSrc") (.one (member "pyretAST"))))))))))
  have spelled := Json.SpellsItem.mk blank (.array (.one (.mk blank (.object members) blank))) blank
  unfold IsText
  convert spelled using 1
  · rfl
  · decide +kernel

theorem decode_stray : IsText (.array [strayRecord]) stray ∧ strayRecord.IsObject ∧
    ¬((∃ suite, decode stray = .ok suite) ↔ ∀ r ∈ [strayRecord], TestCase.Complete r) := by
  have objects : ∀ r ∈ [strayRecord], r.IsObject := by simp [strayRecord, Value.IsObject]
  refine ⟨stray_isText, objects _ List.mem_cons_self, fun same => ?_⟩
  obtain ⟨suite, decoded⟩ := same.2 (by simp [TestCase.Complete, keys, strayRecord, Value.under])
  have good := ((decode_eq_ok stray_isText objects).1 decoded).1 strayRecord List.mem_cons_self
  simpa [TestCase.Legible, strayRecord, Value.KeysDenote] using good.2

end Suite

end SheetSuite
