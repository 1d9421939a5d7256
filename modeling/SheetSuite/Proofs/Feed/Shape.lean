import SheetSuite.Proofs.Json.Objects
import SheetSuite.Proofs.Json.Writing
import SheetSuite.Proofs.Update.Atomicity

namespace SheetSuite

open Json (Value IsText Reads)

/-! ## Records with one field -/

theorem Json.Record.single_ofValue? {α β : Type} {name key : String} {field : Value → Option α}
    {make : α → β} {v : Value} (object : v.IsObject) {b : β} :
    (Json.Record.single name key make).ofValue? field v = some b ↔
      v.KeysDenote ∧ ∃ x a, v.under key = [x] ∧ field x = some a ∧ make a = b := by
  cases v with
  | object members =>
      rw [ofValue?, Option.bind_eq_bind, Option.bind_eq_some_iff]
      refine (gather_only (p := fun found => ((single name key make).build fun _ => found).toOption = some b)).trans
        (and_congr_right fun _ => ?_)
      constructor
      · rintro ⟨_ | a, read, built⟩
        · simp [single] at built
        · obtain ⟨x, once, made⟩ := List.map_eq_singleton_iff.1 read
          exact ⟨x, a, once, made, by simpa [single] using built⟩
      · rintro ⟨x, a, once, made, rfl⟩
        exact ⟨some a, by simp [once, made], by simp [single]⟩
  | null | boolean | number | string | array => cases object

/-! ## Entries -/

namespace Entry

/-- The content of an entry occurs once, and in it the text, which is a string. -/
def Counted (entry : Value) : Prop :=
  ∃ content text, entry.under "content" = [content] ∧ content.under "$t" = [.string text]

/-- All keys of an entry and of its contents denote texts, and so do the texts of its contents. -/
def Legible (entry : Value) : Prop :=
  entry.KeysDenote ∧ ∀ content ∈ entry.under "content",
    content.KeysDenote ∧ .string none ∉ content.under "$t"

def texts (entry : Value) : List String :=
  (entry.under "content").flatMap fun content => (content.under "$t").filterMap Value.text?

theorem exists_text {entry : Value} (counted : Counted entry) (legible : Legible entry) :
    ∃ content t, entry.under "content" = [content] ∧ content.under "$t" = [.string (some t)] ∧
      texts entry = [t] := by
  obtain ⟨content, text, once, once'⟩ := counted
  have denotes := (legible.2 content (by simp [once])).2
  cases text with
  | none => simp [once'] at denotes
  | some t => exact ⟨content, t, once, once', by simp [texts, once, once', Value.text?]⟩

section
variable {entry : Value} {e : Entry}

theorem ofValue?_eq_some (object : entry.IsObject)
    (contents : ∀ content ∈ entry.under "content", content.IsObject) :
    record.ofValue? (contentRecord.ofValue? Value.text?) entry = some e ↔
      Counted entry ∧ Legible entry ∧ texts entry = [e.text] := by
  have inner {content : Value} (once : entry.under "content" = [content]) {t : String} :
      contentRecord.ofValue? Value.text? content = some t ↔
        content.KeysDenote ∧ content.under "$t" = [.string (some t)] := by
    rw [contentRecord, Json.Record.single_ofValue? (contents content (by simp [once]))]
    simp [Value.text?_eq_some]
  rw [record, Json.Record.single_ofValue? object]
  constructor
  · rintro ⟨legible, content, t, once, made, rfl⟩
    obtain ⟨legible', once'⟩ := (inner once).1 made
    refine ⟨⟨content, some t, once, once'⟩, ⟨legible, ?_⟩, ?_⟩
    · simp [once, once', legible']
    · simp [texts, once, once', Value.text?]
  · rintro ⟨counted, legible, said⟩
    obtain ⟨content, t, once, once', said'⟩ := exists_text counted legible
    obtain rfl : t = e.text := by simpa [said'] using said
    exact ⟨legible.1, content, e.text, once,
      (inner once).2 ⟨(legible.2 content (by simp [once])).1, once'⟩, rfl⟩

end

theorem mapM_ofValue?_eq_some {entries : List Value} (shaped : ∀ entry ∈ entries,
    entry.IsObject ∧ ∀ content ∈ entry.under "content", content.IsObject) {feed : Feed} :
    entries.mapM (record.ofValue? (contentRecord.ofValue? Value.text?)) = some feed ↔
      (∀ entry ∈ entries, Counted entry ∧ Legible entry) ∧
        feed = (entries.flatMap texts).map Entry.mk := by
  induction entries generalizing feed with
  | nil => simp [eq_comm]
  | cons entry entries ih =>
      rw [List.forall_mem_cons] at shaped
      simp only [List.mapM_cons, Option.bind_eq_bind, Option.bind_eq_some_iff, Option.pure_def,
        Option.some.injEq, ofValue?_eq_some shaped.1.1 shaped.1.2, ih shaped.2, List.forall_mem_cons,
        List.flatMap_cons, List.map_append]
      constructor
      · rintro ⟨e, ⟨counted, legible, said⟩, _, ⟨others, rfl⟩, rfl⟩
        exact ⟨⟨⟨counted, legible⟩, others⟩, by simp [said]⟩
      · rintro ⟨⟨⟨counted, legible⟩, others⟩, rfl⟩
        obtain ⟨-, t, -, -, said⟩ := exists_text counted legible
        exact ⟨⟨t⟩, ⟨counted, legible, said⟩, _, ⟨others, rfl⟩, by simp [said]⟩

end Entry

/-! ## Feeds -/

namespace Feed

def entriesOf (body : Value) : List Value :=
  (body.under "entry").flatMap Value.items

/-- An object, in which the values under the keys of a feed have the kinds that they have in a feed. -/
def Shaped (v : Value) : Prop :=
  v.IsObject ∧ ∀ body ∈ v.under "feed", body.IsObject ∧ ∀ list ∈ body.under "entry",
    ∃ entries, list = .array entries ∧ ∀ entry ∈ entries,
      entry.IsObject ∧ ∀ content ∈ entry.under "content", content.IsObject

/-- The body occurs once, and in it the list of entries at most once; each entry has its content and its
text once. -/
def Counted (v : Value) : Prop :=
  ∃ body, v.under "feed" = [body] ∧ (body.under "entry").length ≤ 1 ∧
    ∀ entry ∈ entriesOf body, Entry.Counted entry

/-- All keys that a feed compares, and all texts that it asks for, denote texts. -/
def Legible (v : Value) : Prop :=
  v.KeysDenote ∧ ∀ body ∈ v.under "feed", body.KeysDenote ∧
    ∀ entry ∈ entriesOf body, Entry.Legible entry

def rows (v : Value) : List String :=
  (v.under "feed").flatMap fun body => (entriesOf body).flatMap Entry.texts

def ofValue? : Value → Option Feed :=
  record.ofValue? (bodyRecord.ofValue?
    (Value.list? (Entry.record.ofValue? (Entry.contentRecord.ofValue? Value.text?))))

theorem reads_feed : Reads read ofValue? :=
  Json.reads_text.record.record.list.record.record

theorem body_ofValue? {field : Value → Option Feed} {body : Value} (object : body.IsObject)
    {feed : Feed} : bodyRecord.ofValue? field body = some feed ↔ body.KeysDenote ∧
      (body.under "entry" = [] ∧ feed = [] ∨
        ∃ list, body.under "entry" = [list] ∧ field list = some feed) := by
  cases body with
  | object members =>
      rw [Json.Record.ofValue?, Option.bind_eq_bind, Option.bind_eq_some_iff]
      refine (Json.Record.gather_only (p := fun found =>
        (bodyRecord.build fun _ => found).toOption = some feed)).trans (and_congr_right fun _ => ?_)
      constructor
      · rintro ⟨_ | a, read, built⟩
        · exact Or.inl ⟨List.map_eq_nil_iff.1 read, by simpa [bodyRecord, eq_comm] using built⟩
        · obtain rfl : a = feed := by simpa [bodyRecord] using built
          exact Or.inr (List.map_eq_singleton_iff.1 read)
      · rintro (⟨absent, rfl⟩ | ⟨x, once, made⟩)
        · exact ⟨none, by simp [absent], rfl⟩
        · exact ⟨some feed, by simp [once, made], rfl⟩
  | null | boolean | number | string | array => cases object

theorem body_eq_some {body : Value} (object : body.IsObject) (lists : ∀ list ∈ body.under "entry",
    ∃ entries, list = .array entries ∧ ∀ entry ∈ entries,
      entry.IsObject ∧ ∀ content ∈ entry.under "content", content.IsObject) {feed : Feed} :
    bodyRecord.ofValue?
        (Value.list? (Entry.record.ofValue? (Entry.contentRecord.ofValue? Value.text?))) body = some feed ↔
      body.KeysDenote ∧ (body.under "entry").length ≤ 1 ∧
        (∀ entry ∈ entriesOf body, Entry.Counted entry ∧ Entry.Legible entry) ∧
          feed = ((entriesOf body).flatMap Entry.texts).map Entry.mk := by
  rw [body_ofValue? object, entriesOf]
  rcases found : body.under "entry" with _ | ⟨list, _ | ⟨second, more⟩⟩
  · simp
  · obtain ⟨entries, rfl, shaped⟩ := lists list (by simp [found])
    simp [Value.items, Value.list?, Entry.mapM_ofValue?_eq_some shaped]
  · simp

theorem ofValue?_eq_some {v : Value} (shaped : Shaped v) {feed : Feed} :
    ofValue? v = some feed ↔ Counted v ∧ Legible v ∧ feed = (rows v).map Entry.mk := by
  rw [ofValue?, record, Json.Record.single_ofValue? shaped.1]
  constructor
  · rintro ⟨legible, body, _, once, made, rfl⟩
    obtain ⟨object, lists⟩ := shaped.2 body (by simp [once])
    obtain ⟨legible', atMost, entries, rfl⟩ := (body_eq_some object lists).1 made
    refine ⟨⟨body, once, atMost, fun entry mem => (entries entry mem).1⟩, ⟨legible, ?_⟩, ?_⟩
    · simpa [once, legible'] using fun entry mem => (entries entry mem).2
    · simp [rows, once]
  · rintro ⟨⟨body, once, atMost, counted⟩, ⟨legible, legible'⟩, rfl⟩
    obtain ⟨object, lists⟩ := shaped.2 body (by simp [once])
    obtain ⟨keys, entries⟩ := legible' body (by simp [once])
    refine ⟨legible, body, (rows v).map Entry.mk, once, (body_eq_some object lists).2 ?_, rfl⟩
    exact ⟨keys, atMost, fun entry mem => ⟨counted entry mem, entries entry mem⟩, by simp [rows, once]⟩

end Feed

/-! ## Whole texts -/

namespace Update

def download (settings : Settings) (server : Http.Peer) : Except Failure String := do
  let reception ← (server.ask settings.timeoutSeconds settings.feedUrl).result.mapError .fetch
  (do reception.checkStatus; reception.text).mapError .fetch

theorem received_of_download {settings : Settings} {server : Http.Peer} {body : String}
    (h : download settings server = .ok body) :
    received settings server = (Feed.decode body).mapError .feed := by
  obtain ⟨reception, asked, read⟩ := bind_eq_ok.1 h
  simp only [received, asked, ok_bind, read]

end Update

namespace Feed

/-- A text with the shape of a feed is taken for one if and only if what it needs is there once and denotes
texts; its rows are then the texts in their order. Otherwise an update that downloads it fails for that
reason. -/
theorem decode_shaped {v : Value} {body : String} (text : IsText v body) (shaped : Shaped v) :
    (∀ feed, decode body = .ok feed ↔ Counted v ∧ Legible v ∧ feed = (rows v).map Entry.mk) ∧
      ∀ {σ : Type} (s : σ) settings server, Update.download settings server = .ok body →
        (Counted v ∧ Legible v →
          (Update.fetch settings server).ends s = (.ok ((rows v).map Entry.mk), s)) ∧
        (¬(Counted v ∧ Legible v) →
          ∃ error, (Update.fetch settings server).ends s = (.error (.feed error), s)) := by
  have decoded (feed : Feed) :
      decode body = .ok feed ↔ Counted v ∧ Legible v ∧ feed = (rows v).map Entry.mk := by
    rw [← toOption_eq_some, decode, Json.decode_of_isText reads_feed text, ofValue?_eq_some shaped]
  refine ⟨decoded, fun s settings server downloaded => ⟨?_, ?_⟩⟩
  · rintro ⟨counted, legible⟩
    rw [Update.ends_fetch, Update.received_of_download downloaded,
      (decoded _).2 ⟨counted, legible, rfl⟩]
    rfl
  · intro lacking
    cases result : decode body with
    | ok feed =>
        obtain ⟨counted, legible, -⟩ := (decoded feed).1 result
        exact absurd ⟨counted, legible⟩ lacking
    | error error =>
        refine ⟨error, ?_⟩
        rw [Update.ends_fetch, Update.received_of_download downloaded, result]
        rfl

/-! ### A key that denotes no text -/

def unpaired : String :=
  "\x7b\"\\ud800\":1,\"feed\":\x7b\x7d\x7d"

def unpairedValue : Value :=
  .object [(none, .number), (some "feed", .object [])]

theorem unpaired_isText : IsText unpairedValue unpaired := by
  have blank := Json.isBlank_nil
  have key : Json.IsString none ['"', '\\', 'u', 'd', '8', '0', '0', '"'] :=
    ⟨[.code 0xD800], _, .cons (.code rfl) .nil, rfl, rfl⟩
  have one : Json.IsNumber ['1'] :=
    ⟨[], ['1'], [], [], by simp [Json.IsWhole, Json.AreDigits, Json.IsFraction, Json.IsExponent]⟩
  have first := Json.SpellsMember.mk blank key blank (.mk blank (.number one) blank)
  have second := Json.SpellsMember.mk blank (Json.writeString_isString "feed") blank
    (.mk blank (.noMembers blank) blank)
  exact Json.SpellsItem.mk blank (.object (.more first (.one second))) blank

theorem unpaired_shaped : Shaped unpairedValue := by
  simp [Shaped, unpairedValue, Value.under, Value.IsObject]

/-- It has the shape of a feed, and all that a feed needs is there once, but it is not taken for one. -/
theorem decode_unpaired : IsText unpairedValue unpaired ∧ Shaped unpairedValue ∧
    ¬((∃ feed, decode unpaired = .ok feed) ↔ Counted unpairedValue) := by
  refine ⟨unpaired_isText, unpaired_shaped, fun same => ?_⟩
  have counted : Counted unpairedValue := by
    simp [Counted, unpairedValue, Value.under, entriesOf]
  obtain ⟨feed, taken⟩ := same.2 counted
  have made := Json.decode_of_isText reads_feed unpaired_isText
  rw [← decode, taken] at made
  cases made

def oneRowValue : Value :=
  .object [(some "feed", .object [(some "entry", .array
    [.object [(some "content", .object [(some "$t", .string (some "expr:1"))])]])])]

theorem oneRow_isText : IsText oneRowValue Update.oneRow := by
  have blank := Json.isBlank_nil
  have text := Json.Spells.string (Json.writeString_isString "expr:1")
  have content := Json.writeMember_spells "$t" text .compact 4
  have entry := Json.writeMember_spells "content" content .compact 3
  have list := Json.Spells.array (.one (.mk blank entry blank))
  have body := Json.writeMember_spells "entry" list .compact 1
  exact Json.SpellsItem.mk blank (Json.writeMember_spells "feed" body .compact 0) blank

theorem decode_shaped_rows : decode Update.oneRow = .ok [⟨"expr:1"⟩] ∧
    ∃ error, (Update.fetch (Update.constantSettings "out") (Update.constantServer unpaired)).ends () =
      (.error (.feed error), ()) := by
  constructor
  · refine ((decode_shaped oneRow_isText ?_).1 _).2 ⟨?_, ?_, ?_⟩
    · simp [Shaped, oneRowValue, Value.under, Value.IsObject]
    · simp [Counted, oneRowValue, Value.under, entriesOf, Value.items, Entry.Counted]
    · simp [Legible, oneRowValue, Value.under, entriesOf, Value.items, Entry.Legible, Value.KeysDenote]
    · simp [rows, oneRowValue, Value.under, entriesOf, Value.items, Entry.texts, Value.text?]
  · have downloaded : Update.download (Update.constantSettings "out") (Update.constantServer unpaired) =
        .ok unpaired := by
      decide +kernel
    refine ((decode_shaped unpaired_isText unpaired_shaped).2 () _ _ downloaded).2 fun both => ?_
    simpa [Legible, unpairedValue, Value.KeysDenote] using both.2

end Feed

end SheetSuite
