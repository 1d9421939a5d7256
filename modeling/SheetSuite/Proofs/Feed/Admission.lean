import SheetSuite.Proofs.Feed.Shape
import SheetSuite.Proofs.Json.Soundness

namespace SheetSuite

open Json (Value IsText Reads Takes)

theorem Json.SpellsItem.isArray {v : Value} {s rest : List Char} (h : SpellsItem v s)
    (bracket : skipSpace s = '[' :: rest) : ∃ items, v = .array items := by
  cases h with
  | @mk _ b x b' blank h blank' =>
      obtain ⟨c, t, rfl, -, kind, -⟩ := h.kind
      rw [h.skipSpace_append blank] at bracket
      exact kind.1 (List.cons.inj bracket).1

theorem Json.Record.single_ofValue?_array {α β : Type} {name key : String} {make : α → β}
    {field : Value → Option α} {items : List Value} {b : β}
    (h : (single name key make).ofValue? field (.array items) = some b) :
    ∃ x a, items = [x] ∧ field x = some a := by
  rcases items with _ | ⟨x, _ | ⟨y, items⟩⟩
  · simp [ofValue?, single] at h
  · simp only [ofValue?, single, List.mapM_cons, List.mapM_nil] at h
    cases made : field x with
    | none => simp [made] at h
    | some a => exact ⟨x, a, rfl, made⟩
  · simp [ofValue?, single] at h

namespace Feed

theorem takes_feed : Takes read :=
  (((Json.takes_text.record Entry.contentRecord).record Entry.record).list.record bodyRecord).record record

/-- The value has one body, under its key or, if the feed is given as a list, as its item. The body is an
object, or a list of no more than the entries. -/
def HasBody (v : Value) : Prop :=
  ∃ b, (v.IsObject ∧ v.under "feed" = [b] ∨ v = .array [b]) ∧
    (b.IsObject ∨ ∃ items, b = .array items ∧ items.length ≤ 1)

theorem body_of_ofValue? {f : Value → Option Feed} {b : Value} {feed : Feed}
    (h : bodyRecord.ofValue? f b = some feed) :
    b.IsObject ∨ ∃ items, b = .array items ∧ items.length ≤ 1 := by
  cases b with
  | object members => exact Or.inl trivial
  | array items =>
      refine Or.inr ⟨items, rfl, ?_⟩
      by_contra long
      have none : bodyRecord.ofValue? f (.array items) = none := if_neg long
      rw [none] at h
      cases h
  | null | boolean | number | string => cases h

theorem hasBody_of_ofValue? {v : Value} {feed : Feed} (h : ofValue? v = some feed) : HasBody v := by
  cases v with
  | object members =>
      have object : (Value.object members).IsObject := trivial
      obtain ⟨-, b, _, once, made, -⟩ := (Json.Record.single_ofValue? object).1 h
      exact ⟨b, Or.inl ⟨object, once⟩, body_of_ofValue? made⟩
  | array items =>
      obtain ⟨b, _, rfl, made⟩ := Json.Record.single_ofValue?_array h
      exact ⟨b, Or.inr rfl, body_of_ofValue? made⟩
  | null | boolean | number | string => cases h

theorem HasBody.object {v : Value} (h : HasBody v) (noList : ∀ items, v ≠ .array items)
    (noList' : ∀ items, .array items ∉ v.under "feed") :
    v.IsObject ∧ ∃ b, v.under "feed" = [b] ∧ b.IsObject := by
  obtain ⟨b, ⟨object, once⟩ | rfl, body⟩ := h
  · refine ⟨object, b, once, body.resolve_right ?_⟩
    rintro ⟨items, rfl, -⟩
    exact noList' items (by simp [once])
  · exact absurd rfl (noList [b])

/-- A text that is taken for a feed says a value that has a body. If neither the value nor its body is a list,
it is an object whose only member `feed` is an object. Any other text makes an update that downloads it fail
for that reason, and leave the tree as it is. -/
theorem decode_hasBody (body : String) :
    (∀ feed, decode body = .ok feed → ∃ v, IsText v body ∧ HasBody v ∧
      ((∀ items, v ≠ .array items) → (∀ items, .array items ∉ v.under "feed") →
        v.IsObject ∧ ∃ b, v.under "feed" = [b] ∧ b.IsObject)) ∧
    ((∀ v, IsText v body → ¬HasBody v) →
      ∀ settings server (t : FileTree), Update.download settings server = .ok body →
        ∃ error, (Update.fetch settings server).ends t = (.error (.feed error), t) ∧
          (Update.run settings server).ends t = (.error (.feed error), t)) := by
  have taken (feed : Feed) (h : decode body = .ok feed) : ∃ v, IsText v body ∧ HasBody v := by
    obtain ⟨v, spelled, made⟩ := (Json.decode_eq_ok reads_feed takes_feed).1 h
    exact ⟨v, spelled, hasBody_of_ofValue? made⟩
  constructor
  · intro feed h
    obtain ⟨v, spelled, hasBody⟩ := taken feed h
    exact ⟨v, spelled, hasBody, hasBody.object⟩
  · intro without settings server t downloaded
    cases decoded : decode body with
    | ok feed =>
        obtain ⟨v, spelled, hasBody⟩ := taken feed decoded
        exact absurd hasBody (without v spelled)
    | error error =>
        have received : Update.received settings server = .error (.feed error) := by
          rw [Update.received_of_download downloaded, decoded]
          rfl
        refine ⟨error, ?_, ?_⟩
        · rw [Update.ends_fetch, received]
        · rw [Update.ends_run, received]

theorem decode_hasBody_noRows :
    decode Update.noRows = .ok [] ∧ ∃ v, IsText v Update.noRows ∧ HasBody v := by
  have taken : decode Update.noRows = .ok [] := by decide +kernel
  obtain ⟨v, spelled, hasBody, -⟩ := (decode_hasBody Update.noRows).1 [] taken
  exact ⟨taken, v, spelled, hasBody⟩

def nestedLists : String := "[[]]"

/-- It is taken for a feed without rows, though it is no object, and an update that receives it replaces the
suite by an empty one. -/
theorem decode_nestedLists : decode nestedLists = .ok [] ∧
    (¬∃ v, IsText v nestedLists ∧ v.IsObject ∧ ∃ b ∈ v.under "feed", b.IsObject) ∧
    ((Update.run (Update.constantSettings "out") (Update.constantServer nestedLists)).run
      Update.oldSuite).store.read "out/suite.json" = .ok (Text.utf8 "[]".toList) := by
  refine ⟨by decide +kernel, ?_, by decide +kernel⟩
  rintro ⟨v, spelled, object, -⟩
  have bracket : Json.skipSpace nestedLists.toList = '[' :: "[]]".toList := rfl
  obtain ⟨items, rfl⟩ := Json.SpellsItem.isArray spelled bracket
  exact object

end Feed

end SheetSuite
