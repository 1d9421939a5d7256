import SheetSuite.Proofs.Json.Reading

namespace SheetSuite

theorem mapM_eq_some_iff {α β : Type} {f : α → Option β} {xs : List α} {ys : List β} :
    xs.mapM f = some ys ↔ xs.map f = ys.map some := by
  induction xs generalizing ys with
  | nil => cases ys <;> simp
  | cons x xs ih =>
      simp only [List.mapM_cons, Option.bind_eq_bind, Option.bind_eq_some_iff, Option.pure_def,
        Option.some.injEq, ih, List.map_cons]
      constructor
      · rintro ⟨y, first, ys, others, rfl⟩
        rw [first, others, List.map_cons]
      · intro equal
        cases ys with
        | nil => cases equal
        | cons y ys =>
            obtain ⟨first, others⟩ := List.cons.inj equal
            exact ⟨y, first, ys, others, rfl⟩

namespace Json

namespace Value

def under (key : String) : Value → List Value
  | object members => members.filterMap fun (k, v) => if k = some key then some v else none
  | _ => []

def items : Value → List Value
  | array vs => vs
  | _ => []

def IsObject : Value → Prop
  | object _ => True
  | _ => False

def KeysDenote : Value → Prop
  | object members => ∀ member ∈ members, member.1.isSome
  | _ => True

theorem text?_eq_some {v : Value} {t : String} : v.text? = some t ↔ v = .string (some t) := by
  cases v <;> simp [text?]

end Value

namespace Record

variable {α : Type} {key : String} {fields : List String} {field : Value → Option α}
  {seen : List (String × α)} {members : List (Option String × Value)}

theorem under_cons (k : Option String) (v : Value) :
    (Value.object ((k, v) :: members)).under key =
      if k = some key then v :: (Value.object members).under key
      else (Value.object members).under key := by
  by_cases same : k = some key
  · simp [Value.under, same]
  · simp [Value.under, same]

theorem keysDenote_cons (k : String) (v : Value) :
    (Value.object ((some k, v) :: members)).KeysDenote ↔ (Value.object members).KeysDenote := by
  simp [Value.KeysDenote]

theorem lookup_seen {k : String} {a : α} (new : ¬(seen.lookup k).isSome) :
    ((seen ++ [(k, a)]).lookup key).toList = (seen.lookup key).toList ++ if k = key then [a] else [] := by
  have none : seen.lookup k = none := Option.not_isSome_iff_eq_none.1 new
  by_cases same : k = key
  · subst same
    simp [List.lookup_append, none]
  · have other : (key == k) = false := by simpa using Ne.symm same
    simp [List.lookup_append, List.lookup_cons, other, same]

/-- What was gathered under a field is what was seen before and what the members have under it, which together
is one value at most. -/
theorem gather_eq_some {out : List (String × α)} (h : gather fields field seen members = some out) :
    (Value.object members).KeysDenote ∧ ∀ key ∈ fields, ∃ values,
      ((Value.object members).under key).mapM field = some values ∧
        (out.lookup key).toList = (seen.lookup key).toList ++ values := by
  induction members generalizing seen with
  | nil =>
      rw [gather, Option.some.injEq] at h
      subst h
      exact ⟨by simp [Value.KeysDenote], fun key _ => ⟨[], rfl, by simp⟩⟩
  | cons member members ih =>
      obtain ⟨_ | k, v⟩ := member
      · cases h
      · rw [gather] at h
        split at h
        · split at h
          · cases h
          · rename_i new
            obtain ⟨a, made, h⟩ := Option.bind_eq_some_iff.1 h
            obtain ⟨legible, found⟩ := ih h
            refine ⟨(keysDenote_cons k v).2 legible, fun key inside => ?_⟩
            obtain ⟨values, read, said⟩ := found key inside
            refine ⟨(if k = key then [a] else []) ++ values, ?_, ?_⟩
            · rw [under_cons]
              by_cases same : k = key <;> simp [same, made, read]
            · rw [said, lookup_seen new, List.append_assoc]
        · rename_i other
          obtain ⟨legible, found⟩ := ih h
          refine ⟨(keysDenote_cons k v).2 legible, fun key inside => ?_⟩
          have different : k ≠ key := fun same => other (same ▸ inside)
          simpa [under_cons, different] using found key inside

theorem exists_gather (legible : (Value.object members).KeysDenote)
    (once : ∀ key ∈ fields, ∃ values, ((Value.object members).under key).mapM field = some values ∧
      ((seen.lookup key).toList ++ values).length ≤ 1) : ∃ out, gather fields field seen members = some out := by
  induction members generalizing seen with
  | nil => exact ⟨seen, rfl⟩
  | cons member members ih =>
      obtain ⟨_ | k, v⟩ := member
      · simp [Value.KeysDenote] at legible
      · rw [keysDenote_cons] at legible
        rw [gather]
        split
        · rename_i inside
          obtain ⟨values, read, atMost⟩ := once k inside
          rw [under_cons, if_pos rfl, List.mapM_cons] at read
          obtain ⟨a, made, read⟩ := Option.bind_eq_some_iff.1 read
          obtain ⟨rest, others, equal⟩ := Option.bind_eq_some_iff.1 read
          obtain rfl : a :: rest = values := Option.some.inj equal
          have new : ¬(seen.lookup k).isSome := by
            intro known
            obtain ⟨b, known⟩ := Option.isSome_iff_exists.1 known
            simp [known] at atMost
          rw [if_neg new, made, Option.bind_some]
          apply ih legible
          intro key inside
          rw [lookup_seen new]
          by_cases same : k = key
          · subst same
            exact ⟨rest, others, by simpa using atMost⟩
          · simpa [under_cons, same] using once key inside
        · rename_i other
          apply ih legible
          intro key inside
          have different : k ≠ key := fun same => other (same ▸ inside)
          simpa [under_cons, different] using once key inside

theorem map_under {out : List (String × α)} (gathered : gather fields field [] members = some out)
    (inside : key ∈ fields) :
    ((Value.object members).under key).map field = (out.lookup key).toList.map some := by
  obtain ⟨values, read, found⟩ := (gather_eq_some gathered).2 key inside
  rw [List.lookup_nil, Option.toList_none, List.nil_append] at found
  rw [found]
  exact mapM_eq_some_iff.1 read

/-- A record with one field only depends on what was found under it, if anything. -/
theorem gather_only {p : Option α → Prop} :
    (∃ out, gather [key] field [] members = some out ∧ p (out.lookup key)) ↔
      (Value.object members).KeysDenote ∧ ∃ found : Option α,
        ((Value.object members).under key).map field = found.toList.map some ∧ p found := by
  constructor
  · rintro ⟨out, gathered, holds⟩
    exact ⟨(gather_eq_some gathered).1, out.lookup key, map_under gathered List.mem_cons_self, holds⟩
  · rintro ⟨legible, found, read, holds⟩
    obtain ⟨out, gathered⟩ : ∃ out, gather [key] field [] members = some out := by
      apply exists_gather legible
      intro key' same
      rw [List.mem_singleton.1 same]
      refine ⟨found.toList, mapM_eq_some_iff.2 read, ?_⟩
      cases found <;> simp
    have same : out.lookup key = found := by
      rw [map_under gathered List.mem_cons_self] at read
      revert read
      cases out.lookup key <;> cases found <;> simp
    exact ⟨out, gathered, same ▸ holds⟩

end Record

end Json

end SheetSuite
