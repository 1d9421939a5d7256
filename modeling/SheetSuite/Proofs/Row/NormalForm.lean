import SheetSuite.Proofs.Row.RoundTrip

namespace SheetSuite.Row

variable {t : TestCase}

structure IsNormal (t : TestCase) : Prop where
  trimmed : Text.trimStart t.expr.toList = t.expr.toList
  clean : ∀ field ∈ t.toFields, ¬Marked Row.labels field.toList

theorem trimStart_expr (raw : String) :
    Text.trimStart (parse raw).expr.toList = (parse raw).expr.toList := by
  unfold parse parseWith
  cases (pieces Row.labels raw.toList).chunks with
  | nil => rfl
  | cons expr rest =>
      have first : (ofChunks (expr :: rest)).expr = String.ofList (Text.trimStart expr) := rfl
      rw [first, String.toList_ofList, Text.trimStart_trimStart]

theorem isNormal_parse (raw : String) : IsNormal (parse raw) where
  trimmed := trimStart_expr raw
  clean := not_marked_parse raw

theorem values_canonical (t : TestCase) :
    values (labelTexts.zip t.toFields) = t.toFields.map String.toList := calc
  values (labelTexts.zip t.toFields)
      = ((labelTexts.zip t.toFields).map Prod.snd).map String.toList := by rw [List.map_map]; rfl
  _ = t.toFields.map String.toList := by rw [List.map_snd_zip (by simp [labelTexts])]

theorem fieldsOf_toFields (trimmed : Text.trimStart t.expr.toList = t.expr.toList) :
    fieldsOf (t.toFields.map String.toList) = t.toFields := by
  simp [fieldsOf, TestCase.toFields, List.range_succ, trimmed]

theorem IsNormal.parse_render (normal : IsNormal t) : parse (render t) = t := by
  have known : ∀ pair ∈ labelTexts.zip t.toFields, pair.1 ∈ labelTexts :=
    fun pair inside => (List.of_mem_zip inside).1
  have clean : ∀ v ∈ (values (labelTexts.zip t.toFields)).take 9, ¬Marked Row.labels v := by
    intro v inside
    rw [values_canonical] at inside
    obtain ⟨field, member, rfl⟩ := List.mem_map.1 (List.mem_of_mem_take inside)
    exact normal.clean field member
  have fields : (parse (render t)).toFields = t.toFields := by
    rw [render, toFields_parse_renderPairs _ known clean, values_canonical,
      fieldsOf_toFields normal.trimmed]
  rw [← TestCase.ofFields_toFields (parse (render t)), fields, TestCase.ofFields_toFields]

theorem isNormal_iff : IsNormal t ↔ parse (render t) = t := by
  constructor
  · exact IsNormal.parse_render
  · intro same
    rw [← same]
    exact isNormal_parse _

/-- What was read from a row is in normal form, and it is read again from its canonical row. -/
theorem parse_render_parse (raw : String) :
    IsNormal (parse raw) ∧ parse (render (parse raw)) = parse raw :=
  ⟨isNormal_parse raw, isNormal_iff.1 (isNormal_parse raw)⟩

end SheetSuite.Row
