import Mathlib.Tactic.Common
import SheetSuite.Json.Write
import SheetSuite.Proofs.Json.Grammar

namespace SheetSuite.Json

variable {α β : Type}

theorem hexFour?_control :
    ∀ n < 0x20, hexFour? ['0', '0', hexChar (n / 16), hexChar (n % 16)] = some n := by
  decide

/-- A character is written as one unit that denotes it, whatever follows. -/
theorem escapeChar_isPiece (c : Char) :
    ∃ p, IsPiece p (escapeChar c) ∧ ∀ ps, denoted (p :: ps) = (denoted ps).map (c :: ·) := by
  have short {e : Char} (h : shortEscape? e = some c) :
      ∃ p, IsPiece p ['\\', e] ∧ ∀ ps, denoted (p :: ps) = (denoted ps).map (c :: ·) :=
    ⟨.char c, .short h, fun ps => rfl⟩
  unfold escapeChar
  split_ifs with quote backslash backspace formFeed newline carriage tab control
  · exact short (by rw [quote]; rfl)
  · exact short (by rw [backslash]; rfl)
  · exact short (by rw [backspace]; rfl)
  · exact short (by rw [formFeed]; rfl)
  · exact short (by rw [newline]; rfl)
  · exact short (by rw [carriage]; rfl)
  · exact short (by rw [tab]; rfl)
  · refine ⟨.code c.toNat, .code (hexFour?_control _ control), fun ps => ?_⟩
    rw [denoted_plain, Char.ofNat_toNat]
    · simp [isTrailing]
      omega
    · simp [isLeading]
      omega
  · exact ⟨.char c, .plain quote backslash (by omega), fun ps => rfl⟩

theorem escapeChars_arePieces (s : List Char) :
    ∃ ps, ArePieces ps (s.flatMap escapeChar) ∧ denoted ps = some s := by
  induction s with
  | nil => exact ⟨[], .nil, rfl⟩
  | cons c s ih =>
      obtain ⟨p, piece, denotes⟩ := escapeChar_isPiece c
      obtain ⟨ps, pieces, text⟩ := ih
      exact ⟨p :: ps, .cons piece pieces, by rw [denotes, text]; rfl⟩

theorem writeString_isString (s : String) : IsString (some s) (writeString s) := by
  obtain ⟨ps, pieces, text⟩ := escapeChars_arePieces s.toList
  exact ⟨ps, _, pieces, by simp [text], rfl⟩

theorem isBlank_nil : IsBlank [] := by
  simp [IsBlank]

theorem lineBreak_isBlank (layout : Layout) (depth : Nat) : IsBlank (layout.lineBreak depth) := by
  cases layout with
  | compact => exact isBlank_nil
  | indented =>
      intro c h
      rcases List.mem_cons.1 h with rfl | h
      · rfl
      · rw [List.eq_of_mem_replicate h]
        rfl

theorem colon_eq (layout : Layout) : ∃ gap, IsBlank gap ∧ layout.colon = ':' :: gap := by
  cases layout with
  | compact => exact ⟨[], isBlank_nil, rfl⟩
  | indented => exact ⟨[' '], by simp [IsBlank, isSpace], rfl⟩

theorem writeItems_spelled {P : List β → List Char → Prop} {made : α → β} {item : α → List Char}
    {layout : Layout} {depth : Nat} {xs : List α} {b : List Char} (some : xs ≠ []) (blank : IsBlank b)
    (one : ∀ x ∈ xs, ∀ b, IsBlank b → P [made x] (layout.lineBreak depth ++ (item x ++ b)))
    (more : ∀ x ∈ xs, ∀ ys t, P ys t → P (made x :: ys) (layout.lineBreak depth ++ item x ++ ',' :: t)) :
    P (xs.map made) (writeItems layout depth (xs.map item) ++ b) := by
  induction xs with
  | nil => exact absurd rfl some
  | cons x xs ih =>
      cases xs with
      | nil => simpa [writeItems] using one x (by simp) b blank
      | cons y xs =>
          have later := ih (by simp) (fun z h => one z (by simp [h])) fun z h => more z (by simp [h])
          simpa [writeItems] using more x (by simp) _ _ later

theorem writeList_spells {xs : List α} {value : α → Value} {item : α → List Char}
    (h : ∀ x ∈ xs, Spells (value x) (item x)) (layout : Layout) (depth : Nat) :
    Spells (.array (xs.map value)) (writeList layout depth (xs.map item)) := by
  cases xs with
  | nil => exact .noItems isBlank_nil
  | cons x xs =>
      have before := lineBreak_isBlank layout (depth + 1)
      have items : SpellsItems ((x :: xs).map value)
          (writeItems layout (depth + 1) ((x :: xs).map item) ++ layout.lineBreak depth) := by
        refine writeItems_spelled (by simp) (lineBreak_isBlank layout depth) ?_ ?_
        · intro y mem b blank
          exact .one (.mk before (h y mem) blank)
        · intro y mem ys t spelled
          exact .more (by simpa using SpellsItem.mk before (h y mem) isBlank_nil) spelled
      simpa [writeList, writeEnclosed] using Spells.array items

theorem writeObject_spells (xs : List α) (key : α → String) (value : α → Value) (item : α → List Char)
    (h : ∀ x ∈ xs, Spells (value x) (item x)) (layout : Layout) (depth : Nat) :
    Spells (.object (xs.map fun x => (some (key x), value x)))
      (writeObject layout depth (xs.map fun x => (key x, item x))) := by
  rw [writeObject, List.map_map]
  cases xs with
  | nil => exact .noMembers isBlank_nil
  | cons x xs =>
      have before := lineBreak_isBlank layout (depth + 1)
      obtain ⟨gap, isGap, colon⟩ := colon_eq layout
      have member {y : α} (mem : y ∈ x :: xs) {b : List Char} (blank : IsBlank b) :
          SpellsMember (some (key y), value y) (layout.lineBreak (depth + 1) ++
            (writeString (key y) ++ layout.colon ++ item y ++ b)) := by
        simpa [colon] using SpellsMember.mk before (writeString_isString (key y)) isBlank_nil
          (.mk isGap (h y mem) blank)
      have members : SpellsMembers ((x :: xs).map fun x => (some (key x), value x))
          (writeItems layout (depth + 1) ((x :: xs).map fun x =>
            writeString (key x) ++ layout.colon ++ item x) ++ layout.lineBreak depth) := by
        refine writeItems_spelled (by simp) (lineBreak_isBlank layout depth) ?_ ?_
        · intro y mem b blank
          exact .one (member mem blank)
        · intro y mem ys t spelled
          exact .more (by simpa using member mem isBlank_nil) spelled
      simpa [writeEnclosed, Function.comp_def] using Spells.object members

theorem writeMember_spells (key : String) {v : Value} {s : List Char} (h : Spells v s) (layout : Layout)
    (depth : Nat) : Spells (.object [(some key, v)]) (writeObject layout depth [(key, s)]) :=
  writeObject_spells [key] id (fun _ => v) (fun _ => s) (fun _ _ => h) layout depth

theorem writeItems_compact (depth : Nat) (items : List (List Char)) :
    writeItems .compact depth items = [','].intercalate items := by
  induction items with
  | nil => rfl
  | cons item items ih =>
      cases items with
      | nil => simp [writeItems, Layout.lineBreak]
      | cons next items => simp [writeItems, Layout.lineBreak, ih]

theorem writeEnclosed_compact (depth : Nat) (opening closing : Char) (items : List (List Char)) :
    writeEnclosed .compact depth opening closing items =
      opening :: ([','].intercalate items ++ [closing]) := by
  cases items with
  | nil => rfl
  | cons item items => simp [writeEnclosed, writeItems_compact, Layout.lineBreak]

end SheetSuite.Json
