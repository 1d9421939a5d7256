import SheetSuite.Proofs.Template.Unclosed
import SheetSuite.Proofs.Toml.Reading

/-!
# Expanding a document

References are replaced in a document before it is read, wherever they stand. If the texts stay plain, and the
comments leave no reference open and stay comments, this comes to the same as replacing them in the texts
(`Document.expanded`).
-/

namespace SheetSuite.Toml

open Template (IsClosed isClosed_literal)

variable {lookup : String → Option String} {b c e s t : List Char} {l : Literal} {st : Statement}

/-! ## Texts in statements -/

def Literal.said : Literal → List Char
  | text s => s.toList
  | _ => []

def Statement.said : Statement → List Char
  | header _ => []
  | member _ l => l.said

def Literal.expand (lookup : String → Option String) : Literal → Literal
  | text s => .text (Template.expand lookup s)
  | l => l

def Statement.expand (lookup : String → Option String) : Statement → Statement
  | header name => .header name
  | member key l => .member key (l.expand lookup)

theorem IsLiteral.plain (h : IsLiteral l s) : IsPlain l.said := by
  cases h with
  | text plain => exact plain
  | number => simp [Literal.said, IsPlain]
  | yes => simp [Literal.said, IsPlain]
  | no => simp [Literal.said, IsPlain]

theorem Document.plain {sts : List Statement} (h : Document sts t) : ∀ st ∈ sts, IsPlain st.said := by
  induction h with
  | nil => simp
  | rest _ _ _ ih => exact ih
  | statement _ statement _ _ ih =>
      rw [List.forall_mem_cons]
      refine ⟨?_, ih⟩
      cases statement with
      | header => simp [Statement.said, IsPlain]
      | member _ _ _ literal => exact literal.plain

/-! ## Characters of a line -/

def IsInline (s : List Char) : Prop :=
  ∀ c ∈ s, isControl c = false

instance (s : List Char) : Decidable (IsInline s) :=
  decidable_of_iff (s.all fun c => !isControl c) (by simp [IsInline])

theorem isInline_nil : IsInline [] :=
  fun _ inside => absurd inside List.not_mem_nil

theorem IsInline.append (first : IsInline s) (second : IsInline t) : IsInline (s ++ t) := by
  intro c inside
  exact (List.mem_append.1 inside).elim (first c) (second c)

theorem AreBlanks.inline (blanks : AreBlanks b) : IsInline b := by
  intro c inside
  have blank := blanks c inside
  simp only [isBlank, Bool.or_eq_true, beq_iff_eq] at blank
  rcases blank with rfl | rfl
  · decide
  · decide

theorem AreBlanks.free (blanks : AreBlanks b) : '$' ∉ b :=
  fun inside => absurd (blanks _ inside) (by decide)

theorem isControl_of_isKeyChar {c : Char} (key : isKeyChar c = true) : isControl c = false := by
  have apart : ∀ n < 0x80, isControl (Char.ofNat n) = true → isKeyChar (Char.ofNat n) = false := by decide
  by_contra control
  rw [Bool.not_eq_false] at control
  have low : c.toNat < 0x80 := by
    simp only [isControl, Bool.or_eq_true, Bool.and_eq_true, decide_eq_true_eq, beq_iff_eq] at control
    omega
  have other := apart c.toNat low
  rw [Char.ofNat_toNat] at other
  exact Bool.noConfusion (key.symm.trans (other control))

theorem IsBare.inline (bare : IsBare s) : IsInline s :=
  fun c inside => isControl_of_isKeyChar (bare.2 c inside)

theorem IsBare.free (bare : IsBare s) : '$' ∉ s :=
  fun inside => absurd (bare.2 _ inside) (by decide)

theorem isBare_toString (n : Nat) : IsBare (toString n).toList := by
  rw [Nat.toString_eq_ofList_toDigits, String.toList_ofList]
  refine ⟨Nat.toDigits_ne_nil, fun c inside => ?_⟩
  have digit : c.isDigit = true := isDigit_of_mem inside
  simp [isKeyChar, Char.isAlphanum, digit]

theorem IsLiteral.inline (h : IsLiteral l s) : IsInline s := by
  cases h with
  | @text text plain =>
      have quote : IsInline ['"'] := by decide
      exact quote.append (IsInline.append (fun c inside => (plain c inside).2.2) quote)
  | number n => exact (isBare_toString n).inline
  | yes => decide
  | no => decide

theorem IsStatement.inline (h : IsStatement st s) : IsInline s := by
  cases h with
  | header bare blanks blanks' =>
      have bracket : IsInline ['['] := by decide
      have bracket' : IsInline [']'] := by decide
      exact bracket.append (blanks.inline.append (bare.inline.append (blanks'.inline.append bracket')))
  | member bare blanks blanks' literal =>
      have equals : IsInline ['='] := by decide
      exact bare.inline.append (blanks.inline.append (equals.append (blanks'.inline.append literal.inline)))

theorem IsComment.inline (h : IsComment c) : IsInline c := by
  cases h with
  | none => exact isInline_nil
  | some inline =>
      have sign : IsInline ['#'] := by decide
      exact sign.append inline

/-! ## Expanding a line -/

theorem IsBare.expanded {P : List Char → Prop} (bare : IsBare s) (h : P s) :
    IsClosed lookup s ∧ P (Template.expanded lookup s) := by
  obtain ⟨closed, same⟩ := isClosed_literal lookup bare.free
  rw [same]
  exact ⟨closed, h⟩

theorem IsLiteral.expanded (h : IsLiteral l s) (closed : IsClosed lookup l.said)
    (plain : IsPlain (Template.expanded lookup l.said)) :
    IsClosed lookup s ∧ IsLiteral (l.expand lookup) (Template.expanded lookup s) := by
  cases h with
  | number n => exact (isBare_toString n).expanded (.number n)
  | yes => exact IsBare.expanded (by decide) .yes
  | no => exact IsBare.expanded (by decide) .no
  | @text text _ =>
      have closed : IsClosed lookup text.toList := closed
      obtain ⟨quoteClosed, quote⟩ := isClosed_literal lookup (show '$' ∉ ['"'] by decide)
      have spelled : Template.expanded lookup (['"'] ++ (text.toList ++ ['"'])) =
          '"' :: ((Template.expand lookup text).toList ++ ['"']) := by
        rw [quoteClosed, closed, quote, Template.toList_expand]
        rfl
      refine ⟨quoteClosed.append (closed.append quoteClosed), ?_⟩
      rw [← List.singleton_append, spelled]
      exact .text (by rwa [Template.toList_expand])

theorem IsStatement.expanded (h : IsStatement st s) (closed : IsClosed lookup st.said)
    (plain : IsPlain (Template.expanded lookup st.said)) :
    IsClosed lookup s ∧ IsStatement (st.expand lookup) (Template.expanded lookup s) := by
  cases h with
  | @header name b b' bare blanks blanks' =>
      have free : '$' ∉ '[' :: (b ++ (name.toList ++ (b' ++ [']']))) := by
        simp [blanks.free, bare.free, blanks'.free]
      obtain ⟨headerClosed, same⟩ := isClosed_literal lookup free
      rw [same]
      exact ⟨headerClosed, .header bare blanks blanks'⟩
  | @member key l b b' v bare blanks blanks' literal =>
      have whole (v : List Char) :
          key.toList ++ (b ++ '=' :: (b' ++ v)) = (key.toList ++ (b ++ '=' :: b')) ++ v := by simp
      have free : '$' ∉ key.toList ++ (b ++ '=' :: b') := by
        simp [bare.free, blanks.free, blanks'.free]
      obtain ⟨frontClosed, front⟩ := isClosed_literal lookup free
      obtain ⟨valueClosed, value⟩ := literal.expanded closed plain
      rw [whole]
      refine ⟨frontClosed.append valueClosed, ?_⟩
      rw [frontClosed, front, ← whole]
      exact .member bare blanks blanks' value

/-! ## Comments of a document -/

def linesOf (t : List Char) : List (List Char) :=
  t.splitOnP isControl

theorem inline_of_mem_linesOf {line : List Char} (inside : line ∈ linesOf t) : IsInline line := by
  unfold linesOf at inside
  induction t generalizing line with
  | nil =>
      obtain rfl : line = [] := by simpa using inside
      exact isInline_nil
  | cons c t ih =>
      rw [List.splitOnP_cons_eq_if_modifyHead] at inside
      split at inside
      · rcases List.mem_cons.1 inside with rfl | inside
        · exact isInline_nil
        · exact ih inside
      · rename_i other
        cases lines : t.splitOnP isControl with
        | nil => exact absurd lines (List.splitOnP_ne_nil _ _)
        | cons first lines' =>
            rw [lines] at inside ih
            rcases List.mem_cons.1 inside with rfl | inside
            · exact List.forall_mem_cons.2 ⟨by simpa using other, ih List.mem_cons_self⟩
            · exact ih (List.mem_cons_of_mem _ inside)

theorem linesOf_append (inline : IsInline s) {c : Char} (control : isControl c = true) (t : List Char) :
    linesOf (s ++ c :: t) = s :: linesOf t :=
  List.splitOnP_append_cons_of_forall_mem inline c control t

/-- What may stand in a line before a comment. -/
inductive IsFront : List Char → Prop
  | blanks {b : List Char} : AreBlanks b → IsFront b
  | statement {st : Statement} {b s b' : List Char} :
      AreBlanks b → IsStatement st s → AreBlanks b' → IsFront (b ++ s ++ b')

def HasComment (t c : List Char) : Prop :=
  ∃ front, IsFront front ∧ front ++ '#' :: c ∈ linesOf t

theorem HasComment.inline (h : HasComment t c) : IsInline c := by
  obtain ⟨front, -, line⟩ := h
  exact fun x inside => inline_of_mem_linesOf line x (by simp [inside])

theorem IsEnd.mem_linesOf (h : IsEnd e t) (inline : IsInline s) :
    s ∈ linesOf (s ++ (e ++ t)) ∧ ∀ line ∈ linesOf t, line ≠ [] → line ∈ linesOf (s ++ (e ++ t)) := by
  cases h with
  | feed =>
      rw [List.singleton_append, linesOf_append inline rfl]
      exact ⟨List.mem_cons_self, fun line inside _ => List.mem_cons_of_mem s inside⟩
  | returnFeed =>
      -- Between the two controls is an empty line.
      have later : linesOf ('\n' :: t) = [] :: linesOf t := linesOf_append isInline_nil rfl t
      rw [List.cons_append, List.singleton_append, linesOf_append inline rfl, later]
      exact ⟨List.mem_cons_self, fun line inside _ => List.mem_cons_of_mem s (List.mem_cons_of_mem [] inside)⟩
  | ofText =>
      rw [List.append_nil, List.append_nil, linesOf, List.splitOnP_eq_singleton inline]
      refine ⟨List.mem_cons_self, fun line inside full => absurd ?_ full⟩
      simpa [linesOf] using inside

/-! ## Expanding all lines -/

/-- The comment leaves no reference open, and with the values of its own references it stays in its line. -/
structure IsSettled (lookup : String → Option String) (c : List Char) : Prop where
  closed : ¬Template.LeftOpen c
  inline : IsInline (Template.expanded lookup c)

theorem IsSettled.comment (settled : IsSettled lookup c) :
    ¬Template.LeftOpen ('#' :: c) ∧ IsComment (Template.expanded lookup ('#' :: c)) := by
  obtain ⟨signClosed, sign⟩ := isClosed_literal lookup (show '$' ∉ ['#'] by decide)
  have plain : ¬Template.LeftOpen ('#' :: c) := by
    rw [Template.leftOpen_cons]
    rintro (⟨sign, -⟩ | later)
    · cases sign
    · exact settled.closed later
  refine ⟨plain, ?_⟩
  rw [← List.singleton_append, signClosed, sign]
  exact .some settled.inline

theorem IsEnd.expanded (h : IsEnd e t) (lookup : String → Option String) :
    IsEnd e (Template.expanded lookup t) := by
  cases h with
  | feed => exact .feed _
  | returnFeed => exact .returnFeed _
  | ofText => exact .ofText

theorem IsEnd.free (h : IsEnd e t) : '$' ∉ e := by
  cases h <;> decide

theorem IsEnd.apart (h : IsEnd e t) : e.head? ≠ some '{' ∧ (e ++ t).head? ≠ some '{' := by
  cases h <;> simp

theorem IsRest.expanded {r : List Char} (h : IsRest r t) (front : ∀ b, AreBlanks b → IsFront (s ++ b))
    (inline : IsInline s) (comments : ∀ c, HasComment (s ++ (r ++ t)) c → IsSettled lookup c) :
    Template.expanded lookup (r ++ t) = Template.expanded lookup r ++ Template.expanded lookup t ∧
      IsRest (Template.expanded lookup r) (Template.expanded lookup t) ∧
        ∀ c, HasComment t c → IsSettled lookup c := by
  cases h with
  | @mk b c e _ blanks comment ending =>
      have whole : s ++ ((b ++ (c ++ e)) ++ t) = (s ++ b ++ c) ++ (e ++ t) := by simp
      rw [whole] at comments
      obtain ⟨line, later⟩ :=
        ending.mem_linesOf ((inline.append blanks.inline).append comment.inline)
      have comment' : ¬Template.LeftOpen c ∧ IsComment (Template.expanded lookup c) := by
        cases comment with
        | none => exact ⟨by decide, .none⟩
        | some => exact (comments _ ⟨s ++ b, front b blanks, line⟩).comment
      obtain ⟨blanksClosed, same⟩ := isClosed_literal lookup blanks.free
      obtain ⟨endClosed, same'⟩ := isClosed_literal lookup ending.free
      obtain ⟨apart, apart'⟩ := ending.apart
      have alone : Template.expanded lookup (b ++ (c ++ e)) = b ++ (Template.expanded lookup c ++ e) := by
        rw [blanksClosed, same, Template.expanded_append comment'.1 apart, same']
      refine ⟨?_, ?_, ?_⟩
      · -- A line end is no brace, so a sign at the end of the comment begins nothing.
        rw [alone, List.append_assoc, List.append_assoc, blanksClosed, same,
          Template.expanded_append comment'.1 apart', endClosed, same']
        simp only [List.append_assoc]
      · rw [alone]
        exact .mk blanks comment'.2 (ending.expanded lookup)
      · rintro c ⟨front, isFront, inside⟩
        exact comments c ⟨front, isFront, later _ inside (by simp)⟩

theorem Document.expanded {sts : List Statement} (h : Document sts t)
    (comments : ∀ c, HasComment t c → IsSettled lookup c) (closed : ∀ st ∈ sts, IsClosed lookup st.said)
    (plain : ∀ st ∈ sts, IsPlain (Template.expanded lookup st.said)) :
    Document (sts.map (Statement.expand lookup)) (Template.expanded lookup t) := by
  induction h with
  | nil => exact .nil
  | @rest sts r t _ rest _ ih =>
      obtain ⟨restClosed, rest', comments⟩ :=
        rest.expanded (s := []) (fun _ blanks => .blanks blanks) isInline_nil comments
      have later := ih comments closed plain
      rw [restClosed]
      -- That a rest does not become empty need not be shown: then nothing is there to pass over.
      rcases eq_or_ne (Template.expanded lookup r) [] with none | full
      · rwa [none, List.nil_append]
      · exact .rest full rest' later
  | @statement st sts b s r t blanks statement rest _ ih =>
      rw [List.forall_mem_cons] at closed plain
      rw [← List.append_assoc] at comments
      obtain ⟨restClosed, rest', comments⟩ :=
        rest.expanded (fun _ blanks' => .statement blanks statement blanks')
          (blanks.inline.append statement.inline) comments
      obtain ⟨blanksClosed, same⟩ := isClosed_literal lookup blanks.free
      obtain ⟨statementClosed, statement'⟩ := statement.expanded closed.1 plain.1
      rw [blanksClosed, same, statementClosed, restClosed]
      exact .statement blanks statement' rest' (ih comments closed.2 plain.2)

end SheetSuite.Toml
