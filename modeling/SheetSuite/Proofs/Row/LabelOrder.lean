import SheetSuite.Proofs.Row.Grammar
import Mathlib.Data.List.Find

/-!
# The order of the labels

The labels are tried one after another, and the first one that fits is taken. A label fits only with the colon after
it, and labels have no colons, so at each place at most one label fits (`eq_of_starts`). This is why the order in
which they are tried does not matter, although `pyret` is the start of `pyretast`: every search finds the same
marker (`markerLength?_perm`), so a row is cut at the same places and read as the same test case
(`parseWith_reordered`).
-/

namespace SheetSuite.Row

variable {order labels : List (List Char)} {a b s : List Char}

theorem eq_of_starts (colonless : ∀ label ∈ labels, ':' ∉ label) (ha : a ∈ labels) (hb : b ∈ labels)
    (first : a ++ [':'] <+: s) (second : b ++ [':'] <+: s) : a = b := by
  obtain ⟨x, rfl⟩ := first
  obtain ⟨y, equal⟩ := second
  have equal : a ++ ':' :: x = b ++ ':' :: y := by simpa using equal.symm
  exact eq_of_append_colon (colonless a ha) (colonless b hb) equal

theorem labelLength?_perm (perm : order.Perm labels) (colonless : ∀ label ∈ labels, ':' ∉ label)
    (s : List Char) : labelLength? order s = labelLength? labels s := by
  have found : order.find? (startsWithLabel s) = labels.find? (startsWithLabel s) := by
    apply List.find?_eq_find?_of_perm perm
    intro a ⟨ha, first⟩ b ⟨hb, second⟩
    exact eq_of_starts colonless (perm.mem_iff.1 ha) (perm.mem_iff.1 hb) (startsWithLabel_iff.1 first)
      (startsWithLabel_iff.1 second)
  rw [labelLength?, labelLength?, found]

theorem markerLength?_perm (perm : order.Perm labels) (colonless : ∀ label ∈ labels, ':' ∉ label) :
    markerLength? order = markerLength? labels := by
  funext s
  unfold markerLength?
  split
  · -- The label is tried after the comma first, and then without it.
    rw [labelLength?_perm perm colonless, labelLength?_perm perm colonless]
  · rw [labelLength?_perm perm colonless]

theorem pieces_perm (perm : order.Perm labels) (colonless : ∀ label ∈ labels, ':' ∉ label) (s : List Char) :
    pieces order s = pieces labels s := by
  rw [pieces, pieces, markerLength?_perm perm colonless]

-- With a colon in a label, two labels can fit at one place, and the order does matter.
example : (pieces ["x".toList, "x:y".toList] "x:y:z".toList).chunks = ["y:z".toList] ∧
    (pieces ["x:y".toList, "x".toList] "x:y:z".toList).chunks = ["z".toList] := by
  decide

/-- The order in which the labels are tried does not matter. At each place of each text at most one of them stands
with its colon, so every row is cut into the same chunks and markers, and read as the same test case. -/
theorem parseWith_reordered {order : List (List Char)} (reordered : order.Perm Row.labels) (raw : String) :
    (∀ s : List Char, ∀ a ∈ order, ∀ b ∈ order, a ++ [':'] <+: s → b ++ [':'] <+: s → a = b) ∧
      pieces order raw.toList = pieces Row.labels raw.toList ∧ parseWith order raw = parse raw := by
  have colonless : ∀ label ∈ Row.labels, ':' ∉ label := fun label known => (separable_labels.plain label known).2.2
  have same := pieces_perm reordered colonless raw.toList
  refine ⟨?_, same, ?_⟩
  · intro s a ha b hb
    exact eq_of_starts colonless (reordered.mem_iff.1 ha) (reordered.mem_iff.1 hb)
  · rw [parse, parseWith, parseWith, same]

def longerFirst : List (List Char) :=
  ["expr", "local", "server", "firstdifference", "reason", "desugar", "bytecode", "pyretast",
    "pyret"].map String.toList

theorem parseWith_reordered_longerFirst :
    parseWith longerFirst "expr: a, pyret: src, pyretast:tree, pyretpyret:x" =
      { expr := "a", localAnswer := "src", serverAnswer := "tree, pyret", difference := "x" } :=
  (parseWith_reordered (by decide +kernel) _).2.2.trans (by decide +kernel)

end SheetSuite.Row
