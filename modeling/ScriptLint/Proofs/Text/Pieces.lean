import Mathlib.Algebra.GroupWithZero.Nat
import Mathlib.Algebra.Order.BigOperators.Group.List
import Mathlib.Algebra.Order.Group.Nat
import Mathlib.Data.List.Basic
import Mathlib.Tactic.Common
import ScriptLint.Text.Lines

/-!
# Pieces of texts

What a text is cut into at a code point, at every place where it stands or at the first one only. A
text that is joined from others has the lines of those, one after another.
-/

namespace ScriptLint.Text

variable {c : CodePoint} {t : Text}

/-! ### At every place -/

lemma splitAt_eq_splitOn (c : CodePoint) (t : Text) : splitAt c t = t.splitOn c := by
  induction t with
  | nil => rfl
  | cons d t ih =>
    rw [splitAt, ih, List.splitOn_cons_eq_if_modifyHead]
    simp only [beq_iff_eq]
    cases ht : t.splitOn c with
    | nil => exact absurd ht (List.splitOn_ne_nil c t)
    | cons piece pieces => rfl

lemma splitAt_of_notMem (h : c ∉ t) : splitAt c t = [t] := by
  rw [splitAt_eq_splitOn, List.splitOn_eq_singleton h]

lemma splitAt_append_cons (t u : Text) : splitAt c (t ++ c :: u) = splitAt c t ++ splitAt c u := by
  simp only [splitAt_eq_splitOn, List.splitOn_append_cons_self]

/-- There is one piece more than there are places to cut. -/
lemma length_splitAt (c : CodePoint) (t : Text) : (splitAt c t).length = t.count c + 1 := by
  rw [splitAt_eq_splitOn]
  induction t with
  | nil => rfl
  | cons d t ih =>
    rw [List.splitOn_cons_eq_if_modifyHead, List.count_cons]
    split
    · rw [List.length_cons, ih]
    · rw [List.length_modifyHead, ih]

/-! ### At the first place -/

lemma cut_of_notMem (h : c ∉ t) : cut c t = (t, none) := by
  induction t with
  | nil => rfl
  | cons d t ih =>
    rw [List.mem_cons, not_or] at h
    rw [cut, if_neg (Ne.symm h.1), ih h.2]

lemma cut_append_cons (h : c ∉ t) (u : Text) : cut c (t ++ c :: u) = (t, some u) := by
  induction t with
  | nil => exact if_pos rfl
  | cons d t ih =>
    rw [List.mem_cons, not_or] at h
    rw [List.cons_append, cut, if_neg (Ne.symm h.1), ih h.2]

/-! ### Lines -/

lemma lines_of_notMem (h : lineFeed ∉ t) : t.lines = [t] := splitAt_of_notMem h

lemma lines_join {ts : List Text} (h : ts ≠ []) :
    lines (join [lineFeed] ts) = ts.flatMap lines := by
  induction ts with
  | nil => exact absurd rfl h
  | cons t ts ih =>
    cases ts with
    | nil => simp [join]
    | cons u ts =>
      rw [join, List.append_assoc, List.singleton_append, lines, splitAt_append_cons,
        List.flatMap_cons, ← ih (by simp)]
      rfl

lemma length_flatMap_lines (ts : List Text) :
    (ts.flatMap lines).length = ts.length + (ts.map (List.count lineFeed)).sum := by
  induction ts with
  | nil => rfl
  | cons t ts ih =>
    rw [List.flatMap_cons, List.length_append, ih, lines, length_splitAt, List.map_cons,
      List.sum_cons, List.length_cons]
    omega

/-- Texts are lines if none of them holds a line feed. -/
lemma flatMap_lines_eq_self_iff {ts : List Text} :
    ts.flatMap lines = ts ↔ ∀ t ∈ ts, lineFeed ∉ t := by
  constructor
  · intro h
    have hl := length_flatMap_lines ts
    rw [h, Nat.left_eq_add] at hl
    intro t ht
    exact List.count_eq_zero.mp (List.sum_eq_zero_iff.mp hl _ (List.mem_map_of_mem ht))
  · intro h
    conv_rhs => rw [← List.flatMap_singleton' ts]
    exact List.flatMap_congr fun t ht => lines_of_notMem (h t ht)

end ScriptLint.Text
