import Mathlib.Data.List.Basic
import ScriptLint.Report.Xml

/-!
# The escape of values

A value is escaped by replacements of the whole text, one after another, and a later one meets what
the earlier ones have written. Still the escape is a map on single code points: no reference holds
a code point that is replaced after it.
-/

namespace ScriptLint.Xml

/-- What replacements make of one code point: the first one of its own decides. -/
def written (rs : List (CodePoint × Text)) (c : CodePoint) : Text := (rs.lookup c).getD [c]

lemma written_cons_self (r : CodePoint × Text) (rs : List (CodePoint × Text)) :
    written (r :: rs) r.1 = r.2 := by
  rw [written, List.lookup_cons, beq_self_eq_true]
  rfl

lemma written_cons_of_ne {r : CodePoint × Text} {c : CodePoint} (h : c ≠ r.1)
    (rs : List (CodePoint × Text)) : written (r :: rs) c = written rs c := by
  rw [written, List.lookup_cons, beq_false_of_ne h]
  rfl

lemma written_of_notMem {rs : List (CodePoint × Text)} {c : CodePoint} (h : ∀ r ∈ rs, r.1 ≠ c) :
    written rs c = [c] := by
  have hn : rs.lookup c = none := by
    rw [List.lookup_eq_none_iff]
    intro r hr
    simpa using (h r hr).symm
  rw [written, hn, Option.getD_none]

/-- A text is left as it is by replacements of what it does not hold. -/
lemma flatMap_written_of_notMem {rs : List (CodePoint × Text)} {t : Text}
    (h : ∀ r ∈ rs, r.1 ∉ t) : t.flatMap (written rs) = t := by
  induction t with
  | nil => rfl
  | cons c t ih =>
    rw [List.flatMap_cons, written_of_notMem, ih]
    · rfl
    · intro r hr ht
      exact h r hr (List.mem_cons_of_mem c ht)
    · rintro r hr rfl
      exact h r hr List.mem_cons_self

/-- Replacements one after another act on single code points if none writes what a later one
replaces. -/
theorem foldl_refer {rs : List (CodePoint × Text)} (h : rs.Pairwise fun r r' => r'.1 ∉ r.2)
    (t : Text) : rs.foldl refer t = t.flatMap (written rs) := by
  induction rs generalizing t with
  | nil => exact (flatMap_written_of_notMem (by simp)).symm
  | cons r rs ih =>
    obtain ⟨hr, h⟩ := List.pairwise_cons.mp h
    rw [List.foldl_cons, ih h, refer, List.flatMap_assoc]
    apply List.flatMap_congr
    intro c _
    by_cases hc : c = r.1
    · subst hc
      rw [if_pos rfl, written_cons_self, flatMap_written_of_notMem hr]
    · rw [if_neg hc, written_cons_of_ne hc, List.flatMap_singleton]

/-- The escape of a text is the escape of its code points. -/
theorem escape_eq_flatMap (t : Text) : escape t = t.flatMap (written references) :=
  foldl_refer (by decide) t

/-- What is written for a code point is one of the references, or the code point. -/
lemma written_references (c : CodePoint) :
    (∃ r ∈ references, r.1 = c ∧ written references c = r.2) ∨
      (∀ r ∈ references, r.1 ≠ c) ∧ written references c = [c] := by
  by_cases h : ∀ r ∈ references, r.1 ≠ c
  · exact .inr ⟨h, written_of_notMem h⟩
  · left
    push Not at h
    obtain ⟨r, hr, rfl⟩ := h
    have hw : ∀ r ∈ references, written references r.1 = r.2 := by decide
    exact ⟨r, hr, rfl, hw r hr⟩

end ScriptLint.Xml
