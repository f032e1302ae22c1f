import Mathlib.Data.List.DropRight
import Mathlib.Tactic.Common
import ScriptLint.Text.Blank

/-!
# Trimmed texts

Trimming takes the blanks at the ends of a text off, and nothing else. What is left is the only part
of the text that has just blanks around it and no blank at an end.
-/

namespace ScriptLint.Text

/-- A text without blanks at its ends. -/
structure IsTight (t : Text) : Prop where
  head : ∀ c, t.head? = some c → c.isBlank = false
  last : ∀ c, t.getLast? = some c → c.isBlank = false

/-- A part of a text, without blanks at its ends, that has just blanks around it. -/
structure Trims (t u : Text) : Prop where
  around : ∃ front back, t = front ++ u ++ back ∧ (∀ c ∈ front, c.isBlank = true) ∧
    ∀ c ∈ back, c.isBlank = true
  tight : u.IsTight

lemma trimStart_append {front : Text} (h : ∀ c ∈ front, c.isBlank = true) (t : Text) :
    trimStart (front ++ t) = trimStart t := List.dropWhile_append_of_pos h

lemma trimEnd_append_of_blank {back : Text} (h : ∀ c ∈ back, c.isBlank = true) (t : Text) :
    trimEnd (t ++ back) = trimEnd t := by
  rw [trimEnd, List.reverse_append, List.dropWhile_append_of_pos (by simpa using h), trimEnd]

lemma trimStart_eq_self_iff (t : Text) :
    trimStart t = t ↔ ∀ c, t.head? = some c → c.isBlank = false := by
  cases t with
  | nil => simp [trimStart]
  | cons c t => simp [trimStart]

lemma trimEnd_eq_self_iff (t : Text) :
    trimEnd t = t ↔ ∀ c, t.getLast? = some c → c.isBlank = false := by
  rw [trimEnd, List.reverse_eq_iff, ← List.head?_reverse]
  exact trimStart_eq_self_iff t.reverse

lemma trim_of_isTight {t : Text} (h : t.IsTight) : t.trim = t := by
  rw [trim, (trimStart_eq_self_iff t).mpr h.head, (trimEnd_eq_self_iff t).mpr h.last]

lemma isTight_trim (t : Text) : t.trim.IsTight where
  head := (trimStart_eq_self_iff t.trim).mp (trimStart_trimEnd (trimStart_trimStart t))
  last := (trimEnd_eq_self_iff t.trim).mp (trimEnd_trimEnd (trimStart t))

/-- Blanks around a text make no difference to what it is trimmed to. -/
lemma trim_append_append {front back : Text} (hf : ∀ c ∈ front, c.isBlank = true)
    (hb : ∀ c ∈ back, c.isBlank = true) (t : Text) : trim (front ++ t ++ back) = trim t := by
  rw [trim, List.append_assoc, trimStart_append hf, trim]
  by_cases ht : ∀ c ∈ t, c.isBlank = true
  · have hall : ∀ c ∈ t ++ back, c.isBlank = true := by
      simpa [or_imp, forall_and] using ⟨ht, hb⟩
    rw [trimStart, trimStart, List.dropWhile_eq_nil_iff.mpr hall, List.dropWhile_eq_nil_iff.mpr ht]
  · have hd : trimStart t ≠ [] := mt List.dropWhile_eq_nil_iff.mp ht
    rw [trimStart, List.dropWhile_append, if_neg (by simpa [trimStart] using hd)]
    exact trimEnd_append_of_blank hb _

lemma trims_trim (t : Text) : t.Trims t.trim where
  around := by
    refine ⟨t.takeWhile CodePoint.isBlank,
      ((trimStart t).reverse.takeWhile CodePoint.isBlank).reverse, ?_,
      fun c hc => List.mem_takeWhile_imp hc,
      fun c hc => List.mem_takeWhile_imp (List.mem_reverse.mp hc)⟩
    rw [List.append_assoc, trim, trimEnd, ← List.reverse_append, List.takeWhile_append_dropWhile,
      List.reverse_reverse, trimStart, List.takeWhile_append_dropWhile]
  tight := isTight_trim t

/-- A text is trimmed to the part that has just blanks around it and none at its ends. -/
lemma trim_eq_iff {t u : Text} : t.trim = u ↔ t.Trims u := by
  constructor
  · rintro rfl
    exact trims_trim t
  · rintro ⟨⟨front, back, rfl, hf, hb⟩, hu⟩
    rw [trim_append_append hf hb, trim_of_isTight hu]

end ScriptLint.Text
