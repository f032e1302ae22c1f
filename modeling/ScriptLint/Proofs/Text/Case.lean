import Mathlib.Data.List.Forall2
import Mathlib.Tactic.Common
import ScriptLint.Text.Case

/-!
# Texts up to case

Most letters of other scripts have lower-case forms in those scripts, but the form of the Kelvin
sign is `k`, and that of the capital I with a dot begins with `i`. A word without these two letters
is the lower-case form of its ASCII spellings only: `lower_eq_iff`.
-/

namespace ScriptLint

namespace CodePoint

/-- A letter with its ASCII capital, other than `i` and `k`. -/
structure IsCasePair (pair : CodePoint × CodePoint) : Prop where
  low : 0x61 ≤ pair.1.val
  high : pair.1.val ≤ 0x7A
  capital : pair.2.val + 0x20 = pair.1.val
  ne_i : pair.1.val ≠ 0x69
  ne_k : pair.1.val ≠ 0x6B

/-! ### Ranges -/

lemma caseRanges_eq : caseRanges = ⟨0x41, 0x5A, 1, 0x61⟩ :: caseRanges.tail := rfl

lemma forall_mem_tail_caseRanges :
    ∀ r ∈ caseRanges.tail,
      0x80 ≤ r.first ∧ (0x80 ≤ r.lower ∨ r.lower = 0x6B ∧ r.first = r.last) := by
  decide +kernel

lemma CaseRange.holds_iff {r : CaseRange} {c : CodePoint} :
    r.holds c = true ↔ (r.first ≤ c.val ∧ c.val ≤ r.last) ∧ (c.val - r.first) % r.step = 0 := by
  simp [CaseRange.holds]

variable {pair : CodePoint × CodePoint}

lemma lower_letter (h : IsCasePair pair) : pair.1.lower = [pair.1] := by
  have hlow := h.low
  have hhigh := h.high
  have hnone : caseRanges.find? (fun r => r.holds pair.1) = none := by
    rw [List.find?_eq_none, caseRanges_eq]
    intro r hr
    rw [CaseRange.holds_iff]
    rcases List.mem_cons.mp hr with rfl | htail
    · dsimp only
      omega
    · have := (forall_mem_tail_caseRanges r htail).1
      omega
  have hne : pair.1 ≠ 0x130 := by
    intro he
    rw [he] at hhigh
    exact absurd hhigh (by decide)
  rw [lower, if_neg hne, hnone]

lemma lower_capital (h : IsCasePair pair) : pair.2.lower = [pair.1] := by
  have hlow := h.low
  have hhigh := h.high
  have hcapital := h.capital
  have hholds : CaseRange.holds ⟨0x41, 0x5A, 1, 0x61⟩ pair.2 = true := by
    rw [CaseRange.holds_iff]
    dsimp only
    omega
  have hne : pair.2 ≠ 0x130 := by
    intro he
    rw [he] at hcapital
    have : (0x130 : CodePoint).val = 0x130 := rfl
    omega
  rw [lower, if_neg hne, caseRanges_eq, List.find?_cons, hholds]
  have hval : 0x61 + (pair.2.val - 0x41) = pair.1.val := by omega
  simp only [hval, ofNat, pair.1.isLt, dif_pos]

lemma eq_of_val_ofNat {n m : Nat} (h : (ofNat n).val = m) (hm : m < 0x80) : n = m := by
  rw [ofNat] at h
  split at h
  · exact h
  · subst h
    exact absurd hm (by decide)

/-- A code point whose lower-case form begins with a letter is that letter or its capital. -/
lemma eq_or_eq_of_lower (h : IsCasePair pair) {c : CodePoint} {u : Text}
    (hc : c.lower = pair.1 :: u) : c = pair.1 ∨ c = pair.2 := by
  have hlow := h.low
  have hhigh := h.high
  have hcapital := h.capital
  rw [lower] at hc
  split at hc
  · have hi : (0x69 : CodePoint) = pair.1 := (List.cons.inj hc).1
    exact absurd (congrArg Fin.val hi).symm h.ne_i
  · split at hc
    · next r hr =>
      have hn := eq_of_val_ofNat (congrArg Fin.val (List.cons.inj hc).1) (by omega)
      have hholds : r.holds c = true := by simpa using List.find?_some hr
      obtain ⟨hrange, -⟩ := CaseRange.holds_iff.mp hholds
      refine .inr (Fin.ext ?_)
      rcases List.mem_cons.mp (List.mem_of_find?_eq_some hr) with rfl | htail
      · dsimp only at hn hrange
        omega
      · have hne := h.ne_k
        obtain ⟨-, hfar | ⟨hk, hsingle⟩⟩ := forall_mem_tail_caseRanges r htail <;> omega
    · exact .inl (List.cons.inj hc).1

lemma lower_eq_cons_iff (h : IsCasePair pair) {c : CodePoint} {u : Text} :
    c.lower = pair.1 :: u ↔ (c = pair.1 ∨ c = pair.2) ∧ u = [] := by
  constructor
  · intro hc
    have hor := eq_or_eq_of_lower h hc
    have hl : c.lower = [pair.1] := by
      rcases hor with rfl | rfl
      · exact lower_letter h
      · exact lower_capital h
    rw [hl] at hc
    exact ⟨hor, (List.cons.inj hc).2.symm⟩
  · rintro ⟨rfl | rfl, rfl⟩
    · exact lower_letter h
    · exact lower_capital h

lemma lower_ne_nil (c : CodePoint) : c.lower ≠ [] := by
  rw [lower]
  split
  · simp
  · split <;> simp

end CodePoint

/-- A text is a word in lower case just if each of its code points is the letter of the word or the
capital of that letter. -/
lemma Text.lower_eq_iff {pairs : List (CodePoint × CodePoint)}
    (h : ∀ pair ∈ pairs, CodePoint.IsCasePair pair) {t : Text} :
    t.lower = pairs.map Prod.fst ↔
      List.Forall₂ (fun c pair => c = pair.1 ∨ c = pair.2) t pairs := by
  induction pairs generalizing t with
  | nil =>
    rw [List.map_nil, List.forall₂_nil_right_iff, lower, List.flatMap_eq_nil_iff]
    constructor
    · intro ht
      exact List.eq_nil_iff_forall_not_mem.mpr fun c hc => c.lower_ne_nil (ht c hc)
    · rintro rfl
      simp
  | cons pair pairs ih =>
    obtain ⟨hpair, hpairs⟩ := List.forall_mem_cons.mp h
    cases t with
    | nil => simp [lower]
    | cons c t =>
      rw [List.forall₂_cons, ← ih hpairs, List.map_cons, lower, List.flatMap_cons, ← lower]
      rcases hc : c.lower with _ | ⟨d, u⟩
      · exact absurd hc c.lower_ne_nil
      · rw [List.cons_append, List.cons.injEq]
        constructor
        · rintro ⟨rfl, ht⟩
          obtain ⟨hor, rfl⟩ := (CodePoint.lower_eq_cons_iff hpair).mp hc
          exact ⟨hor, ht⟩
        · rintro ⟨hor, ht⟩
          have hl := (CodePoint.lower_eq_cons_iff hpair (u := [])).mpr ⟨hor, rfl⟩
          rw [hl] at hc
          obtain ⟨rfl, rfl⟩ := List.cons.inj hc
          exact ⟨rfl, ht⟩

end ScriptLint
