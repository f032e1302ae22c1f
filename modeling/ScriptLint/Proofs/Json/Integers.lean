import Mathlib.Tactic.IntervalCases
import ScriptLint.Json.Reader

/-!
# Integers in documents

The digits of an integer are read as that integer before any text that does not go on with a
numeral, if there are not too many of them.
-/

namespace ScriptLint

/-! ### Decimal digits -/

namespace Text

lemma ofNat_ne_nil (n : Nat) : ofNat n ≠ [] := by
  simp [ofNat, Nat.toDigits_ne_nil]

lemma digitsValue_ofNat (n : Nat) : digitsValue (ofNat n) = n := by
  rw [digitsValue, ofNat, List.foldl_map]
  exact Nat.ofDigitChars_eq_foldl.symm.trans Nat.ofDigitChars_ten_toDigits

/-- The digits of a positive number do not begin with a zero. -/
lemma exists_ofNat_eq_cons {n : Nat} (h : n ≠ 0) :
    ∃ c t, ofNat n = c :: t ∧ c.isDigit = true ∧ c ≠ '0' := by
  induction n using Nat.strong_induction_on with
  | _ n ih =>
    by_cases hn : n < 10
    · refine ⟨_, [], congrArg (List.map _) (Nat.toDigits_of_lt_base hn), ?_⟩
      interval_cases n <;> first | contradiction | decide
    · obtain ⟨c, t, ht, hc⟩ := ih (n / 10) (by omega) (by omega)
      refine ⟨c, t ++ [CodePoint.ofChar (n % 10).digitChar], ?_, hc⟩
      rw [ofNat, Nat.toDigits_of_base_le (by decide) (by omega), List.map_append]
      exact congrArg (· ++ _) ht

/-- An integer begins with a digit or a minus sign. -/
lemma exists_ofInt_eq_cons (n : Int) :
    ∃ c t, ofInt n = c :: t ∧ ∀ d : CodePoint, d.isDigit = false ∧ d ≠ '-' → c ≠ d := by
  cases n with
  | ofNat n =>
    obtain ⟨c, t, ht⟩ := List.exists_cons_of_ne_nil (ofNat_ne_nil n)
    refine ⟨c, t, ht, ?_⟩
    rintro d ⟨hd, -⟩ rfl
    rw [isDigit_of_mem_ofNat (n := n) (ht ▸ List.mem_cons_self)] at hd
    cases hd
  | negSucc n => exact ⟨_, _, rfl, fun d hd => hd.2.symm⟩

end Text

/-! ### Integers -/

namespace Numeral

/-- A text that does not go on with a numeral before it. -/
def stops : Text → Bool
  | []     => true
  | c :: _ => !c.isDigit && c != '.' && c != 'e' && c != 'E'

lemma stops_cons {c : CodePoint} {t : Text} (h : stops (c :: t) = true) :
    c.isDigit = false ∧ c ≠ '.' ∧ c ≠ 'e' ∧ c ≠ 'E' := by
  simpa [stops, and_assoc] using h

lemma digits_append {ds rest : Text} (hd : ∀ c ∈ ds, c.isDigit = true) (h : stops rest = true) :
    digits (ds ++ rest) = (ds, rest) := by
  have hr : rest.takeWhile CodePoint.isDigit = [] ∧ rest.dropWhile CodePoint.isDigit = rest := by
    cases rest with
    | nil => exact ⟨rfl, rfl⟩
    | cons c t => simp [(stops_cons h).1]
  rw [digits, List.takeWhile_append_of_pos hd, List.dropWhile_append_of_pos hd, hr.1, hr.2,
    List.append_nil]

lemma fraction?_of_stops {rest : Text} (h : stops rest = true) : fraction? rest = (none, rest) := by
  cases rest with
  | nil => rfl
  | cons c t =>
    rw [fraction?]
    split
    · rfl
    · rw [if_neg (stops_cons h).2.1]

lemma exponent?_of_stops {rest : Text} (h : stops rest = true) : exponent? rest = (none, rest) := by
  cases rest with
  | nil => rfl
  | cons c t =>
    obtain ⟨-, -, he, hE⟩ := stops_cons h
    rw [exponent?]
    dsimp only
    split
    · rfl
    · rw [if_neg (not_or.mpr ⟨he, hE⟩)]

lemma whole?_ofNat (n : Nat) {rest : Text} (h : stops rest = true) :
    whole? (Text.ofNat n ++ rest) = some (Text.ofNat n, rest) := by
  by_cases hn : n = 0
  · subst hn
    show whole? ('0' :: rest) = _
    rw [whole?, if_pos rfl]
    rfl
  · obtain ⟨c, t, ht, hc, hz⟩ := Text.exists_ofNat_eq_cons hn
    have hd := digits_append (fun c => Text.isDigit_of_mem_ofNat (n := n)) h
    rw [ht, List.cons_append] at hd ⊢
    rw [whole?, if_neg hz, if_pos hc, hd]

lemma unsigned?_ofNat (negative : Bool) (n : Nat) {rest : Text} (h : stops rest = true) :
    unsigned? negative (Text.ofNat n ++ rest)
      = some (⟨negative, Text.ofNat n, none, none⟩, rest) := by
  rw [unsigned?, whole?_ofNat n h, Option.map_some]
  dsimp only
  rw [fraction?_of_stops h]
  dsimp only
  rw [exponent?_of_stops h]

/-- The numeral that an integer is written as. -/
def ofInt (n : Int) : Numeral := ⟨decide (n < 0), Text.ofNat n.natAbs, none, none⟩

lemma scan?_ofInt (n : Int) {rest : Text} (h : stops rest = true) :
    scan? (Text.ofInt n ++ rest) = some (ofInt n, rest) := by
  cases n with
  | ofNat n =>
    have hu := unsigned?_ofNat false n h
    obtain ⟨c, t, ht⟩ := List.exists_cons_of_ne_nil (Text.ofNat_ne_nil n)
    have hc : c ≠ '-' := by
      rintro rfl
      exact absurd (Text.isDigit_of_mem_ofNat (ht ▸ List.mem_cons_self)) (by decide)
    have hs : scan? (Text.ofNat n ++ rest) = unsigned? false (Text.ofNat n ++ rest) := by
      rw [ht, List.cons_append, scan?, if_neg hc]
    exact hs.trans hu
  | negSucc n =>
    have hs : scan? ('-' :: (Text.ofNat (n + 1) ++ rest))
        = unsigned? true (Text.ofNat (n + 1) ++ rest) := by
      rw [scan?, if_pos rfl]
    have hd : decide (Int.negSucc n < 0) = true := decide_eq_true (Int.negSucc_lt_zero n)
    rw [ofInt, hd]
    exact hs.trans (unsigned?_ofNat true (n + 1) h)

lemma toInt_ofInt (n : Int) : (ofInt n).toInt = n := by
  rw [toInt, ofInt, Text.digitsValue_ofNat, Binary64.signed]
  by_cases h : n < 0
  · rw [if_pos (decide_eq_true h)]
    omega
  · rw [decide_eq_false h, if_neg Bool.false_ne_true]
    omega

end Numeral

namespace Json.Reader

lemma readNumber_ofInt {n : Int} (hn : IsShort n) {rest : Text} (h : Numeral.stops rest = true) :
    readNumber (Text.ofInt n ++ rest) = .ok (.int n, rest) := by
  rw [readNumber, Numeral.scan?_ofInt n h]
  have hi : (Numeral.ofInt n).isInteger = true := rfl
  simp only [hi, if_true, Numeral.toInt_ofInt]
  exact if_neg (Nat.not_lt.mpr hn)

lemma readWord_eq_readNumber {t : Text} (h : ∀ w ∈ words, Text.dropLead? w.1 t = none) :
    readWord t = readNumber t := by
  rw [readWord, List.findSome?_eq_none_iff.mpr]
  intro w hw
  exact congrArg (Option.map _) (h w hw)

/-- No word begins as an integer does. -/
lemma dropLead?_ofInt (n : Int) (rest : Text) :
    ∀ w ∈ words, Text.dropLead? w.1 (Text.ofInt n ++ rest) = none := by
  have hd {c d : CodePoint} (h : c.isDigit = true) (hd : d.isDigit = false) (t u : Text) :
      Text.dropLead? (d :: t) (c :: u) = none := by
    rw [Text.dropLead?, if_neg]
    rintro rfl
    rw [h] at hd
    cases hd
  simp only [words, List.forall_mem_cons, List.not_mem_nil, false_imp_iff, implies_true, and_true]
  cases n with
  | ofNat n =>
    obtain ⟨c, t, ht⟩ := List.exists_cons_of_ne_nil (Text.ofNat_ne_nil n)
    have hc : c.isDigit = true := Text.isDigit_of_mem_ofNat (ht ▸ List.mem_cons_self)
    rw [Text.ofInt, ht]
    exact ⟨hd hc rfl _ _, hd hc rfl _ _, hd hc rfl _ _, hd hc rfl _ _, hd hc rfl _ _,
      hd hc rfl _ _⟩
  | negSucc n =>
    obtain ⟨c, t, ht⟩ := List.exists_cons_of_ne_nil (Text.ofNat_ne_nil (n + 1))
    have hc : c.isDigit = true := Text.isDigit_of_mem_ofNat (ht ▸ List.mem_cons_self)
    rw [Text.ofInt, ht]
    exact ⟨rfl, rfl, rfl, rfl, rfl, hd hc rfl _ _⟩

lemma readWord_ofInt {n : Int} (hn : IsShort n) {rest : Text} (h : Numeral.stops rest = true) :
    readWord (Text.ofInt n ++ rest) = .ok (.int n, rest) := by
  rw [readWord_eq_readNumber (dropLead?_ofInt n rest), readNumber_ofInt hn h]

end Json.Reader

end ScriptLint
