import Mathlib.Data.Nat.Digits.Defs
import ScriptLint.Json.Reader
import ScriptLint.Proofs.Json.RoundTrip
import ScriptLint.Proofs.OrderedMap

/-!
# Integers that can be written

What was read can be written again: a reader takes no integer of more digits than are written, and
no number with a fraction or an exponent is an integer of so many.
-/

namespace ScriptLint

/-! ### Numbers of few digits -/

lemma isShort_of_natAbs_lt {n : Int} (h : n.natAbs < 10 ^ maxDigits) : IsShort n := by
  rw [IsShort, Text.ofNat, List.length_map]
  exact Nat.toDigits_length 10 _ _ (by decide) h

lemma Text.digitsValue_lt {t : Text} (h : ∀ c ∈ t, c.isDigit = true) :
    digitsValue t < 10 ^ t.length := by
  suffices hs : ∀ n, t.foldl (fun n c => 10 * n + c.digitValue) n < (n + 1) * 10 ^ t.length by
    simpa [digitsValue] using hs 0
  induction t with
  | nil => simp
  | cons c t ih =>
    intro n
    obtain ⟨hc, ht⟩ := List.forall_mem_cons.mp h
    have hc : c.digitValue ≤ 9 := by
      simp only [CodePoint.isDigit, decide_eq_true_eq] at hc
      rw [CodePoint.digitValue]
      omega
    rw [List.foldl_cons, List.length_cons, Nat.pow_succ']
    refine (ih ht (10 * n + c.digitValue)).trans_le ?_
    rw [← Nat.mul_assoc]
    exact Nat.mul_le_mul_right _ (by omega)

namespace Numeral

lemma isDigit_of_whole? {t rest whole : Text} (h : whole? t = some (whole, rest)) :
    ∀ c ∈ whole, c.isDigit = true := by
  cases t with
  | nil => cases h
  | cons c t =>
    rw [whole?] at h
    split_ifs at h with h0
    · obtain ⟨rfl, -⟩ := Prod.mk.inj (Option.some.inj h)
      rw [h0]
      exact List.forall_mem_singleton.mpr rfl
    · obtain ⟨rfl, -⟩ := Prod.mk.inj (Option.some.inj h)
      exact fun c hc => List.mem_takeWhile_imp hc

lemma isDigit_of_unsigned? {negative : Bool} {t rest : Text} {n : Numeral}
    (h : unsigned? negative t = some (n, rest)) : ∀ c ∈ n.whole, c.isDigit = true := by
  obtain ⟨⟨whole, t'⟩, hw, h⟩ := Option.map_eq_some_iff.mp h
  obtain ⟨rfl, -⟩ := Prod.mk.inj h
  exact isDigit_of_whole? hw

lemma isDigit_of_scan? {t rest : Text} {n : Numeral} (h : scan? t = some (n, rest)) :
    ∀ c ∈ n.whole, c.isDigit = true := by
  cases t with
  | nil => cases h
  | cons c t =>
    rw [scan?] at h
    split_ifs at h <;> exact isDigit_of_unsigned? h

end Numeral

namespace Binary64

lemma significand_lt (rank : Nat) : significand rank < 2 ^ 53 := by
  have hm : rank % hidden < hidden := Nat.mod_lt _ (by decide)
  have hh : hidden = 2 ^ 52 := rfl
  rw [significand]
  split <;> omega

lemma units_lt {rank : Nat} (h : rank < ranks) : units rank < 2 ^ maxDigits * 2 ^ depth := by
  have hc : 53 + coarseness rank ≤ maxDigits + depth := by
    have hq : rank / hidden < 2047 := Nat.div_lt_of_lt_mul (by rwa [Nat.mul_comm])
    rw [coarseness, maxDigits, depth]
    omega
  -- as powers these two must not be evaluated
  generalize maxDigits = digits, depth = depth at hc ⊢
  calc units rank = significand rank * 2 ^ coarseness rank := rfl
    _ < 2 ^ 53 * 2 ^ coarseness rank :=
      Nat.mul_lt_mul_of_pos_right (significand_lt rank) (Nat.two_pow_pos _)
    _ = 2 ^ (53 + coarseness rank) := (Nat.pow_add 2 _ _).symm
    _ ≤ 2 ^ (digits + depth) := Nat.pow_le_pow_right Nat.zero_lt_two hc
    _ = 2 ^ digits * 2 ^ depth := Nat.pow_add 2 _ _

lemma natAbs_signed (negative : Bool) (n : Nat) : (signed negative n).natAbs = n := by
  rw [signed]
  split
  · rw [Int.natAbs_neg, Int.natAbs_natCast]
  · rw [Int.natAbs_natCast]

/-- A number with a fraction or an exponent that is an integer is a short one. -/
lemma isShort_of_toInt? {x : Binary64} {n : Int} (h : x.toInt? = some n) : IsShort n := by
  cases x with
  | nan => cases h
  | infinite => cases h
  | finite negative rank =>
    simp only [toInt?] at h
    split_ifs at h
    obtain rfl := Option.some.inj h
    refine isShort_of_natAbs_lt ?_
    rw [natAbs_signed]
    have hu := units_lt rank.isLt
    generalize maxDigits = digits, depth = depth at hu ⊢
    calc units rank / 2 ^ depth < 2 ^ digits :=
          Nat.div_lt_of_lt_mul (by rw [Nat.mul_comm]; exact hu)
      _ ≤ 10 ^ digits := Nat.pow_le_pow_left (by decide) _

end Binary64

/-! ### Values -/

namespace Json

open Reader

lemma isWritable_array_iff (vs : List Json) :
    (array vs).isWritable = true ↔ ∀ v ∈ vs, v.isWritable = true := by
  rw [isWritable]
  induction vs with
  | nil => simp [areWritable]
  | cons v vs ih => simp [areWritable, ih]

lemma isWritable_object_iff (ms : List (Text × Json)) :
    (object ms).isWritable = true ↔ ∀ m ∈ ms, m.2.isWritable = true := by
  rw [isWritable]
  induction ms with
  | nil => simp [membersAreWritable]
  | cons m ms ih =>
    obtain ⟨name, v⟩ := m
    simp [membersAreWritable, ih]

lemma isWritable_int_iff (n : Int) : (int n).isWritable = true ↔ IsShort n := by
  rw [isWritable, decide_eq_true_eq]

lemma Exact.isWritable {v : Json} (h : v.Exact) : v.isWritable = true := by
  induction h with
  | null | bool | string => rfl
  | int hn => exact (isWritable_int_iff _).mpr hn
  | array _ ih => exact (isWritable_array_iff _).mpr ih
  | object _ _ _ ih => exact (isWritable_object_iff _).mpr ih

lemma print?_of_isWritable {v : Json} (h : v.isWritable = true) (l : Layout) :
    v.print? l = some (v.print l) := if_pos h

lemma isWritable_member {ms : List (Text × Json)} (h : (object ms).isWritable = true)
    (name : Text) : (member ms name).isWritable = true := by
  rw [member]
  cases hg : Entries.get? name ms with
  | none => rfl
  | some v => exact (isWritable_object_iff ms).mp h _ (Entries.mem_of_get? hg)

/-! ### What is read -/

namespace Reader

lemma isWritable_of_readNumber {t rest : Text} {v : Json} (h : readNumber t = .ok (v, rest)) :
    v.isWritable = true := by
  rw [readNumber] at h
  split at h
  · cases h
  next n rest' hs =>
    split_ifs at h with hi hn
    · obtain ⟨rfl, -⟩ := Prod.mk.inj (Except.ok.inj h)
      refine (isWritable_int_iff _).mpr (isShort_of_natAbs_lt ?_)
      rw [Numeral.toInt, Binary64.natAbs_signed]
      exact (Text.digitsValue_lt (Numeral.isDigit_of_scan? hs)).trans_le
        (Nat.pow_le_pow_right (by decide) (Nat.le_of_not_lt hn))
    · obtain ⟨rfl, -⟩ := Prod.mk.inj (Except.ok.inj h)
      rfl

lemma isWritable_of_readWord {t rest : Text} {v : Json} (h : readWord t = .ok (v, rest)) :
    v.isWritable = true := by
  rw [readWord] at h
  split at h
  next found hf =>
    obtain ⟨⟨word, w⟩, hw, hd⟩ := List.exists_of_findSome?_eq_some hf
    obtain ⟨_, -, rfl⟩ := Option.map_eq_some_iff.mp hd
    obtain ⟨rfl, -⟩ := Prod.mk.inj (Except.ok.inj h)
    have hall : ∀ e ∈ words, e.2.isWritable = true := by
      rw [← List.forall_iff_forall_mem]
      exact ⟨rfl, rfl, rfl, rfl, rfl, rfl⟩
    exact hall _ hw
  · exact isWritable_of_readNumber h

lemma isWritable_of_readValue_succ {fuel : Nat}
    (hi : ∀ t vs rest, readItems fuel t = .ok (vs, rest) → ∀ v ∈ vs, v.isWritable = true)
    (hm : ∀ t ms rest, readMembers fuel t = .ok (ms, rest) → ∀ m ∈ ms, m.2.isWritable = true)
    {t rest : Text} {v : Json} (h : readValue (fuel + 1) t = .ok (v, rest)) :
    v.isWritable = true := by
  rw [readValue.eq_def] at h
  dsimp only at h
  split at h
  · cases h
  next c u =>
    split_ifs at h
    · rcases hu : readString (u.length + 1) u with _ | ⟨s, rest'⟩ <;> rw [hu] at h <;> cases h
      rfl
    · split at h
      · cases h
        rfl
      · rcases hr : readItems fuel (skip u) with _ | ⟨vs, rest'⟩ <;> rw [hr] at h <;> cases h
        exact (isWritable_array_iff vs).mpr (hi _ _ _ hr)
    · split at h
      · cases h
        rfl
      · rcases hr : readMembers fuel (skip u) with _ | ⟨ms, rest'⟩ <;> rw [hr] at h <;> cases h
        refine (isWritable_object_iff _).mpr fun m hmem => hm _ _ _ hr m ?_
        exact Entries.mem_ofList hmem
    · exact isWritable_of_readWord h

/-- What holds of the parts of a value holds of the value: the induction is on the fuel. -/
lemma isWritable_of_readParts (fuel : Nat) :
    (∀ t v rest, readValue fuel t = .ok (v, rest) → v.isWritable = true) ∧
    (∀ t vs rest, readItems fuel t = .ok (vs, rest) → ∀ v ∈ vs, v.isWritable = true) ∧
    ∀ t ms rest, readMembers fuel t = .ok (ms, rest) → ∀ m ∈ ms, m.2.isWritable = true := by
  induction fuel with
  | zero => exact ⟨nofun, nofun, nofun⟩
  | succ fuel ih =>
    obtain ⟨hv, hi, hm⟩ := ih
    refine ⟨fun t v rest h => isWritable_of_readValue_succ hi hm h, ?_, ?_⟩
    · intro t vs rest h
      rw [readItems] at h
      rcases hr : readValue fuel t with _ | ⟨v, u⟩ <;> rw [hr] at h
      · cases h
      simp only [bind, Except.bind] at h
      split at h
      · cases h
        exact List.forall_mem_singleton.mpr (hv _ _ _ hr)
      · rcases hrs : readItems fuel (skip _) with _ | ⟨vs', rest'⟩ <;> rw [hrs] at h <;> cases h
        exact List.forall_mem_cons.mpr ⟨hv _ _ _ hr, hi _ _ _ hrs⟩
      · cases h
    · intro t ms rest h
      rw [readMembers.eq_def] at h
      dsimp only at h
      split at h
      next u =>
        rcases hs : readString (u.length + 1) u with _ | ⟨name, u'⟩ <;> rw [hs] at h
        · cases h
        simp only [bind, Except.bind] at h
        split at h
        · rcases hr : readValue fuel (skip _) with _ | ⟨v, u''⟩ <;> rw [hr] at h
          · cases h
          dsimp only at h
          split at h
          · cases h
            exact List.forall_mem_singleton.mpr (hv _ _ _ hr)
          · rcases hrs : readMembers fuel (skip _) with _ | ⟨ms', rest'⟩ <;> rw [hrs] at h <;>
              cases h
            exact List.forall_mem_cons.mpr ⟨hv _ _ _ hr, hm _ _ _ hrs⟩
          · cases h
        · cases h
      · cases h

end Reader

/-- All integers of a value that was read can be written. -/
lemma isWritable_of_read {t : Text} {v : Json} (h : Json.read t = .ok v) : v.isWritable = true := by
  have h : readDocument t = .ok v := by
    rw [Json.read] at h
    cases hd : readDocument t <;> rw [hd] at h <;> cases h
    rfl
  rw [readDocument.eq_def] at h
  split at h
  · cases h
  · rcases hv : readValue (2 * t.length + 2) (skip t) with _ | ⟨w, rest⟩ <;> rw [hv] at h
    · cases h
    simp only [bind, Except.bind] at h
    split at h
    · cases h
      exact (isWritable_of_readParts _).1 _ _ _ hv
    · cases h

end Json

end ScriptLint
