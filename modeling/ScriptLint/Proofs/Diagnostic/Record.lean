import Mathlib.Tactic.Common
import Mathlib.Tactic.SplitIfs
import ScriptLint.Diagnostic.Record
import ScriptLint.Proofs.Text.Trim

/-!
# Which records are diagnostics

A record is a diagnostic if and only if it is well formed, and then it determines the diagnostic.
Any other record is rejected by the first check that fails: `Rejects` has a rule for each check, in
the order in which they are made, whose premises say that the checks before it are passed.
-/

namespace ScriptLint

open Json

/-! ### Whole numbers -/

namespace Binary64

lemma signed_mul (negative : Bool) (k d : Nat) :
    signed negative (k * d) = signed negative k * d := by
  cases negative with
  | false => exact Int.natCast_mul k d
  | true => exact (congrArg Neg.neg (Int.natCast_mul k d)).trans (Int.neg_mul _ _).symm

lemma natCast_dvd_signed {negative : Bool} {m d : Nat} : (d : Int) ∣ signed negative m ↔ d ∣ m := by
  cases negative <;> simp [signed, Int.natCast_dvd_natCast]

lemma signed_eq_mul_iff {negative : Bool} {m d : Nat} {n : Int} (hd : 0 < d) :
    signed negative m = n * d ↔ m % d = 0 ∧ n = signed negative (m / d) := by
  constructor
  · intro h
    obtain ⟨k, rfl⟩ := natCast_dvd_signed.mp ⟨n, h.trans (Int.mul_comm n d)⟩
    rw [Nat.mul_comm, signed_mul] at h
    rw [Nat.mul_mod_right, Nat.mul_div_cancel_left k hd]
    exact ⟨rfl, (Int.eq_of_mul_eq_mul_right (by omega) h).symm⟩
  · rintro ⟨hm, rfl⟩
    rw [← signed_mul, Nat.div_mul_cancel (Nat.dvd_of_mod_eq_zero hm)]

/-- A number is an integer if its size is one. -/
lemma toInt?_eq_some_iff {x : Binary64} {n : Int} :
    x.toInt? = some n ↔ ∃ negative rank, x = .finite negative rank ∧
      signed negative (units rank) = n * (Nat.pow 2 depth : Nat) := by
  have hd (n : Nat) : 0 < Nat.pow 2 n := Nat.two_pow_pos n
  cases x with
  | nan | infinite =>
    constructor
    · intro h
      cases h
    · rintro ⟨_, _, h, -⟩
      cases h
  | finite negative rank =>
    rw [toInt?]
    constructor
    · intro h
      split at h
      · next hm =>
        exact ⟨_, _, rfl, (signed_eq_mul_iff (hd depth)).mpr ⟨hm, (Option.some.inj h).symm⟩⟩
      · cases h
    · rintro ⟨_, _, ⟨rfl, rfl⟩, h⟩
      obtain ⟨hm, rfl⟩ := (signed_eq_mul_iff (hd depth)).mp h
      exact if_pos hm

end Binary64

namespace Json

/-- A number without a fraction: an integer, or a finite binary64 number of its size. Sizes of
binary64 numbers are in units of `2 ^ (-1074)`. -/
inductive IsWhole : Json → Int → Prop
  | int (n : Int) : IsWhole (.int n) n
  | float {negative : Bool} {rank : Fin Binary64.ranks} {n : Int}
      (h : Binary64.signed negative (Binary64.units rank) = n * (Nat.pow 2 Binary64.depth : Nat)) :
      IsWhole (.float (.finite negative rank)) n

lemma isWhole_float_iff {x : Binary64} {n : Int} : IsWhole (.float x) n ↔ x.toInt? = some n := by
  rw [Binary64.toInt?_eq_some_iff]
  constructor
  · rintro ⟨⟩
    exact ⟨_, _, rfl, ‹_›⟩
  · rintro ⟨_, _, rfl, h⟩
    exact .float h

end Json

namespace Diagnostic

/-! ### Members of a record -/

/-- Why a member is no whole number. -/
inductive NotWhole (field : Text) : Json → Malformed → Prop
  | notNumber {v : Json} (hi : ∀ n, v ≠ .int n) (hf : ∀ x, v ≠ .float x) :
      NotWhole field v (.notNumber field v.kind)
  | fraction {x : Binary64} (h : ∀ n, ¬ IsWhole (.float x) n) :
      NotWhole field (.float x) (.notWhole field x)

variable {ms : List (Text × Json)} {name : Text}

lemma stringMember_eq_ok_iff {t : Text} :
    stringMember ms name = .ok t ↔ member ms name = .string t := by
  rw [stringMember]
  cases member ms name <;> simp

lemma stringMember_eq_error_iff {e : Malformed} :
    stringMember ms name = .error e ↔
      (∀ t, member ms name ≠ .string t) ∧ e = .notString name (member ms name).kind := by
  rw [stringMember]
  cases member ms name <;> simp [eq_comm]

lemma integerMember_eq_ok_iff {n : Int} :
    integerMember ms name = .ok n ↔ IsWhole (member ms name) n := by
  rw [integerMember]
  cases member ms name with
  | int m =>
    constructor
    · rintro ⟨⟩
      exact .int _
    · rintro ⟨⟩
      rfl
  | float x =>
    rw [isWhole_float_iff]
    dsimp only
    cases x.toInt? <;> simp
  | _ =>
    constructor
    · rintro ⟨⟩
    · rintro ⟨⟩

lemma integerMember_eq_error_iff {e : Malformed} :
    integerMember ms name = .error e ↔ NotWhole name (member ms name) e := by
  rw [integerMember]
  cases member ms name with
  | int m =>
    constructor
    · rintro ⟨⟩
    · rintro ⟨hi, -⟩
      exact absurd rfl (hi m)
  | float x =>
    dsimp only
    constructor
    · intro h
      cases hx : x.toInt? with
      | some n =>
        rw [hx] at h
        cases h
      | none =>
        rw [hx] at h
        cases h
        exact .fraction fun n hn => by cases hx.symm.trans (isWhole_float_iff.mp hn)
    · rintro (⟨-, hf⟩ | h)
      · exact absurd rfl (hf x)
      · cases hx : x.toInt? with
        | some n => exact absurd (isWhole_float_iff.mpr hx) (h n)
        | none   => rfl
  | _ =>
    constructor
    · rintro ⟨⟩
      exact .notNumber (by simp) (by simp)
    · rintro ⟨⟩
      rfl

/-! ### Fields of a diagnostic -/

/-- The flaw of a position that is too small, if it is. -/
def positionFlaws (name : Text) (n : Int) : List Flaw :=
  if 1 ≤ n then [] else [⟨[name], .atLeast 1⟩]

/-- The check that a reason does not pass. -/
inductive BadReason : Text → Check → Prop
  | unicode {t : Text} (h : ∃ c ∈ t, c.isSurrogate = true) : BadReason t .unicode
  | nonempty : BadReason [] .nonempty

/-- The flaws of the values of a record, the first of which counts. -/
inductive Flawed (t : Text) (n k : Int) : List Flaw → Prop
  | reason {check : Check} (h : BadReason t check) :
      Flawed t n k (⟨["reason"], check⟩ :: (positionFlaws "line" n ++ positionFlaws "character" k))
  | line (ht : t ≠ []) (hs : ∀ c ∈ t, c.isSurrogate = false) (h : n < 1) :
      Flawed t n k (⟨["line"], .atLeast 1⟩ :: positionFlaws "character" k)
  | character (ht : t ≠ []) (hs : ∀ c ∈ t, c.isSurrogate = false) (hn : 1 ≤ n) (h : k < 1) :
      Flawed t n k [⟨["character"], .atLeast 1⟩]

/-- A reason is bad, or it passes its checks. -/
lemma badReason_or (t : Text) :
    (∃ check, BadReason t check) ∨ t ≠ [] ∧ ∀ c ∈ t, c.isSurrogate = false := by
  by_cases ht : t = []
  · subst ht
    exact .inl ⟨_, .nonempty⟩
  · by_cases hs : ∃ c ∈ t, c.isSurrogate = true
    · exact .inl ⟨_, .unicode hs⟩
    · exact .inr ⟨ht, by simpa using hs⟩

lemma asName_of_badReason {t : Text} {check : Check} (h : BadReason t check) :
    (Datum.text t).asName = .error check := by
  cases h with
  | unicode h => exact dif_pos (List.any_eq_true.mpr h)
  | nonempty => rfl

lemma asName_of_ne_nil {t : Text} (ht : t ≠ []) (hs : t.any CodePoint.isSurrogate = false) :
    (Datum.text t).asName = .ok ⟨t, ht, hs⟩ := by
  simp only [Datum.asName, Datum.asText, bind, Except.bind, hs, ht, Bool.false_eq_true, dite_false]

lemma one_le_toNat {n : Int} (h : 1 ≤ n) : 1 ≤ n.toNat := by omega

lemma asPosition_int (n : Int) : (Datum.int n).asPosition =
    if h : 1 ≤ n then .ok ⟨n.toNat, one_le_toNat h⟩ else .error (.atLeast 1) :=
  rfl

/-- The fields that are made of the values of a record. -/
def Fields.ofValues (t u : Text) (n k : Int) : Fields :=
  ⟨some (.text t), some (.text u), some (.int n), some (.int k)⟩

lemma ofFields_of_badReason {t : Text} {check : Check} (h : BadReason t check) (u : Text)
    (n k : Int) : ofFields (.ofValues t u n k) =
      .error (⟨["reason"], check⟩ :: (positionFlaws "line" n ++ positionFlaws "character" k)) := by
  simp only [ofFields, Fields.ofValues, required, asName_of_badReason h, Datum.asText,
    asPosition_int, Except.mapError, positionFlaws]
  split_ifs <;> rfl

lemma ofFields_of_reason {t : Text} (ht : t ≠ []) (hs : t.any CodePoint.isSurrogate = false)
    (u : Text) (n k : Int) : ofFields (.ofValues t u n k) =
      if h : 1 ≤ n ∧ 1 ≤ k then
        .ok ⟨t, u.trim, n.toNat, k.toNat, ht, hs, Text.trim_trim u, one_le_toNat h.1,
          one_le_toNat h.2⟩
      else .error (positionFlaws "line" n ++ positionFlaws "character" k) := by
  simp only [ofFields, Fields.ofValues, required, asName_of_ne_nil ht hs, Datum.asText,
    asPosition_int, Except.mapError, positionFlaws]
  by_cases hn : 1 ≤ n <;> by_cases hk : 1 ≤ k <;> simp [hn, hk, flaw?]

/-- A diagnostic is made of values if they are its own, but for the blanks around the evidence. -/
lemma ofFields_eq_ok_iff {t u : Text} {n k : Int} {d : Diagnostic} :
    ofFields (.ofValues t u n k) = .ok d ↔
      t = d.reason ∧ u.trim = d.evidence ∧ n = d.line ∧ k = d.character := by
  constructor
  · intro h
    obtain ⟨check, hb⟩ | ⟨ht, hs⟩ := badReason_or t
    · rw [ofFields_of_badReason hb] at h
      cases h
    · rw [ofFields_of_reason ht (by simpa using hs)] at h
      split_ifs at h with hp
      cases h
      obtain ⟨hn, hk⟩ := hp
      exact ⟨rfl, rfl, (Int.toNat_of_nonneg (by omega)).symm, (Int.toNat_of_nonneg (by omega)).symm⟩
  · obtain ⟨reason, evidence, line, character, ht, hs, he, hl, hc⟩ := d
    rintro ⟨rfl, rfl, rfl, rfl⟩
    have hp : (1 : Int) ≤ line ∧ (1 : Int) ≤ character := by omega
    rw [ofFields_of_reason ht hs, dif_pos hp]
    simp

/-- There is no diagnostic of values with flaws. -/
lemma ofFields_eq_error_iff {t u : Text} {n k : Int} {flaws : List Flaw} :
    ofFields (.ofValues t u n k) = .error flaws ↔ Flawed t n k flaws := by
  constructor
  · intro h
    obtain ⟨check, hb⟩ | ⟨ht, hs⟩ := badReason_or t
    · rw [ofFields_of_badReason hb] at h
      cases h
      exact .reason hb
    · rw [ofFields_of_reason ht (by simpa using hs)] at h
      split_ifs at h with hp
      cases h
      by_cases hn : 1 ≤ n
      · rw [positionFlaws, if_pos hn, positionFlaws, if_neg (by omega)]
        exact .character ht hs hn (by omega)
      · rw [positionFlaws, if_neg hn]
        exact .line ht hs (by omega)
  · rintro (hb | ⟨ht, hs, hn⟩ | ⟨ht, hs, hn, hk⟩)
    · exact ofFields_of_badReason hb u n k
    · rw [ofFields_of_reason ht (by simpa using hs), dif_neg (by omega), positionFlaws,
        if_neg (by omega)]
      rfl
    · rw [ofFields_of_reason ht (by simpa using hs), dif_neg (by omega), positionFlaws, if_pos hn,
        positionFlaws, if_neg (by omega)]
      rfl

/-! ### Records -/

/-- A record that is a diagnostic: it has a reason that is not empty and holds no surrogate, an
evidence, and whole positive numbers for its place. -/
inductive WellFormed : Json → Prop
  | object {ms : List (Text × Json)} {t u : Text} {n k : Int}
      (hr : member ms "reason" = .string t) (ht : t ≠ []) (hs : ∀ c ∈ t, c.isSurrogate = false)
      (he : member ms "evidence" = .string u)
      (hl : IsWhole (member ms "line") n) (hn : 1 ≤ n)
      (hc : IsWhole (member ms "character") k) (hk : 1 ≤ k) : WellFormed (.object ms)

/-- The diagnostic that a record reports: the evidence is without the blanks around it. -/
inductive Reports : Json → Diagnostic → Prop
  | object {ms : List (Text × Json)} {u : Text} {d : Diagnostic}
      (hr : member ms "reason" = .string d.reason)
      (he : member ms "evidence" = .string u) (hu : u.Trims d.evidence)
      (hl : IsWhole (member ms "line") d.line) (hc : IsWhole (member ms "character") d.character) :
      Reports (.object ms) d

/-- The first check that a record fails, in the order of the checks: that it is an object, the kinds
of its reason, its evidence, its line and its character, and then their values. -/
inductive Rejects : Json → Malformed → Prop
  | notObject {r : Json} (h : ∀ ms, r ≠ .object ms) : Rejects r (.notObject r.kind)
  | reason {ms : List (Text × Json)} (h : ∀ t, member ms "reason" ≠ .string t) :
      Rejects (.object ms) (.notString "reason" (member ms "reason").kind)
  | evidence {ms : List (Text × Json)} {t : Text} (hr : member ms "reason" = .string t)
      (h : ∀ u, member ms "evidence" ≠ .string u) :
      Rejects (.object ms) (.notString "evidence" (member ms "evidence").kind)
  | line {ms : List (Text × Json)} {t u : Text} {e : Malformed}
      (hr : member ms "reason" = .string t) (he : member ms "evidence" = .string u)
      (h : NotWhole "line" (member ms "line") e) : Rejects (.object ms) e
  | character {ms : List (Text × Json)} {t u : Text} {n : Int} {e : Malformed}
      (hr : member ms "reason" = .string t) (he : member ms "evidence" = .string u)
      (hl : IsWhole (member ms "line") n) (h : NotWhole "character" (member ms "character") e) :
      Rejects (.object ms) e
  | values {ms : List (Text × Json)} {t u : Text} {n k : Int} {flaws : List Flaw}
      (hr : member ms "reason" = .string t) (he : member ms "evidence" = .string u)
      (hl : IsWhole (member ms "line") n) (hc : IsWhole (member ms "character") k)
      (h : Flawed t n k flaws) : Rejects (.object ms) (.flawed flaws)

lemma ofRecord_object (ms : List (Text × Json)) :
    ofRecord (.object ms) = (do
      let t ← stringMember ms "reason"
      let u ← stringMember ms "evidence"
      let n ← integerMember ms "line"
      let k ← integerMember ms "character"
      (ofFields (.ofValues t u n k)).mapError .flawed) := rfl

lemma ofRecord_of_members {ms : List (Text × Json)} {t u : Text} {n k : Int}
    (hr : member ms "reason" = .string t) (he : member ms "evidence" = .string u)
    (hl : IsWhole (member ms "line") n) (hc : IsWhole (member ms "character") k) :
    ofRecord (.object ms) = (ofFields (.ofValues t u n k)).mapError .flawed := by
  rw [ofRecord_object, stringMember_eq_ok_iff.mpr hr, stringMember_eq_ok_iff.mpr he,
    integerMember_eq_ok_iff.mpr hl, integerMember_eq_ok_iff.mpr hc]
  rfl

/-- A record fails a check of its kind or of the kinds of its members, or its members have
values. -/
lemma rejects_or_members (r : Json) :
    (∃ e, Rejects r e) ∨ ∃ ms t u n k, r = .object ms ∧ member ms "reason" = .string t ∧
      member ms "evidence" = .string u ∧ IsWhole (member ms "line") n ∧
      IsWhole (member ms "character") k := by
  cases r with
  | object ms =>
    rcases hr : stringMember ms "reason" with e | t
    · obtain ⟨h, -⟩ := stringMember_eq_error_iff.mp hr
      exact .inl ⟨_, .reason h⟩
    rw [stringMember_eq_ok_iff] at hr
    rcases he : stringMember ms "evidence" with e | u
    · obtain ⟨h, -⟩ := stringMember_eq_error_iff.mp he
      exact .inl ⟨_, .evidence hr h⟩
    rw [stringMember_eq_ok_iff] at he
    rcases hl : integerMember ms "line" with e | n
    · exact .inl ⟨_, .line hr he (integerMember_eq_error_iff.mp hl)⟩
    rw [integerMember_eq_ok_iff] at hl
    rcases hc : integerMember ms "character" with e | k
    · exact .inl ⟨_, .character hr he hl (integerMember_eq_error_iff.mp hc)⟩
    rw [integerMember_eq_ok_iff] at hc
    exact .inr ⟨ms, t, u, n, k, rfl, hr, he, hl, hc⟩
  | _ => exact .inl ⟨_, .notObject (by simp)⟩

/-- A record gives the error of the first check that it fails. -/
lemma ofRecord_of_rejects {r : Json} {e : Malformed} (h : Rejects r e) : ofRecord r = .error e := by
  cases h with
  | notObject h =>
    cases r with
    | object ms => exact absurd rfl (h ms)
    | _ => rfl
  | reason h =>
    rw [ofRecord_object, stringMember_eq_error_iff.mpr ⟨h, rfl⟩]
    rfl
  | evidence hr h =>
    rw [ofRecord_object, stringMember_eq_ok_iff.mpr hr, stringMember_eq_error_iff.mpr ⟨h, rfl⟩]
    rfl
  | line hr he h =>
    rw [ofRecord_object, stringMember_eq_ok_iff.mpr hr, stringMember_eq_ok_iff.mpr he,
      integerMember_eq_error_iff.mpr h]
    rfl
  | character hr he hl h =>
    rw [ofRecord_object, stringMember_eq_ok_iff.mpr hr, stringMember_eq_ok_iff.mpr he,
      integerMember_eq_ok_iff.mpr hl, integerMember_eq_error_iff.mpr h]
    rfl
  | values hr he hl hc h =>
    rw [ofRecord_of_members hr he hl hc, ofFields_eq_error_iff.mpr h]
    rfl

lemma reports_of_ofRecord {r : Json} {d : Diagnostic} (h : ofRecord r = .ok d) : Reports r d := by
  obtain ⟨e, hr⟩ | ⟨ms, t, u, n, k, rfl, hr, he, hl, hc⟩ := rejects_or_members r
  · cases h.symm.trans (ofRecord_of_rejects hr)
  · rw [ofRecord_of_members hr he hl hc] at h
    rcases hm : ofFields (.ofValues t u n k) with flaws | d' <;> rw [hm] at h <;> cases h
    obtain ⟨rfl, hu, rfl, rfl⟩ := ofFields_eq_ok_iff.mp hm
    exact .object hr he (Text.trim_eq_iff.mp hu) hl hc

lemma ofRecord_of_reports {r : Json} {d : Diagnostic} (h : Reports r d) : ofRecord r = .ok d := by
  obtain ⟨hr, he, hu, hl, hc⟩ := h
  rw [ofRecord_of_members hr he hl hc,
    ofFields_eq_ok_iff.mpr ⟨rfl, Text.trim_eq_iff.mpr hu, rfl, rfl⟩]
  rfl

lemma rejects_of_ofRecord {r : Json} {e : Malformed} (h : ofRecord r = .error e) : Rejects r e := by
  obtain ⟨e', hr⟩ | ⟨ms, t, u, n, k, rfl, hr, he, hl, hc⟩ := rejects_or_members r
  · cases h.symm.trans (ofRecord_of_rejects hr)
    exact hr
  · rw [ofRecord_of_members hr he hl hc] at h
    rcases hm : ofFields (.ofValues t u n k) with flaws | d <;> rw [hm] at h <;> cases h
    exact .values hr he hl hc (ofFields_eq_error_iff.mp hm)

/-- A record that reports a diagnostic is well formed, and every record that is well formed reports
one. -/
lemma wellFormed_iff {r : Json} : WellFormed r ↔ ∃ d, Reports r d := by
  constructor
  · rintro ⟨hr, ht, hs, he, hl, hn, hc, hk⟩
    have hs := List.any_eq_false.mpr fun c hc => ne_true_of_eq_false (hs c hc)
    have hm := ofRecord_of_members hr he hl hc
    rw [ofFields_of_reason ht hs, dif_pos ⟨hn, hk⟩] at hm
    exact ⟨_, reports_of_ofRecord hm⟩
  · rintro ⟨d, hr, he, -, hl, hc⟩
    have hs : ∀ c ∈ d.reason, c.isSurrogate = false := by simpa using d.reason_encodable
    exact .object hr d.reason_ne_nil hs he hl (by exact_mod_cast d.line_pos) hc
      (by exact_mod_cast d.character_pos)

/-- A record is a diagnostic if and only if it is well formed. The diagnostic is the one that the
record reports, and a record that is none gives the error of the first check that it fails. -/
theorem ofRecord_exact (r : Json) :
    ((∃ d, ofRecord r = .ok d) ↔ WellFormed r) ∧ (∀ d, ofRecord r = .ok d ↔ Reports r d) ∧
      ∀ e, ofRecord r = .error e ↔ Rejects r e := by
  have hd (d : Diagnostic) : ofRecord r = .ok d ↔ Reports r d :=
    ⟨reports_of_ofRecord, ofRecord_of_reports⟩
  refine ⟨?_, hd, fun e => ⟨rejects_of_ofRecord, ofRecord_of_rejects⟩⟩
  rw [wellFormed_iff]
  exact exists_congr hd

/-- A record whose evidence is a surrogate without its partner. -/
def loneSurrogate : Json :=
  .object [("reason", .string "r"), ("evidence", .string [0xD800]), ("line", .int 1),
    ("character", .int 1)]

/-- A surrogate in the evidence is kept. -/
theorem ofRecord_loneSurrogate :
    ∃ d, ofRecord loneSurrogate = .ok d ∧ d.evidence = [0xD800] ∧
      CodePoint.isSurrogate 0xD800 = true :=
  ⟨_, rfl, rfl, rfl⟩

end Diagnostic

end ScriptLint
