import Mathlib.Algebra.GroupWithZero.Nat
import Mathlib.Data.List.Induction
import Mathlib.Tactic.Common
import ScriptLint.Report.Plain

/-!
# Adding results to a report

A report takes results up to the number that it expects, in the order in which they come, and
refuses every later one. Its counts agree with each other and with its summary at every time.
-/

namespace ScriptLint

namespace Report

/-! ### One result -/

/-- A report that waits for more results takes one. -/
lemma add_of_lt {r : Report} {result : FileResult} (h : (r.fileCount : Int) < r.expected) :
    r.add result = .ok { r with results := r.results ++ [result] } := by
  rw [add, if_neg (by omega)]

/-- A report that has all its results refuses one. -/
lemma add_of_le {r : Report} {result : FileResult} (h : r.expected ≤ r.fileCount) :
    r.add result = .error ⟨r.expected, result.file⟩ := by
  rw [add, if_pos h]

/-- A report to which a result was added has the result after those that it had. -/
lemma eq_of_add_eq_ok {r r' : Report} {result : FileResult} (h : r.add result = .ok r') :
    r' = { r with results := r.results ++ [result] } := by
  by_cases hr : r.expected ≤ r.fileCount
  · rw [add_of_le hr] at h
    cases h
  · rw [add_of_lt (by omega)] at h
    exact (Except.ok.inj h).symm

/-- A report waits for so many results more. -/
def Awaits (r : Report) (n : Nat) : Prop := r.expected = r.fileCount + n

lemma awaits_empty (n : Nat) : (empty n).Awaits n := (Int.zero_add _).symm

lemma Awaits.lt {r : Report} {n : Nat} (h : r.Awaits (n + 1)) :
    (r.fileCount : Int) < r.expected := by
  rw [Awaits] at h
  omega

lemma Awaits.concat {r : Report} {n : Nat} (h : r.Awaits (n + 1)) (result : FileResult) :
    Awaits { r with results := r.results ++ [result] } n := by
  simp only [Awaits, fileCount, List.length_append, List.length_singleton] at h ⊢
  omega

/-! ### One after another -/

/-- The report after results were offered to it one after another. A result that is refused is
given up. -/
def addAll (r : Report) (results : List FileResult) : Report :=
  results.foldl (fun r result => (r.add result).toOption.getD r) r

lemma addAll_concat (r : Report) (results : List FileResult) (result : FileResult) :
    r.addAll (results ++ [result])
      = ((r.addAll results).add result).toOption.getD (r.addAll results) := by
  simp [addAll]

/-- The report after results were offered holds the first of them. -/
lemma addAll_empty (n : Nat) (results : List FileResult) :
    (empty n).addAll results = ⟨n, results.take n⟩ := by
  induction results using List.reverseRecOn with
  | nil => simp [addAll, empty]
  | append_singleton results result ih =>
    rw [addAll_concat, ih]
    by_cases h : results.length < n
    · have hlt : ((fileCount ⟨n, results.take n⟩ : Nat) : Int) < n := by
        simp only [fileCount, List.length_take]
        omega
      rw [add_of_lt hlt, List.take_of_length_le (Nat.le_of_lt h), List.take_of_length_le (by simpa)]
      rfl
    · have hle : (n : Int) ≤ (fileCount ⟨n, results.take n⟩ : Nat) := by
        simp only [fileCount, List.length_take]
        omega
      rw [add_of_le hle]
      simp [Except.toOption, List.take_append_of_le_length (Nat.le_of_not_lt h)]

/-! ### Counts and the summary -/

lemma failed_eq_filter (r : Report) :
    r.failed = r.results.filter fun result => result.diagnostics ≠ [] := by
  apply List.filter_congr
  rintro ⟨file, diagnostics⟩ _
  cases diagnostics <;> simp [FileResult.hasErrors]

lemma errorCount_eq_zero_iff (r : Report) : r.errorCount = 0 ↔ r.failed = [] := by
  rw [errorCount, List.length_eq_zero_iff]
  simp [failed_eq_filter]

lemma successSummary_ne_failureSummary (files errors : Int) :
    Text.successSummary files ≠ Text.failureSummary errors := by
  intro h
  exact absurd (List.cons.inj h).1 (by decide)

lemma summary_eq_success_iff (r : Report) :
    r.summary = Text.successSummary r.fileCount ↔ r.errorCount = 0 := by
  rw [summary]
  by_cases h : r.errorCount = 0
  · simp [h]
  · simp [h, (successSummary_ne_failureSummary _ _).symm]

/-- A report holds no more results than it expects, and its counts, its failed results and its
summary agree. -/
structure Consistent (r : Report) : Prop where
  fileCount_le : (r.fileCount : Int) ≤ r.expected
  errorCount_eq : r.errorCount = (r.results.map fun result => result.diagnostics.length).sum
  failed_eq : r.failed = r.results.filter fun result => result.diagnostics ≠ []
  errorCount_eq_zero : r.errorCount = 0 ↔ r.failed = []
  failed_eq_nil : r.failed = [] ↔ r.summary = Text.successSummary r.fileCount

lemma consistent_of_le {r : Report} (h : (r.fileCount : Int) ≤ r.expected) : r.Consistent where
  fileCount_le := h
  errorCount_eq := List.length_flatMap
  failed_eq := failed_eq_filter r
  errorCount_eq_zero := errorCount_eq_zero_iff r
  failed_eq_nil := by rw [summary_eq_success_iff, errorCount_eq_zero_iff]

/-- However many results are offered to a new report, it holds the first of them, as many as it
expects. The offers beyond those are the ones that are refused, each of them leaves the report as
it was, and the report is consistent after every offer. -/
theorem addAll_holds_first (n : Nat) (results : List FileResult) :
    let after (k : Nat) : Report := (empty n).addAll (results.take k)
    (after results.length).results = results.take (min n results.length) ∧
    (∀ k result, results[k]? = some result →
      (k < n → (after k).add result = .ok (after (k + 1))) ∧
      (n ≤ k → (after k).add result = .error ⟨n, result.file⟩ ∧ after (k + 1) = after k)) ∧
    ∀ k, (after k).Consistent := by
  intro after
  have hafter (k : Nat) : after k = ⟨n, results.take (min n k)⟩ := by
    rw [← List.take_take]
    exact addAll_empty n _
  refine ⟨by rw [hafter], ?_, ?_⟩
  · intro k result hk
    obtain ⟨hlt, rfl⟩ := List.getElem?_eq_some_iff.mp hk
    have hexpected : (after k).expected = n := by rw [hafter]
    have hcount : (after k).fileCount = min n k := by
      simp only [hafter, fileCount, List.length_take]
      omega
    constructor
    · intro hn
      rw [add_of_lt (by rw [hcount, hexpected]; omega), hafter, hafter,
        Nat.min_eq_right (Nat.le_of_lt hn), Nat.min_eq_right hn,
        List.take_succ_eq_append_getElem hlt]
    · intro hn
      refine ⟨?_, ?_⟩
      · rw [add_of_le (by rw [hcount, hexpected]; omega), hexpected]
      · rw [hafter, hafter, Nat.min_eq_left hn, Nat.min_eq_left (Nat.le_succ_of_le hn)]
  · intro k
    apply consistent_of_le
    simp only [hafter, fileCount, List.length_take]
    omega

/-- The second result for a report on one file. -/
theorem addAll_holds_first_second :
    let results : List FileResult := [⟨"a", []⟩, ⟨"b", []⟩]
    results[1]? = some ⟨"b", []⟩ ∧ 1 ≤ 1 ∧
      ((empty 1).addAll (results.take 1)).add ⟨"b", []⟩ = .error ⟨1, "b"⟩ ∧
      ((empty 1).addAll results).results = [⟨"a", []⟩] := by
  intro results
  obtain ⟨hall, hcalls, -⟩ := addAll_holds_first 1 results
  exact ⟨rfl, Nat.le_refl 1, ((hcalls 1 ⟨"b", []⟩ rfl).2 (Nat.le_refl 1)).1, hall⟩

end Report

end ScriptLint
