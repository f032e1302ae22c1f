import ScriptLint.Proofs.Report.Written
import ScriptLint.Proofs.Text.Pieces

/-!
# Lines of plain reports

A plain report ends with its summary, and before that it has a line for every failed result and one
for every diagnostic. Names, reasons and evidence are printed as they are, so that every line feed
in them divides one of these lines.
-/

namespace ScriptLint

open Text (lineFeed)

/-! ### Line feeds of the parts -/

/-- How many line feeds the texts of a diagnostic hold. -/
def Diagnostic.lineFeeds (d : Diagnostic) : Nat :=
  d.reason.count lineFeed + d.evidence.count lineFeed

/-- How many line feeds the texts of a result hold. -/
def FileResult.lineFeeds (r : FileResult) : Nat :=
  r.file.count lineFeed + (r.diagnostics.map Diagnostic.lineFeeds).sum

lemma Text.count_ofNat (n : Nat) : (ofNat n).count lineFeed = 0 := by
  rw [List.count_eq_zero]
  intro h
  exact absurd (isDigit_of_mem_ofNat h) (by decide)

lemma Text.count_fileFailure (file : Text) :
    (fileFailure file).count lineFeed = file.count lineFeed := by
  have h : ("Errors in " : Text).count lineFeed = 0 := rfl
  rw [fileFailure, List.count_append, h, Nat.zero_add]

lemma Diagnostic.count_text (d : Diagnostic) : d.text.count lineFeed = d.lineFeeds := by
  have h₁ : (" (evidence: " : Text).count lineFeed = 0 := rfl
  have h₂ : (") at line " : Text).count lineFeed = 0 := rfl
  have h₃ : (", character " : Text).count lineFeed = 0 := rfl
  simp only [text, List.count_append, h₁, h₂, h₃, Text.count_ofNat, Nat.add_zero, lineFeeds]

lemma FileResult.sum_count_lines (r : FileResult) :
    (r.lines.map (List.count lineFeed)).sum = r.lineFeeds := by
  rw [lines, List.map_cons, List.sum_cons, Text.count_fileFailure, List.map_map, lineFeeds]
  exact congrArg (fun l => r.file.count lineFeed + List.sum l)
    (List.map_congr_left fun d _ => d.count_text)

namespace Report

/-- How many line feeds the texts hold that a plain report prints. -/
def lineFeeds (r : Report) : Nat := (r.failed.map FileResult.lineFeeds).sum

lemma count_summary (r : Report) : r.summary.count lineFeed = 0 := by
  have h₁ : ("Lint Free! " : Text).count lineFeed = 0 := rfl
  have h₂ : (" file(s) checked" : Text).count lineFeed = 0 := rfl
  have h₃ : ("JSHint found " : Text).count lineFeed = 0 := rfl
  have h₄ : (" error(s)" : Text).count lineFeed = 0 := rfl
  have hn (n : Nat) : (Text.ofInt n).count lineFeed = 0 := Text.count_ofNat n
  rw [summary]
  split
  · simp only [Text.successSummary, List.count_append, h₁, h₂, hn]
  · simp only [Text.failureSummary, List.count_append, h₃, h₄, hn]

/-! ### Lines -/

/-- All diagnostics are in failed results. -/
lemma length_flatMap_lines_failed (r : Report) :
    (r.failed.flatMap FileResult.lines).length = r.failed.length + r.errorCount := by
  rw [failed, errorCount]
  induction r.results with
  | nil => rfl
  | cons result results ih =>
    rw [List.filter_cons, List.flatMap_cons, List.length_append]
    split
    · rw [List.flatMap_cons, List.length_append, ih, FileResult.lines, List.length_cons,
        List.length_map, List.length_cons]
      omega
    · next h =>
      have hd : result.diagnostics = [] := by simpa [FileResult.hasErrors] using h
      rw [ih, hd, List.length_nil, Nat.zero_add]

lemma length_plainLines (r : Report) :
    r.plainLines.length = r.failed.length + r.errorCount + 1 := by
  rw [plainLines, List.length_append, length_flatMap_lines_failed, List.length_singleton]

lemma sum_count_plainLines (r : Report) :
    (r.plainLines.map (List.count lineFeed)).sum = r.lineFeeds := by
  rw [plainLines, List.map_append, List.sum_append, List.map_singleton, List.sum_singleton,
    count_summary, Nat.add_zero, List.map_flatMap, List.flatMap_def, List.sum_flatten, List.map_map,
    lineFeeds]
  exact congrArg List.sum (List.map_congr_left fun result _ => result.sum_count_lines)

/-- Whether no text that a plain report prints holds a line feed. -/
def IsUndivided (r : Report) : Prop :=
  ∀ result ∈ r.failed, lineFeed ∉ result.file ∧
    ∀ d ∈ result.diagnostics, lineFeed ∉ d.reason ∧ lineFeed ∉ d.evidence

lemma lineFeeds_eq_zero_iff (r : Report) : r.lineFeeds = 0 ↔ r.IsUndivided := by
  simp only [lineFeeds, FileResult.lineFeeds, Diagnostic.lineFeeds, IsUndivided,
    List.sum_eq_zero_iff, List.forall_mem_map, Nat.add_eq_zero_iff, List.count_eq_zero]

lemma forall_mem_plainLines_iff (r : Report) :
    (∀ line ∈ r.plainLines, lineFeed ∉ line) ↔ r.IsUndivided := by
  rw [← lineFeeds_eq_zero_iff, ← sum_count_plainLines]
  simp only [List.sum_eq_zero_iff, List.forall_mem_map, List.count_eq_zero]

lemma lines_eq_flatMap (r : Report) : r.plain.lines = r.plainLines.flatMap Text.lines :=
  Text.lines_join (by simp [plainLines])

lemma lines_eq_append_summary (r : Report) : r.plain.lines =
    (r.failed.flatMap fun result => (Text.fileFailure result.file).lines ++
      result.diagnostics.flatMap fun d => d.text.lines) ++ [r.summary] := by
  rw [lines_eq_flatMap, plainLines, List.flatMap_append, List.flatMap_singleton,
    Text.lines_of_notMem (List.count_eq_zero.mp r.count_summary), List.flatMap_assoc]
  simp only [FileResult.lines, List.flatMap_cons, List.flatMap_map]

lemma length_lines (r : Report) :
    r.plain.lines.length = r.failed.length + r.errorCount + 1 + r.lineFeeds := by
  rw [lines_eq_flatMap, Text.length_flatMap_lines, length_plainLines, sum_count_plainLines]

/-- There is no plain report just if the line or the character of a diagnostic has too many digits.
The lines of a plain report are those of the messages on each failed result and its diagnostics, in
order, and the summary, which is the last line. There is one for every failed result, for every
diagnostic and for the summary, and one more for every line feed in a name, a reason or evidence;
so the messages are the lines just if these texts hold no line feed. -/
theorem lines_plain (r : Report) :
    (r.plain? = none ↔ ∃ result ∈ r.failed, ∃ d ∈ result.diagnostics, ¬ d.IsWritable) ∧
    ∀ t, r.plain? = some t →
      (∀ result ∈ r.failed, ∀ d ∈ result.diagnostics, d.text? = some d.text) ∧
      t.lines =
        (r.failed.flatMap fun result => (Text.fileFailure result.file).lines ++
          result.diagnostics.flatMap fun d => d.text.lines) ++ [r.summary] ∧
      t.lines.getLast? = some r.summary ∧
      t.lines.length = r.failed.length + r.errorCount + 1 + r.lineFeeds ∧
      (t.lines.length = r.failed.length + r.errorCount + 1 ↔ r.IsUndivided) ∧
      (t.lines =
        (r.failed.flatMap fun result => Text.fileFailure result.file ::
          result.diagnostics.map Diagnostic.text) ++ [r.summary] ↔ r.IsUndivided) := by
  constructor
  · rw [plain?_eq_none_iff, isWritable_iff_failed]
    simp [FileResult.IsWritable]
  · intro t ht
    obtain ⟨hw, rfl⟩ := plain?_eq_some_iff.mp ht
    refine ⟨fun result hr d hd => ?_, r.lines_eq_append_summary, ?_, r.length_lines, ?_, ?_⟩
    · rw [Diagnostic.text?_eq, if_pos (r.isWritable_iff_failed.mp hw result hr d hd)]
    · rw [lines_eq_append_summary, List.getLast?_concat]
    · rw [length_lines, Nat.add_eq_left, lineFeeds_eq_zero_iff]
    · rw [← forall_mem_plainLines_iff, ← Text.flatMap_lines_eq_self_iff, lines_eq_flatMap]
      rfl

/-- A report on one file, with one diagnostic whose reason has two lines. -/
def twoLineReason : Report where
  expected := 1
  results := [⟨"a.js",
    [⟨"two\nlines", "x", 5, 9, by decide, rfl, rfl, by decide, by decide⟩]⟩]

/-- Its four lines, the last of which is the summary. -/
theorem lines_plain_fourLines :
    ∃ t, twoLineReason.plain? = some t ∧ t.lines.length = 4 ∧
      t.lines.getLast? = some "JSHint found 1 error(s)" := by
  refine ⟨twoLineReason.plain, rfl, ?_⟩
  obtain ⟨-, h⟩ := lines_plain twoLineReason
  obtain ⟨-, -, hlast, hlength, -⟩ := h twoLineReason.plain rfl
  exact ⟨hlength, hlast⟩

/-- A reason with two lines makes two lines of its diagnostic. -/
theorem lines_plain_twoLineReason : ∃ t, twoLineReason.plain? = some t ∧
    t.lines = ["Errors in a.js", "two", "lines (evidence: x) at line 5, character 9",
      "JSHint found 1 error(s)"] ∧
    t.lines.length ≠ twoLineReason.failed.length + twoLineReason.errorCount + 1 := by
  refine ⟨twoLineReason.plain, rfl, ?_⟩
  decide

end Report

end ScriptLint
