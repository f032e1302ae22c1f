import ScriptLint.Diagnostic.Basic

/-!
# Reports

A report holds the results of a run, one for each file in the order of the files, and knows how
many files it is for: it takes no more results than that.
-/

namespace ScriptLint

/-- What a run found in one file. -/
structure FileResult where
  file : Text
  diagnostics : List Diagnostic
  deriving DecidableEq

/-- Whether anything was found. -/
def FileResult.hasErrors (r : FileResult) : Bool := !r.diagnostics.isEmpty

/-- The result for a file that a caller names. -/
def FileResult.ofDatum (file : Datum) (diagnostics : List Diagnostic) :
    Except (List Flaw) FileResult :=
  match file.asText with
  | .ok file     => .ok ⟨file, diagnostics⟩
  | .error check => .error [⟨["file"], check⟩]

/-- The results of a run over an expected number of files. -/
structure Report where
  expected : Int
  results : List FileResult
  deriving DecidableEq

/-- A result that came after the last expected one. -/
structure ReportFull where
  expected : Int
  file : Text
  deriving DecidableEq

/-- The wording for a result that is refused. -/
def ReportFull.message (e : ReportFull) : Text :=
  match Text.ofInt? e.expected with
  | some n => "Report expects " ++ n ++ " file(s); refusing to add " ++ e.file
  | none   => Text.tooLongToWrite

namespace Report

/-- The report for so many files that has no results yet. -/
def empty (expected : Nat) : Report := ⟨expected, []⟩

/-- The report for as many files as a caller expects. -/
def ofDatum (expected : Datum) : Except (List Flaw) Report :=
  match expected.asCount with
  | .ok n        => .ok (empty n)
  | .error check => .error [⟨["expected_file_count"], check⟩]

def fileCount (r : Report) : Nat := r.results.length

/-- The number of diagnostics in all results. -/
def errorCount (r : Report) : Nat := (r.results.flatMap FileResult.diagnostics).length

/-- The results with diagnostics. -/
def failed (r : Report) : List FileResult := r.results.filter FileResult.hasErrors

/-- The report with one result more. -/
def add (r : Report) (result : FileResult) : Except ReportFull Report :=
  if r.expected ≤ r.fileCount then .error ⟨r.expected, result.file⟩
  else .ok { r with results := r.results ++ [result] }

end Report

end ScriptLint
