import ScriptLint.Report.Basic

/-!
# Plain reports

A line for every file with diagnostics, followed by a line for each of them, and at the end one
line that sums up. There is no report of diagnostics whose lines or characters cannot be written.
-/

namespace ScriptLint

/-- The line that announces the diagnostics of a file. -/
def Text.fileFailure (file : Text) : Text := "Errors in " ++ file

/-- The line that sums up a run without diagnostics over so many files. -/
def Text.successSummary (files : Int) : Text :=
  "Lint Free! " ++ Text.ofInt files ++ " file(s) checked"

/-- The line that sums up a run with so many diagnostics. -/
def Text.failureSummary (errors : Int) : Text :=
  "JSHint found " ++ Text.ofInt errors ++ " error(s)"

/-- The lines on a result. -/
def FileResult.lines? (r : FileResult) : Option (List Text) := do
  let diagnostics ← r.diagnostics.mapM Diagnostic.text?
  return Text.fileFailure r.file :: diagnostics

namespace Report

/-- The line that sums up a report. -/
def summary (r : Report) : Text :=
  if r.errorCount = 0 then Text.successSummary r.fileCount else Text.failureSummary r.errorCount

def plainLines? (r : Report) : Option (List Text) := do
  let lines ← r.failed.mapM FileResult.lines?
  return lines.flatten ++ [r.summary]

def plain? (r : Report) : Option Text := r.plainLines?.map (Text.join "\n")

end Report

end ScriptLint
