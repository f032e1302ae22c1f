import ScriptLint.Json.Printer
import ScriptLint.Report.Basic

/-!
# Reports as JSON documents

An object with the results and a summary of their numbers. There is no document for a report with
a number that cannot be written.
-/

namespace ScriptLint

def Diagnostic.toJson (d : Diagnostic) : Json :=
  .object [("reason", .string d.reason), ("evidence", .string d.evidence), ("line", .int d.line),
    ("character", .int d.character)]

def FileResult.toJson (r : FileResult) : Json :=
  .object [("file", .string r.file), ("errors", .array (r.diagnostics.map Diagnostic.toJson))]

namespace Report

def toJson (r : Report) : Json :=
  .object
    [("files", .array (r.results.map FileResult.toJson)),
     ("summary", .object
       [("files", .int r.fileCount),
        ("expected_files", .int r.expected),
        ("errors", .int r.errorCount),
        ("passed", .bool (r.errorCount = 0))])]

def json? (r : Report) : Option Text := r.toJson.print? (.indented 2)

end Report

end ScriptLint
