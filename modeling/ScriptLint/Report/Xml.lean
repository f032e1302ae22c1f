import ScriptLint.Report.Basic

/-!
# Reports in XML

A `jshint` element with a `file` element for every result, which has an `issue` element for every
diagnostic. All content is in attributes. Marks of the notation are written as entities, and so
are tabs and line ends, which a reader would take for spaces; what XML cannot carry at all becomes
U+FFFD. There is no document for diagnostics whose lines or characters cannot be written.
-/

namespace ScriptLint.Xml

/-- Whether a code point may stand in a document. -/
def isCarried (c : CodePoint) : Bool :=
  !((c.val < 0x20 ∧ c.val ≠ 0x09 ∧ c.val ≠ 0x0A ∧ c.val ≠ 0x0D) ∨ c.isSurrogate ∨
    c.val = 0xFFFE ∨ c.val = 0xFFFF)

/-- The code point itself, or U+FFFD for one that cannot be carried. -/
def carried (c : CodePoint) : CodePoint := if isCarried c then c else 0xFFFD

/-- What is written as a reference, in the order in which it is replaced. The ampersand comes first,
as it is in every reference. -/
def references : List (CodePoint × Text) :=
  [('&', "&amp;"), ('>', "&gt;"), ('<', "&lt;"), ('"', "&quot;"), (0x27, "&apos;"), ('\t', "&#9;"),
    ('\n', "&#10;"), ('\r', "&#13;")]

/-- The text with a reference for every code point that it stands for. -/
def refer (t : Text) (r : CodePoint × Text) : Text :=
  t.flatMap fun c => if c = r.1 then r.2 else [c]

/-- A text that can be carried as it is written in the value of an attribute. -/
def escape (t : Text) : Text := references.foldl refer t

/-- An attribute, with the space before it. -/
def attr (name value : Text) : Text :=
  " " ++ name ++ "=\"" ++ escape (value.map carried) ++ "\""

/-- The element for a diagnostic, unless its line or its character cannot be written. -/
def issue? (d : Diagnostic) : Option Text := do
  let line ← Text.ofInt? d.line
  let character ← Text.ofInt? d.character
  return "<issue" ++ attr "line" line ++ attr "char" character ++ attr "reason" d.reason ++
    attr "evidence" d.evidence ++ "/>"

/-- The lines of the element for a result. -/
def fileLines? (r : FileResult) : Option (List Text) := do
  let issues ← r.diagnostics.mapM issue?
  return ("    <file" ++ attr "name" r.file ++ ">") :: issues.map (Text.spaces 8 ++ ·) ++
    [("    </file>" : Text)]

def header : Text := "<?xml version=\"1.0\" encoding=\"utf-8\"?>"

end ScriptLint.Xml

namespace ScriptLint.Report

def xmlLines? (r : Report) : Option (List Text) := do
  let files ← r.results.mapM Xml.fileLines?
  return Xml.header :: "<jshint>" :: files.flatten ++ [("</jshint>" : Text)]

def xml? (r : Report) : Option Text := r.xmlLines?.map (Text.join "\n")

end ScriptLint.Report
