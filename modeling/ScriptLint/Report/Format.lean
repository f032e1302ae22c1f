import ScriptLint.Failure
import ScriptLint.Files.Workspace
import ScriptLint.Report.Document
import ScriptLint.Report.Plain
import ScriptLint.Report.Xml

/-!
# Formats of reports
-/

namespace ScriptLint

/-- A format in which reports are written. -/
inductive Format
  | plain
  | xml
  | json
  deriving DecidableEq

namespace Format

def name : Format → Text
  | .plain => "plain"
  | .xml   => "xml"
  | .json  => "json"

def all : List Format := [.plain, .xml, .json]

def ofName? (t : Text) : Option Format := all.find? fun f => f.name = t

/-- The wording for a name that no format has. -/
def unknownMessage (t : Text) : Text :=
  "Unknown report format '" ++ t ++ "' (expected one of: json, plain, xml)"

end Format

namespace Report

/-- The text of a report in a format, unless it has a number that cannot be written. -/
def render? (r : Report) : Format → Option Text
  | .plain => r.plain?
  | .xml   => r.xml?
  | .json  => r.json?

/-- Write a report to a file, making the directories that it is in. -/
def write (r : Report) (f : Format) (p : Path) (w : Workspace) :
    Workspace × Except Failure Unit :=
  match w.makeDirectories p.parent with
  | (w, .error e) => (w, .error (.file e))
  | (w, .ok ())   =>
    match r.render? f with
    | none   => (w, .error .integerUnwritable)
    | some t =>
      let (w, written) := w.writeText p t
      (w, written.mapError .file)

end Report

end ScriptLint
