import ScriptLint.Config.Merge
import ScriptLint.Files.Workspace
import ScriptLint.Toml.Reader

/-!
# Configurations from documents

The settings of a project are the `tool.pyjshint` table of a TOML document: one that is asked for,
which must be there, or else the `pyproject.toml` of the project's directory. In the names of the
table's fields a hyphen stands for an underscore. The linter script may start at a home directory,
and is otherwise found from the directory of the document.
-/

namespace ScriptLint.Config

/-- The name of a project's document. -/
def documentName : Text := "pyproject.toml"

/-- The table that a document is read from. -/
def readDocument (w : Workspace) (p : Path) : Except Failure Toml.Table := do
  let content ← (w.read p).mapError .file
  let t ← (Utf8.decode content).mapError fun e => .file (.undecodable e)
  (Toml.read t).mapError fun
    | .malformed             => .config (.notToml p.text)
    | .integerTooLong digits => .integerTooLong digits

/-- The section of a document for the linter, if it has one. -/
def section? (p : Path) (document : Toml.Table) : Except Failure (Option Toml.Table) :=
  match Entries.get? ("tool" : Text) document with
  | some (.table tool) =>
    match Entries.get? ("pyjshint" : Text) tool with
    | none                => .ok none
    | some (.table found) => .ok (some found)
    | some _              => .error (.config (.notTable p.text))
  | _ => .ok none

/-- The fields that a section gives. -/
def sectionFields (found : Toml.Table) : List (Text × Datum) :=
  Entries.ofList (found.map fun e => (Text.replace '-' '_' e.1, e.2.toDatum))

/-- The path of a linter script that a document names. -/
def anchor (w : Workspace) (document : Path) (script : Text) : Except Failure Path := do
  let p ← (w.expandHome (Path.ofText script)).mapError .file
  return document.parent.append p

/-- The fields with the linter script found from the document. -/
def anchored (w : Workspace) (document : Path) (fields : List (Text × Datum)) :
    Except Failure (List (Text × Datum)) :=
  match Entries.get? Field.linterScript.name fields with
  | some (.text script) => do
    return Entries.put Field.linterScript.name (.path (← anchor w document script)) fields
  | _ => .ok fields

/-- The settings in a document that is there. -/
def ofDocument (w : Workspace) (p : Path) : Except Failure Config := do
  match ← section? p (← readDocument w p) with
  | none => return .default
  | some found =>
    let fields ← anchored w p (sectionFields found)
    (ofFields fields).mapError fun flaws => .config (.flawed (.document p.text) flaws)

/-- The settings of a project. -/
def load (w : Workspace) (root document : Option Path) : Except Failure Config := do
  match document with
  | some p =>
    if ← (w.isFile p).mapError .file then ofDocument w p
    else .error (.config (.noDocument p.text))
  | none =>
    let p := (root.getD w.currentPath).append (Path.ofText documentName)
    if ← (w.isFile p).mapError .file then ofDocument w p else return .default

end ScriptLint.Config
