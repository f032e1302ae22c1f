import ScriptLint.Failure
import ScriptLint.Files.Workspace

/-!
# Scripts
-/

namespace ScriptLint

/-- The text of a script, with the name that messages call it by. -/
structure Script where
  name : Text
  text : Text
  deriving DecidableEq

/-- The script in a file. -/
def Script.ofPath (w : Workspace) (p : Path) : Except Failure Script := do
  if ← (w.isFile p).mapError .file then
    let t ← (w.readText p).mapError .file
    return ⟨p.text, t⟩
  else .error (.missingScript (.file p.text))

end ScriptLint
