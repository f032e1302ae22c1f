import ScriptLint.Script.Bundled

/-!
# Where the linter script is

A linter script that is asked for is the one that is used, or none is. Otherwise it is a bundled
one, or one that a project has installed: in the nearest directory, from the one where the search
starts up to the root, that has it.
-/

namespace ScriptLint.Script

/-- The bundled linter script. -/
def linterResource : Text := "jshint.js"

/-- Where a project that has installed the linter has its script. -/
def installed : Path := Path.ofText "node_modules/jshint/dist/jshint.js"

/-- A directory and all it is in, the nearest first. -/
def ancestors (root : Root) : (names : List Text) → List Path
  | names => (List.range (names.length + 1)).map fun up => ⟨root, names.take (names.length - up)⟩

/-- The first of some directories that has the linter installed. -/
def firstInstalled (w : Workspace) : List Path → Except FileError (Option Path)
  | [] => .ok none
  | directory :: rest => do
    let candidate := directory.append installed
    if ← w.isFile candidate then return some candidate else firstInstalled w rest

/-- The linter script that is installed in a directory or the nearest one around it. -/
def findInstalled (w : Workspace) (start : Option Path) : Except FileError (Option Path) := do
  let origin ← w.resolve (start.getD w.currentPath)
  firstInstalled w (ancestors origin.root origin.names)

/-- The linter script: the one asked for, or one that is found. -/
def linter (w : Workspace) (asked start : Option Path) : Except Failure Script :=
  match asked with
  | some p => do ofPath w (← (w.expandHome p).mapError .file)
  | none =>
    match bundled linterResource with
    | .ok s => .ok s
    | .error _ => do
      match ← (findInstalled w start).mapError .file with
      | some p => ofPath w p
      | none   => .error (.missingScript .linter)

end ScriptLint.Script
