import ScriptLint.Script.Basic

/-!
# Bundled scripts

The driver script, which calls the linter once for the file that is bound and appends what it
found to the collected errors. No linter script is bundled.
-/

namespace ScriptLint.Script

/-- The lines of the driver script. -/
def driverLines : List String :=
  ["// SPDX-License-Identifier: MIT",
   "// Copyright (c) 2025 Blackcat Informatics® Inc.",
   "//",
   "// Lints currentCode with the options bound in jsHintOpts and appends every",
   "// reported error to the errors array. Runs once per file; the host resets",
   "// currentFile, currentCode and errors before each run.",
   "var passed = JSHINT(currentCode, jsHintOpts);",
   "if (!passed) \x7b",
   "    var reported = JSHINT.errors || [];",
   "    for (var i = 0; i < reported.length; i++) \x7b",
   "        errors.push(reported[i]);",
   "    \x7d",
   "\x7d"]

/-- The scripts that are bundled, by name. -/
def bundle : List (Text × Text) :=
  [("jshint-runner.js", driverLines.flatMap fun line => Text.ofString line ++ "\n")]

/-- The bundled script of a name, which may be written as a path. -/
def bundled (name : Text) : Except Failure Script :=
  let p := Path.ofText name
  match bundle.find? fun e => p.root = .current && p.names = [e.1] with
  | some (_, text) => .ok ⟨"/" ++ name, text⟩
  | none           => .error (.missingScript (.bundled name))

def driver : Except Failure Script := bundled "jshint-runner.js"

end ScriptLint.Script
