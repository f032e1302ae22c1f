import ScriptLint.Text.Basic

/-!
# Names of the linter's globals

What the linter script, the driver script and the host call one another's values.
-/

namespace ScriptLint.Global

/-- The name of the file that is linted. -/
def currentFile : Text := "currentFile"

/-- The text of the file that is linted. -/
def currentCode : Text := "currentCode"

/-- The options of the linter. -/
def options : Text := "jsHintOpts"

/-- The errors collected so far. -/
def errors : Text := "errors"

/-- The function that lints. -/
def entryPoint : Text := "JSHINT"

/-- The function that the driver script is the body of. -/
def driver : Text := "__pyjshintDriver"

/-- The option that tells the linter which globals the linted code may assume. -/
def platformOption : Text := "rhino"

/-- The source that asks what the entry point is. -/
def entryQuery : Text := "typeof " ++ entryPoint

/-- The answer if the entry point is there. -/
def entryAnswer : Text := "function"

/-- The source that runs the driver. -/
def driverCall : Text := driver ++ "();"

/-- The source that defines the driver as a function with a script as its body. -/
def driverDefinition (script : Text) : Text :=
  "globalThis." ++ driver ++ " = function () \x7b\n" ++ script ++ "\n\x7d;"

end ScriptLint.Global
