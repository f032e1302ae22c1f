import ScriptLint.Config.Error
import ScriptLint.Datum.Marshal
import ScriptLint.Files.Error
import ScriptLint.Json.Reader
import ScriptLint.Report.Basic

/-!
# Failures

All that can end an operation, each kind with its causes.
-/

namespace ScriptLint

/-- A script that is not there. -/
inductive MissingScript
  | file (path : Text)
  | bundled (name : Text)
  /-- No linter script was given, and none is installed. -/
  | linter
  deriving DecidableEq

def MissingScript.message : MissingScript → Text
  | .file path    => "Script source " ++ path ++ " does not exist"
  | .bundled name => "Bundled script " ++ name ++ " is not available"
  | .linter       =>
    "No JSHint source found: pass a linter script path or install the 'jshint' npm package " ++
      "into the project"

/-- An evaluation that gave no usable value. -/
inductive EvaluationError
  /-- The interpreter failed in what the label names. -/
  | fault (label message : Text)
  /-- A value for a global has no JSON form. -/
  | unmarshallable (global : Text) (e : MarshalError)
  /-- What was read of a global is not JSON. -/
  | unreadable (global : Text) (e : Json.ReadError)
  /-- A global that must be an array is something else. -/
  | notArray (global kind : Text)
  deriving DecidableEq

def EvaluationError.message : EvaluationError → Text
  | .fault label message     => label ++ ": " ++ message
  | .unmarshallable global e => "Cannot marshal value for global '" ++ global ++ "': " ++ e.message
  | .unreadable global e     => "Global '" ++ global ++ "' did not serialise to JSON: " ++ e.message
  | .notArray global kind    => "Expected '" ++ global ++ "' to be an array, got " ++ kind

/-- A script that cannot be used. -/
inductive LoadError
  | noEntryPoint (script : Text)
  | failed (e : EvaluationError)
  deriving DecidableEq

def LoadError.message : LoadError → Text
  | .noEntryPoint script => script ++ " does not define a JSHINT function"
  | .failed e            => "Failed to load script: " ++ e.message

/-- A step of a session that came too early or too late. -/
inductive OutOfOrder
  | optionsTwice
  | resetWithoutFile
  | evaluateWithoutOptions
  | evaluateWithoutFile
  | readWithoutEvaluation
  deriving DecidableEq

def OutOfOrder.message : OutOfOrder → Text
  | .optionsTwice           => "Linter options are bound once per session"
  | .resetWithoutFile       => "Bind a file before resetting the error collection"
  | .evaluateWithoutOptions => "Bind linter options before evaluating"
  | .evaluateWithoutFile    => "Bind a file and reset the error collection before evaluating"
  | .readWithoutEvaluation  => "Evaluate the driver before reading errors"

/-- What ended an operation. -/
inductive Failure
  | file (e : FileError)
  | config (e : ConfigError)
  /-- The options of an override are no mapping. -/
  | notMapping (typeName : Text)
  /-- An integer of a document has too many digits. -/
  | integerTooLong (digits : Nat)
  /-- An integer has too many digits to be written. -/
  | integerUnwritable
  | missingScript (e : MissingScript)
  | load (e : LoadError)
  | evaluation (e : EvaluationError)
  /-- A file to be linted is not UTF-8 from an offset on. -/
  | undecodableSource (path : Text) (reason : Utf8.Reason) (offset : Nat)
  | outOfOrder (e : OutOfOrder)
  | reportFull (e : ReportFull)
  /-- An exception that is not the interpreter's own. -/
  | foreign (kind message : Text)
  deriving DecidableEq

namespace Failure

def message : Failure → Text
  | .file e                 => e.message
  | .config e               => e.message
  | .notMapping typeName    => "'" ++ typeName ++ "' object is not a mapping"
  | .integerTooLong digits  => Json.tooLongMessage digits
  | .integerUnwritable      => Text.tooLongToWrite
  | .missingScript e        => e.message
  | .load e                 => e.message
  | .evaluation e           => e.message
  | .undecodableSource path reason offset =>
    "Cannot read " ++ path ++ ": not valid UTF-8 (" ++ reason.message ++ " at byte " ++
      Text.ofNat offset ++ ")"
  | .outOfOrder e           => e.message
  | .reportFull e           => e.message
  | .foreign _ message      => message

end Failure

end ScriptLint
