import ScriptLint.Text.Basic

/-!
# Logs
-/

namespace ScriptLint

/-- What a run tells on the way. -/
inductive LogEntry
  | progress (message : Text)
  | problem (message : Text)
  deriving DecidableEq

end ScriptLint
