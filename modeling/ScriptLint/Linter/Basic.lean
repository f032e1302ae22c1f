import ScriptLint.Json.Basic

/-!
# Linters

A linter, seen from outside: what it finds in a source text under given options, or why it fails.
-/

namespace ScriptLint

/-- The records that a linter reports for a source and options, or the message it fails with. -/
abbrev Linter := (code options : Json) → Except Text (List Json)

/-- What a script does when it is loaded: it defines a linter or none, or fails with a message. -/
abbrev Catalogue := (source : Text) → Except Text (Option Linter)

end ScriptLint
