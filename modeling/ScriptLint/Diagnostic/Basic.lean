import ScriptLint.Datum.Checks
import ScriptLint.Number.Written
import ScriptLint.Text.Blank

/-!
# Diagnostics

A diagnostic is one finding of a linter: why a line is at fault, the line, and where in it. The
line is kept without the blanks around it; lines and characters count from one.
-/

namespace ScriptLint

/-- A finding of a linter. -/
structure Diagnostic where
  reason : Text
  evidence : Text
  line : Nat
  character : Nat
  reason_ne_nil : reason ≠ []
  reason_encodable : reason.any CodePoint.isSurrogate = false
  trim_evidence : evidence.trim = evidence
  line_pos : 1 ≤ line
  character_pos : 1 ≤ character
  deriving DecidableEq

namespace Diagnostic

/-- The values of the fields that a diagnostic is made of; none for a field that is not given. -/
structure Fields where
  reason : Option Datum
  evidence : Option Datum
  line : Option Datum
  character : Option Datum

/-- The fields among given ones; the last value of a name counts, and other names are ignored. -/
def Fields.ofList (given : List (Text × Datum)) : Fields :=
  let field (name : Text) := Entries.get? name (Entries.ofList given)
  ⟨field "reason", field "evidence", field "line", field "character"⟩

def required (name : Text) (check : Datum → Except Check α) : Option Datum → Except Flaw α
  | none   => .error ⟨[name], .missing⟩
  | some v => (check v).mapError (⟨[name], ·⟩)

/-- The flaw of a failed check, if it failed. -/
def flaw? : Except Flaw α → Option Flaw
  | .error f => some f
  | .ok _    => none

/-- The diagnostic with the given fields, or the flaws of all fields in their order. -/
def ofFields (fields : Fields) : Except (List Flaw) Diagnostic :=
  let reason := required "reason" Datum.asName fields.reason
  let evidence := required "evidence" Datum.asText fields.evidence
  let line := required "line" Datum.asPosition fields.line
  let character := required "character" Datum.asPosition fields.character
  match reason, evidence, line, character with
  | .ok reason, .ok evidence, .ok line, .ok character =>
    .ok ⟨reason, evidence.trim, line, character, reason.2.1, reason.2.2, Text.trim_trim evidence,
      line.2, character.2⟩
  | _, _, _, _ =>
    .error ([flaw? reason, flaw? evidence, flaw? line, flaw? character].filterMap id)

/-- Assigning to a field of a diagnostic is refused, whatever the name. -/
def assign (_ : Diagnostic) (name : Text) : Flaw := ⟨[name], .frozen⟩

/-- A diagnostic on one line, unless its line or its character cannot be written. -/
def text? (d : Diagnostic) : Option Text := do
  let line ← Text.ofInt? d.line
  let character ← Text.ofInt? d.character
  return d.reason ++ " (evidence: " ++ d.evidence ++ ") at line " ++ line ++ ", character " ++
    character

end Diagnostic

end ScriptLint
