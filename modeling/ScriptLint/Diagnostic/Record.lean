import ScriptLint.Diagnostic.Basic
import ScriptLint.Json.Basic

/-!
# Diagnostics from records

A linter script reports records of any shape. A record is a diagnostic if it is an object whose
`reason` and `evidence` are strings and whose `line` and `character` are numbers without a
fraction, and if these make a diagnostic; other members do not matter. Unlike a caller's fields,
a truth value or a text is no number here.
-/

namespace ScriptLint

/-- Why a record is no diagnostic. -/
inductive Malformed
  | notObject (kind : Text)
  | notString (field kind : Text)
  | notNumber (field kind : Text)
  | notWhole (field : Text) (x : Binary64)
  | flawed (flaws : List Flaw)
  deriving DecidableEq

/-- The wording of the reason; of several flaws the first counts. -/
def Malformed.message : Malformed → Text
  | .notObject kind       => "Expected an error object, got " ++ kind
  | .notString field kind => "Field '" ++ field ++ "' must be a string, got " ++ kind
  | .notNumber field kind => "Field '" ++ field ++ "' must be a number, got " ++ kind
  | .notWhole field x     =>
    "Field '" ++ field ++ "' must be a whole number, got " ++ x.text Binary64.inMessages
  | .flawed flaws         => "Invalid error record: " ++ (flaws.head?.map Flaw.message).getD []

namespace Diagnostic

/-- A member that must be a string. -/
def stringMember (members : List (Text × Json)) (name : Text) : Except Malformed Text :=
  match Json.member members name with
  | .string t => .ok t
  | v         => .error (.notString name v.kind)

/-- A member that must be an integer, or a number that is one. -/
def integerMember (members : List (Text × Json)) (name : Text) : Except Malformed Int :=
  match Json.member members name with
  | .int n   => .ok n
  | .float x =>
    match x.toInt? with
    | some n => .ok n
    | none   => .error (.notWhole name x)
  | v        => .error (.notNumber name v.kind)

/-- The diagnostic that a record reports. -/
def ofRecord : Json → Except Malformed Diagnostic
  | .object members => do
    let reason ← stringMember members "reason"
    let evidence ← stringMember members "evidence"
    let line ← integerMember members "line"
    let character ← integerMember members "character"
    (ofFields ⟨some (.text reason), some (.text evidence), some (.int line),
      some (.int character)⟩).mapError .flawed
  | v => .error (.notObject v.kind)

end Diagnostic

end ScriptLint
