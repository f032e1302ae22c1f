import ScriptLint.Config.Basic
import ScriptLint.Failure

/-!
# Merging overrides

Overrides are fields that replace those of a configuration. A null override counts as absent, and
options are merged name by name. The result is checked as a whole.
-/

namespace ScriptLint.Config

/-- The options of a configuration with those of an override put into them. -/
def mergeOptions (own : List (Datum × Datum)) : Datum → Except Failure Datum
  | .mapping new => .ok (.mapping (Datum.putMembers own new))
  | v            => .error (.notMapping v.typeName)

/-- Put an override into the fields of a configuration. -/
def override (fields : List (Text × Datum)) (name : Text) (v : Datum) :
    Except Failure (List (Text × Datum)) :=
  match v with
  | .null => .ok fields
  | v =>
    if name = Field.options.name then
      match Entries.get? name fields with
      | some (.mapping own) => do return Entries.put name (← mergeOptions own v) fields
      | _                   => do return Entries.put name (← mergeOptions [] v) fields
    else .ok (Entries.put name v fields)

/-- The fields of a configuration with all overrides put into them. -/
def overridden (c : Config) (overrides : List (Text × Datum)) :
    Except Failure (List (Text × Datum)) :=
  overrides.foldlM (fun fields e => override fields e.1 e.2) c.toFields

/-- The configuration with overrides. -/
def merge (c : Config) (overrides : List (Text × Datum)) : Except Failure Config := do
  let fields ← c.overridden overrides
  (ofFields fields).mapError fun flaws => .config (.flawed .overrides flaws)

end ScriptLint.Config
