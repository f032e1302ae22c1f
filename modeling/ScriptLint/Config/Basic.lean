import ScriptLint.Datum.Checks
import ScriptLint.Linter.Options
import ScriptLint.Report.Format

/-!
# Configurations

The settings of a run: the linter script, the options of the linter, the format of the report, and
the file it is written to. A configuration is made of fields that a caller gives; all flaws of the
fields are collected, in the order of the fields, with unknown fields last.
-/

namespace ScriptLint

/-- The settings of a run. -/
structure Config where
  linterScript : Option Path
  options : Options
  output : Format
  outputPath : Option Path

namespace Config

/-- The settings of a run for which nothing was set. -/
def default : Config := ⟨none, .empty, .plain, none⟩

/-- The fields of a configuration. -/
inductive Field
  | linterScript
  | options
  | output
  | outputPath
  deriving DecidableEq

def Field.name : Field → Text
  | .linterScript => "linter_script"
  | .options      => "options"
  | .output       => "output"
  | .outputPath   => "output_path"

def Field.all : List Field := [.linterScript, .options, .output, .outputPath]

def Field.ofName? (name : Text) : Option Field := Field.all.find? fun f => f.name = name

/-- The format that a caller gives. -/
def asFormat : Datum → Except Check Format
  | .text t =>
    match Format.ofName? t with
    | some f => .ok f
    | none   => .error .format
  | _ => .error .format

/-- The flaws of an option: its key must be a name, and its value a truth value. -/
def optionFlaws (key value : Datum) : List Flaw :=
  let here : List Text := [Field.options.name, key.label]
  (match key.asText with
    | .ok _        => []
    | .error check => [⟨here ++ [("[key]" : Text)], check⟩]) ++
  (match value.asBool with
    | .ok _        => []
    | .error check => [⟨here, check⟩])

/-- The entry of an option, if it has no flaws. -/
def optionEntry? (m : Datum × Datum) : Option (Text × Bool) :=
  match m.1.asText, m.2.asBool with
  | .ok name, .ok b => some (name, b)
  | _, _            => none

/-- The options that a caller gives. -/
def asOptions : Datum → Except (List Flaw) Options
  | .mapping members =>
    match members.flatMap fun m => optionFlaws m.1 m.2 with
    | []    => .ok (.ofList (members.filterMap optionEntry?))
    | flaws => .error flaws
  | _ => .error [⟨[Field.options.name], .mapping⟩]

def set (c : Config) (field : Field) (v : Datum) : Except (List Flaw) Config :=
  let only (check : Check) : List Flaw := [⟨[field.name], check⟩]
  match field with
  | .linterScript => v.asPath.mapError only |>.map fun p => { c with linterScript := p }
  | .options      => (asOptions v).map fun options => { c with options }
  | .output       => (asFormat v).mapError only |>.map fun output => { c with output }
  | .outputPath   => v.asPath.mapError only |>.map fun p => { c with outputPath := p }

/-- Set a field by its name. -/
def assign (c : Config) (name : Text) (v : Datum) : Except (List Flaw) Config :=
  match Field.ofName? name with
  | some field => c.set field v
  | none       => .error [⟨[name], .knownAttribute name⟩]

/-- Set fields to what is given for them, from the first field on. The configuration so far comes
with the flaws so far. -/
def setAll (given : List (Text × Datum)) : List Field → Config × List Flaw → Config × List Flaw
  | [], so => so
  | field :: fields, (c, flaws) =>
    match (Entries.get? field.name given).map (c.set field) with
    | none              => setAll given fields (c, flaws)
    | some (.ok c)      => setAll given fields (c, flaws)
    | some (.error new) => setAll given fields (c, flaws ++ new)

/-- The flaws of the names that are no fields. -/
def unknownFlaws (given : List (Text × Datum)) : List Flaw :=
  (given.filter fun e => (Field.ofName? e.1).isNone).map fun e => ⟨[e.1], .knownField⟩

/-- The configuration of the given fields, each given once, or all their flaws. -/
def ofFields (given : List (Text × Datum)) : Except (List Flaw) Config :=
  let (c, flaws) := setAll given Field.all (default, [])
  match flaws ++ unknownFlaws given with
  | []    => .ok c
  | flaws => .error flaws

/-- The value of a field as a caller would give it. -/
def get (c : Config) : Field → Datum
  | .linterScript => (c.linterScript.map Datum.path).getD .null
  | .options      => .mapping c.options
  | .output       => .text c.output.name
  | .outputPath   => (c.outputPath.map Datum.path).getD .null

/-- All fields as a caller would give them. -/
def toFields (c : Config) : List (Text × Datum) := Field.all.map fun f => (f.name, c.get f)

end Config

end ScriptLint
