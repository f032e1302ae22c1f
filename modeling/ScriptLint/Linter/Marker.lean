import ScriptLint.Linter.Basic
import ScriptLint.Linter.Scripts
import ScriptLint.Text.Lines

/-!
# The marker linter

What the script that looks for markers does. Every line is searched for each marker in turn, and
columns count in UTF-16 units. Some markers call for records without the shape of a diagnostic,
and one makes the linter fail.
-/

namespace ScriptLint.Linter.Marker

/-- The column at which a marker first starts in a line, from one. -/
def column? (marker line : Text) : Option Nat :=
  (Text.before? marker line).map fun before => before.units16 + 1

def record (reason line : Text) (number : Nat) (character : Json) : Json :=
  .object [("reason", .string reason), ("evidence", .string line), ("line", .int number),
    ("character", character)]

/-- Whether an option is on. -/
def isOn (options : Json) (name : Text) : Bool :=
  match options with
  | .object members =>
    match Json.member members name with
    | .bool b => b
    | _       => false
  | _ => false

/-- The records for a line before anything that could make the linter fail. -/
def findings (options : Json) (line : Text) (number : Nat) : List Json :=
  (match column? "debugger" line with
    | some c => [record "Forgotten 'debugger' statement?" line number (.int c)]
    | none   => []) ++
  (match column? "==" line with
    | some c =>
      if isOn options "eqeqeq" && !line.holds "===" then
        [record "Expected '===' and instead saw '=='." line number (.int c)]
      else []
    | none => []) ++
  (if isOn options "rhino" && line.holds "@platform" then
    [record "Platform flag is set" line number (.int 1)] else []) ++
  (if line.holds "@malformed" then
    [.object [("reason", .string "Record without a position"), ("evidence", .string line)],
     .null,
     .object [("reason", .string "Record with a textual line"), ("evidence", .string line),
       ("line", .string "one"), ("character", .int 1)],
     record "Record with a boolean column" line number (.bool true)] else []) ++
  (if line.holds "@null" then [.null] else [])

/-- The records for lines, the first of which has the given number. -/
def lintLines (options : Json) : (number : Nat) → List Text → Except Text (List Json)
  | _, [] => .ok []
  | number, line :: lines =>
    if line.holds "@crash" then .error "Error: linter crashed"
    else do return findings options line number ++ (← lintLines options (number + 1) lines)

def linter : Linter := fun code options =>
  match code with
  | .string t => lintLines options 1 t.lines
  | _         => .ok []

end ScriptLint.Linter.Marker

namespace ScriptLint.Linter

/-- What the known scripts do. Any other script defines nothing. -/
def known : Catalogue := fun source =>
  if source = markerScript then .ok (some Marker.linter)
  else if source = brokenScript then .error "SyntaxError: Unexpected token '\x7b'"
  else .ok none

end ScriptLint.Linter
