import ScriptLint.Datum.Basic
import ScriptLint.Json.Printer

/-!
# Callers' values as JSON

A value has a JSON form if all its parts have one. A tuple is an array, and a key that is a
number, a truth value or null is the text of its JSON form. An integer that cannot be written has
none.
-/

namespace ScriptLint

/-- Why a value has no JSON form. -/
inductive MarshalError
  | unsupported (typeName : Text)
  | unsupportedKey (typeName : Text)
  | circular
  | integerUnwritable
  deriving DecidableEq

def MarshalError.message : MarshalError → Text
  | .unsupported name    => "Object of type " ++ name ++ " is not JSON serializable"
  | .unsupportedKey name => "keys must be str, int, float, bool or None, not " ++ name
  | .circular            => "Circular reference detected"
  | .integerUnwritable   => Text.tooLongToWrite

namespace Datum

/-- The name of the member that a key stands for. -/
def memberName : Datum → Except MarshalError Text
  | .text t  => .ok t
  | .null    => .ok (Json.print .inline .null)
  | .bool b  => .ok (Json.print .inline (.bool b))
  | .int n   => (Text.ofInt? n).elim (.error .integerUnwritable) .ok
  | .float x => .ok (Json.print .inline (.float x))
  | k        => .error (.unsupportedKey k.typeName)

mutual

/-- The JSON form of a value. -/
def toJson : Datum → Except MarshalError Json
  | .null       => .ok .null
  | .bool b     => .ok (.bool b)
  | .int n      => if IsShort n then .ok (.int n) else .error .integerUnwritable
  | .float x    => .ok (.float x)
  | .text t     => .ok (.string t)
  | .bytes b    => .error (.unsupported (Datum.bytes b).typeName)
  | .list vs    => .array <$> toJsonItems vs
  | .tuple vs   => .array <$> toJsonItems vs
  | .mapping ms => .object <$> toJsonMembers ms
  | .path p     => .error (.unsupported (Datum.path p).typeName)
  | .circular   => .error .circular
  | .foreign n  => .error (.unsupported n)

def toJsonItems : List Datum → Except MarshalError (List Json)
  | [] => .ok []
  | v :: vs => do
    let v ← toJson v
    let vs ← toJsonItems vs
    return v :: vs

def toJsonMembers : List (Datum × Datum) → Except MarshalError (List (Text × Json))
  | [] => .ok []
  | (k, v) :: ms => do
    let name ← memberName k
    let v ← toJson v
    let ms ← toJsonMembers ms
    return (name, v) :: ms

end

end Datum

end ScriptLint
