import ScriptLint.Number.Binary64
import ScriptLint.OrderedMap
import ScriptLint.Text.Basic

/-!
# JSON values

The values that pass between a script interpreter and its host, and that a report is written as.
Integers are exact, and numbers with a fraction or an exponent are binary64. The members of an
object keep their order.
-/

namespace ScriptLint

/-- A JSON value. -/
inductive Json
  | null
  | bool (b : Bool)
  | int (n : Int)
  | float (x : Binary64)
  | string (t : Text)
  | array (items : List Json)
  | object (members : List (Text × Json))
  deriving Inhabited

namespace Json

def kind : Json → Text
  | .null              => "null"
  | .bool _            => "boolean"
  | .int _ | .float _  => "number"
  | .string _          => "string"
  | .array _           => "array"
  | .object _          => "object"

/-- The member of an object under a name, null for a name that is not there. -/
def member (members : List (Text × Json)) (name : Text) : Json :=
  (Entries.get? name members).getD .null

end Json

end ScriptLint
