import ScriptLint.Config.Error
import ScriptLint.Text.Blank
import ScriptLint.Text.Case

/-!
# Option tokens

An option is given as a name, which switches it on, or as a name, an equals sign and a value. Only
`true`, in any case, switches it on then.
-/

namespace ScriptLint.OptionToken

/-- Whether a value switches an option on. -/
def isTrue (value : Text) : Bool := value.trim.lower = "true"

/-- The name and the value that a token gives. -/
def parse (token : Text) : Except ConfigError (Text × Bool) :=
  let (name, value?) := Text.cut '=' token
  if name.trim = [] then .error (.unnamedOption token)
  else match value? with
  | none       => .ok (name.trim, true)
  | some value => .ok (name.trim, isTrue value)

end ScriptLint.OptionToken
