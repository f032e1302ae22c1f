import ScriptLint.Proofs.Config.Overrides

/-!
# Overrides after overrides

Overrides act on configurations: those that set nothing leave every configuration as it is, and two
of them that are merged one after the other are merged at once if the later is laid over the
earlier. For the options this rests on a law of ordered maps: entries may be put into a list of
their own before they are put into another one. It fails where an option is named by octets in the
earlier overrides and by a text in the later ones: these are two keys of one mapping, though they
name one option.
-/

namespace ScriptLint.Config

/-! ### Options in two steps -/

end ScriptLint.Config
