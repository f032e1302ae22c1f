import ScriptLint.Proofs.CommandLine.Sequences
import ScriptLint.Proofs.CommandLine.Switches
import ScriptLint.Proofs.Json.Ascii
import ScriptLint.Proofs.Run.Store
import ScriptLint.Proofs.Text.Utf8
import ScriptLint.Proofs.Xml.RoundTrip

/-!
# The standard output

The standard output is for the report alone: it gets the report as it is rendered, unless there is a
path for it, and no messages. Only plain reports can hold what a terminal takes for more than text,
which is left out elsewhere, or what has no encoded form.
-/

namespace ScriptLint

namespace CommandLine

/-! ### What is printed -/

/-- A text and how it is shown on a stream: a terminal gets it as it is. -/
def Shown (s : Terminal.Stream) (t shown : Text) : Prop :=
  if s.isTerminal then shown = t else Stripped t shown

/-- Without escapes a text is shown as it is. -/
lemma Shown.eq {s : Terminal.Stream} {t shown : Text} (h : Shown s t shown) (he : escape ∉ t) :
    shown = t := by
  rw [Shown] at h
  split_ifs at h
  · exact h
  · exact h.unique (.refl_of_notMem he)

section Report

variable {config : Config} {report : Report}

end Report

variable {σ : Type} (e : Engine σ) (engine : σ) (streams : Streams) (w : Workspace)

end CommandLine

end ScriptLint
