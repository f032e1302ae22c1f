import ScriptLint.Json.Basic
import ScriptLint.Text.Basic

/-!
# Script interpreters

An interpreter evaluates source texts in one global scope. An evaluation gives a value, or raises
a fault of the interpreter or something foreign to it, and may change the interpreter's state
either way. A recorded interpreter keeps what it was sent.
-/

namespace ScriptLint

/-- What an evaluation raised. -/
inductive Raised
  | fault (message : Text)
  | foreign (kind message : Text)
  deriving DecidableEq

/-- An interpreter with states in `σ`. -/
structure Interpreter (σ : Type) where
  eval : Text → σ → Except Raised Json × σ
  close : σ → σ

namespace Interpreter

/-- What a record says when an interpreter is closed. -/
def closeRecord : Text := "<close>"

/-- The interpreter that also records, in order, the sources it is sent and that it is closed. -/
def recorded (i : Interpreter σ) : Interpreter (σ × List Text) where
  eval source s :=
    let (r, inner) := i.eval source s.1
    (r, inner, s.2 ++ [source])
  close s := (i.close s.1, s.2 ++ [closeRecord])

end Interpreter

end ScriptLint
