import ScriptLint.Failure
import ScriptLint.Interpreter.Basic

/-!
# Script engines

An engine is the narrow way in which a session uses an interpreter: it loads scripts, binds and
reads globals, and evaluates sources. Values pass as JSON. A value that is bound is written into
the source as a JSON document, which cannot end the statement it is in; a value that is read comes
back as the text of one.
-/

namespace ScriptLint

/-- A step that may fail and that changes a state either way. -/
abbrev Action (σ α : Type) := ExceptT Failure (StateM σ) α

/-- An engine with states in `σ`. -/
structure Engine (σ : Type) where
  loadScript : (name source : Text) → Action σ Unit
  bindGlobal : (name : Text) → Json → Action σ Unit
  evaluate : (source : Text) → Action σ Json
  readGlobal : (name : Text) → Action σ Json
  close : σ → σ

namespace Engine

/-- The source that binds a global. -/
def bindingSource (name : Text) (v : Json) : Text :=
  "globalThis[" ++ Json.printText name ++ "] = " ++ v.print .inline ++ ";"

/-- The source that gives the JSON text of a global. -/
def readingSource (name : Text) : Text :=
  "JSON.stringify(globalThis[" ++ Json.printText name ++ "])"

/-- The failure that something raised stands for, where `label` names what was evaluated. -/
def failure (label : Text) : Raised → Failure
  | .fault message        => .evaluation (.fault label message)
  | .foreign kind message => .foreign kind message

/-- The label of sources that are evaluated for themselves. -/
def evaluationLabel : Text := "<eval>"

def run (i : Interpreter σ) (label source : Text) : Action σ Json := fun s =>
  match i.eval source s with
  | (.ok v, s)    => (.ok v, s)
  | (.error e, s) => (.error (failure label e), s)

/-- The value of a global, given the answer to the source that reads it. Only a string is a JSON
text; any other answer is null. -/
def decode (name : Text) : Json → Except Failure Json
  | .string t =>
    (Json.read t).mapError fun
      | .integerTooLong digits => .integerTooLong digits
      | e                      => .evaluation (.unreadable name e)
  | _ => .ok .null

/-- The engine that uses an interpreter. -/
def ofInterpreter (i : Interpreter σ) : Engine σ where
  loadScript name source := do let _ ← run i name source
  bindGlobal name v := do let _ ← run i ("bind " ++ name) (bindingSource name v)
  evaluate source := run i evaluationLabel source
  readGlobal name := do
    let answer ← run i ("read " ++ name) (readingSource name)
    ExceptT.mk (pure (decode name answer))
  close := i.close

/-- Bind a global to a value that a caller gives. -/
def bindDatum (e : Engine σ) (name : Text) (v : Datum) : Action σ Unit :=
  match v.toJson with
  | .ok v      => e.bindGlobal name v
  | .error err => throw (.evaluation (.unmarshallable name err))

end Engine

end ScriptLint
