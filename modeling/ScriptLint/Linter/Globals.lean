import ScriptLint.Interpreter.Engine
import ScriptLint.Interpreter.Names
import ScriptLint.Linter.Basic

/-!
# An engine of globals

An engine that is a store of globals and knows the linters that scripts define. Running the driver
appends what the linter finds to the collected errors; a linter that fails leaves them as they
were.
-/

namespace ScriptLint

/-- The globals of an engine and the linter that was loaded. -/
structure Globals where
  values : List (Text × Json)
  linter : Option Linter

namespace Globals

def empty : Globals := ⟨[], none⟩

def value (g : Globals) (name : Text) : Json := Json.member g.values name

def bind (g : Globals) (name : Text) (v : Json) : Globals :=
  { g with values := Entries.put name v g.values }

def records : Json → List Json
  | .array vs => vs
  | _         => []

/-- Run the driver: the linter, if there is one, on the source and the options that are bound. -/
def lint (g : Globals) : Except Text Globals :=
  match g.linter with
  | none => .ok g
  | some linter => do
    let found ← linter (g.value Global.currentCode) (g.value Global.options)
    return g.bind Global.errors (.array (records (g.value Global.errors) ++ found))

end Globals

/-- The engine of globals for the scripts of a catalogue. The definition of the driver loads no
linter. -/
def Engine.ofGlobals (catalogue : Catalogue) : Engine Globals where
  loadScript name source := fun g =>
    match catalogue source with
    | .ok (some linter) => (.ok (), { g with linter := some linter })
    | .ok none          => (.ok (), g)
    | .error message    => (.error (.evaluation (.fault name message)), g)
  bindGlobal name v := fun g => (.ok (), g.bind name v)
  evaluate source := fun g =>
    if source = Global.entryQuery then
      (.ok (.string (if g.linter.isSome then Global.entryAnswer else "undefined")), g)
    else if source = Global.driverCall then
      match g.lint with
      | .ok g          => (.ok .null, g)
      | .error message => (.error (.evaluation (.fault Engine.evaluationLabel message)), g)
    else (.ok .null, g)
  readGlobal name := fun g => (.ok (g.value name), g)
  close g := g

end ScriptLint
