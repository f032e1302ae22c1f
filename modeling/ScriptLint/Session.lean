import ScriptLint.Interpreter.Engine
import ScriptLint.Interpreter.Names
import ScriptLint.Linter.Options
import ScriptLint.Script.Basic

/-!
# Sessions

A session has the linter loaded and the driver defined, and lints one file after another in the
same scope: bind the file, reset the collected errors, run the driver, read the errors. Options
are bound once. A step that comes out of this order is refused before anything is sent to the
engine; a step that fails on the way leaves the session as it was, apart from the engine.
-/

namespace ScriptLint

/-- How far a session is with its file. -/
inductive Phase
  | idle
  | fileBound
  | evaluated
  | read
  deriving DecidableEq

/-- A session with an engine in a state of `σ`. -/
structure Session (σ : Type) where
  engine : σ
  phase : Phase
  optionsBound : Bool
  errorsReset : Bool
  /-- The file that was last bound. -/
  currentFile : Option Text

namespace Session

variable {σ α : Type}

/-- A session whose engine has the linter and the driver. -/
def start (engine : σ) : Session σ := ⟨engine, .idle, false, false, none⟩

/-- A step of the engine of a session. -/
def ofEngine (a : Action σ α) : Action (Session σ) α := fun s =>
  let (r, engine) := a s.engine
  (r, { s with engine })

/-- Refuse a step unless it is in order. -/
def inOrder (ok : Session σ → Bool) (e : OutOfOrder) : Action (Session σ) Unit := do
  if ¬ ok (← get) then throw (.outOfOrder e)

/-- Load the linter and define the driver. -/
def prepare (e : Engine σ) (linter driver : Script) : Action σ Unit := do
  e.loadScript linter.name linter.text
  match ← e.evaluate Global.entryQuery with
  | .string answer =>
    if answer ≠ Global.entryAnswer then throw (.load (.noEntryPoint linter.name))
  | _ => throw (.load (.noEntryPoint linter.name))
  e.loadScript driver.name (Global.driverDefinition driver.text)
  e.bindGlobal Global.currentFile (.string [])
  e.bindGlobal Global.currentCode (.string [])

/-- A failed evaluation while scripts are loaded means that they cannot be used. -/
def loadFailure : Failure → Failure
  | .evaluation e => .load (.failed e)
  | f             => f

/-- Open a session on a new engine, which is closed if the scripts cannot be loaded. -/
def begin (e : Engine σ) (linter driver : Script) (engine : σ) : Except Failure (Session σ) × σ :=
  match prepare e linter driver engine with
  | (.ok (), engine)   => (.ok (start engine), engine)
  | (.error f, engine) => (.error (loadFailure f), e.close engine)

/-- The options that are bound: the platform is assumed unless the caller says otherwise. -/
def effectiveOptions (options : Options) : Options :=
  (OrderedMap.ofList [(Global.platformOption, true)]).union options

def optionsObject (options : Options) : Json :=
  .object ((effectiveOptions options).entries.map fun e => (e.1, .bool e.2))

/-- Bind the options of the linter that a caller gives. -/
def setOptions (e : Engine σ) (given : Options.Given) : Action (Session σ) Unit := do
  inOrder (fun s => !s.optionsBound) .optionsTwice
  match Options.ofGiven? given with
  | none         => throw .integerUnwritable
  | some options =>
    ofEngine (e.bindGlobal Global.options (optionsObject options))
    modify fun s => { s with optionsBound := true }

/-- Bind the file that is linted next. -/
def setCurrentFile (e : Engine σ) (name content : Text) : Action (Session σ) Unit := do
  ofEngine (e.bindGlobal Global.currentFile (.string name))
  ofEngine (e.bindGlobal Global.currentCode (.string content))
  modify fun s => { s with currentFile := some name, errorsReset := false, phase := .fileBound }

/-- Bind an empty collection of errors for the file that is bound. -/
def resetErrors (e : Engine σ) : Action (Session σ) Unit := do
  inOrder (fun s => s.phase = .fileBound) .resetWithoutFile
  ofEngine (e.bindGlobal Global.errors (.array []))
  modify fun s => { s with errorsReset := true }

/-- Run the driver on the file that is bound. -/
def evaluate (e : Engine σ) : Action (Session σ) Unit := do
  inOrder (fun s => s.optionsBound) .evaluateWithoutOptions
  inOrder (fun s => s.phase = .fileBound && s.errorsReset) .evaluateWithoutFile
  let _ ← ofEngine (e.evaluate Global.driverCall)
  modify fun s => { s with phase := .evaluated }

/-- Read the records of the errors collected for the file that is bound. -/
def readErrors (e : Engine σ) : Action (Session σ) (List Json) := do
  inOrder (fun s => s.phase = .evaluated || s.phase = .read) .readWithoutEvaluation
  match ← ofEngine (e.readGlobal Global.errors) with
  | .array records =>
    modify fun s => { s with phase := .read }
    return records
  | v => throw (.evaluation (.notArray Global.errors v.kind))

def close (e : Engine σ) (s : Session σ) : Session σ := { s with engine := e.close s.engine }

end Session

end ScriptLint
