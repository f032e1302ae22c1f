import ScriptLint.Diagnostic.Record
import ScriptLint.Log
import ScriptLint.Report.Plain
import ScriptLint.Script.Location
import ScriptLint.Session

/-!
# Runs

A run lints files one after another in one session and collects the results in a report. Records
that are no diagnostics are skipped. The log tells of every diagnostic and of every record that
was skipped, if anyone wants it; the run is the same without one.
-/

namespace ScriptLint

namespace Run

/-- A session and the log so far, if one is kept. -/
structure State (σ : Type) where
  session : Session σ
  log : Option (List LogEntry)

/-- The message on a record, counted from one, that is no diagnostic. -/
def skipped (file : Text) (number : Nat) (e : Malformed) : LogEntry :=
  .problem ("Skipping malformed error #" ++ Text.ofNat number ++ " reported for " ++ file ++ ": " ++
    e.message)

/-- The diagnostics among records, the first of which has the given number, and the messages on
the others. -/
def sift (file : Text) : (number : Nat) → List Json → List Diagnostic × List LogEntry
  | _, [] => ([], [])
  | number, record :: records =>
    let (diagnostics, problems) := sift file (number + 1) records
    match Diagnostic.ofRecord record with
    | .ok d    => (d :: diagnostics, problems)
    | .error e => (diagnostics, skipped file number e :: problems)

/-- The text of a file to be linted. -/
def readSource (w : Workspace) (name : Text) : Except Failure Text :=
  let p := Path.ofText name
  (w.readText p).mapError fun
    | .undecodable e => .undecodableSource p.text e.reason e.start
    | e              => .file e

variable {σ : Type}

/-- A step of the session of a run. -/
def ofSession (a : Action (Session σ) α) : Action (State σ) α := fun s =>
  let (r, session) := a s.session
  (r, { s with session })

def tell (messages : List LogEntry) : Action (State σ) Unit :=
  modify fun s => { s with log := s.log.map (· ++ messages) }

/-- Tell of diagnostics one by one. Their lines are written whether or not anyone wants them. -/
def tellAll : List Diagnostic → Action (State σ) Unit
  | [] => return ()
  | d :: diagnostics =>
    match d.text? with
    | none      => throw .integerUnwritable
    | some line => do
      tell [.progress line]
      tellAll diagnostics

/-- Tell of the diagnostics of a file, if it has any. -/
def announce (r : FileResult) : Action (State σ) Unit := do
  if r.hasErrors then
    tell [.progress (Text.fileFailure r.file)]
    tellAll r.diagnostics

/-- Tell of the records of a file and give the result. -/
def collect (name : Text) (records : List Json) : Action (State σ) FileResult := do
  let (diagnostics, problems) := sift name 1 records
  tell problems
  let result : FileResult := ⟨name, diagnostics⟩
  announce result
  return result

def lintFile (e : Engine σ) (w : Workspace) (name : Text) : Action (State σ) FileResult := do
  let code ← ExceptT.mk (pure (readSource w name))
  ofSession (Session.setCurrentFile e name code)
  ofSession (Session.resetErrors e)
  ofSession (Session.evaluate e)
  collect name (← ofSession (Session.readErrors e))

def lintFiles (e : Engine σ) (w : Workspace) : List Text → Report → Action (State σ) Report
  | [], report => return report
  | name :: names, report => do
    let result ← lintFile e w name
    match report.add result with
    | .ok report => lintFiles e w names report
    | .error f   => throw (.reportFull f)

/-- Bind the options and lint all files. -/
def body (e : Engine σ) (w : Workspace) (given : Options.Given) (files : List Text) :
    Action (State σ) Report := do
  ofSession (Session.setOptions e given)
  lintFiles e w files (.empty files.length)

/-- What a run gives: a report or what ended it, and the log. -/
structure Outcome where
  result : Except Failure Report
  log : List LogEntry

/-- The linter script and the driver script. -/
def scripts (w : Workspace) (linter : Option Path) : Except Failure (Script × Script) := do
  let linter ← Script.linter w linter none
  let driver ← Script.driver
  return (linter, driver)

/-- Run the scripts in a new session on a new engine, which is closed in the end. -/
def inSession (e : Engine σ) (w : Workspace) (linter driver : Script) (given : Options.Given)
    (files : List Text) (log : Option (List LogEntry)) (engine : σ) : Outcome × σ :=
  match Session.begin e linter driver engine with
  | (.error f, engine) => (⟨.error f, log.getD []⟩, engine)
  | (.ok session, _) =>
    let (result, s) := body e w given files ⟨session, log⟩
    (⟨result, s.log.getD []⟩, (s.session.close e).engine)

/-- Lint files with the linter script asked for or found, on a new engine. The log is started with
what is given for it; without that none is kept. -/
def lintLogging (e : Engine σ) (w : Workspace) (linter : Option Path) (given : Options.Given)
    (files : List Text) (log : Option (List LogEntry)) (engine : σ) : Outcome × σ :=
  match scripts w linter with
  | .error f => (⟨.error f, log.getD []⟩, engine)
  | .ok (linter, driver) => inSession e w linter driver given files log engine

/-- Lint files and keep a log. -/
def lint (e : Engine σ) (w : Workspace) (linter : Option Path) (given : Options.Given)
    (files : List Text) (engine : σ) : Outcome × σ :=
  lintLogging e w linter given files (some []) engine

/-- Lint files without a log. -/
def lintSilently (e : Engine σ) (w : Workspace) (linter : Option Path) (given : Options.Given)
    (files : List Text) (engine : σ) : Except Failure Report × σ :=
  let (outcome, engine) := lintLogging e w linter given files none engine
  (outcome.result, engine)

end Run

end ScriptLint
