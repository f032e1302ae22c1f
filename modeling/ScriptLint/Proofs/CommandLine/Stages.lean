import ScriptLint.CommandLine.Program
import ScriptLint.Proofs.Files.Writing
import ScriptLint.Proofs.Run.Steps

/-!
# The stages of a command

A command that is understood checks its paths, reads the configuration, looks for the files, makes
the run and emits the report. `runFor` is these stages up to the run, `reportFor` has the report of
the run, and `emission` has it printed or written. What the program does, apart from its messages, is
told by where they stop. A report may stop the command too: the stream or the file for it takes no
text that cannot be encoded.
-/

namespace ScriptLint.CommandLine

/-! ### Stages -/

/-- What stops a command, by the stage that it comes to. -/
inductive Stop
  /-- A path cannot be handed to the file system. -/
  | path (e : FileError)
  /-- There is no configuration. -/
  | config (f : Failure)
  /-- A file to be linted cannot be looked for. -/
  | target (e : FileError)
  /-- The run gives no report. -/
  | run (f : Failure)
  /-- The report cannot be printed or written. -/
  | output (f : Failure)

/-- How the program ends where a stage stops it. -/
def Stop.ending : Stop → Ending
  | .path e             => .crash (.file e)
  | .config (.config e) => .badConfig e
  | .config f           => .crash f
  | .target e           => .crash (.file e)
  | .run f              => if isReported f then .exit 2 else .crash f
  | .output f           => .crash f

section Pipeline

variable {σ : Type} (e : Engine σ) (engine : σ) (w : Workspace) (a : Arguments)

/-- The configuration for arguments and the run. -/
def runFor : Except Stop (Config × Run.Outcome × σ) := do
  (checkPaths a).mapError .path
  let config ← (configFor w a).mapError .config
  let files ← (targets w a.files).1.mapError .target
  return (config, Run.lint e w config.linterScript config.options files engine)

/-- The configuration for arguments and the report of the run. -/
def reportFor : Except Stop (Config × Report) := do
  let (config, outcome, _) ← runFor e engine w a
  let report ← outcome.result.mapError .run
  return (config, report)

/-- What is printed of a report, which is not written. -/
def printedFor (s : Terminal.Stream) (config : Config) (report : Report) : Except Failure Text :=
  match report.render? config.output with
  | none   => .error .integerUnwritable
  | some t => (printed s t).mapError .file

/-- Write a report if there is a path for it, and print it otherwise. -/
def deliver (s : Terminal.Stream) (config : Config) (report : Report) :
    Workspace × Except Failure Text :=
  match config.outputPath with
  | none   => (w, printedFor s config report)
  | some p =>
    ((report.write config.output p w).1, (report.write config.output p w).2.map fun _ => [])

/-- The configuration for arguments and the report of the run, which is printed or written. -/
def emission (s : Terminal.Stream) : Except Stop (Config × Report) := do
  let (config, report) ← reportFor e engine w a
  let _ ← (deliver w s config report).2.mapError .output
  return (config, report)

end Pipeline

/-- What the program does apart from its messages. -/
structure Effect where
  ending : Ending
  out : Text
  workspace : Workspace

def Outcome.effect (o : Outcome) : Effect := ⟨o.ending, o.out, o.workspace⟩

/-- The exit code for a report. -/
def exitCode (report : Report) : Nat := if report.errorCount = 0 then 0 else 1

/-- What is done with a report. -/
def handOver (s : Terminal.Stream) (w : Workspace) (config : Config) (report : Report) : Effect :=
  match deliver w s config report with
  | (w, .error f) => ⟨(Stop.output f).ending, [], w⟩
  | (w, .ok out)  => ⟨.exit (exitCode report), out, w⟩

/-- What is done once there is a report or none. -/
def conclude (s : Terminal.Stream) (w : Workspace) : Except Stop (Config × Report) → Effect
  | .error stop           => ⟨stop.ending, [], w⟩
  | .ok (config, report)  => handOver s w config report

variable {σ : Type} (e : Engine σ) (engine : σ) (streams : Streams) (w : Workspace)
  {a : Arguments}

lemma effect_emit (l : Terminal.Logger) (config : Config) (report : Report) (written : Text) :
    (emit streams l w config report written).effect = handOver streams.out w config report := by
  unfold emit handOver deliver printedFor exitCode
  dsimp only
  cases config.outputPath with
  | none =>
    dsimp only
    rcases report.render? config.output with _ | t
    · rfl
    · dsimp only
      cases printed streams.out t <;> rfl
  | some p =>
    dsimp only
    rcases report.write config.output p w with ⟨w', f | _⟩ <;> rfl

lemma effect_lint (config : Config) :
    (lint e engine streams w a config).effect = conclude streams.out w (do
      let files ← (targets w a.files).1.mapError .target
      let report ←
        (Run.lint e w config.linterScript config.options files engine).1.result.mapError .run
      return (config, report)) := by
  rw [lint]
  rcases targets w a.files with ⟨err | files, log⟩
  · rfl
  dsimp only [Except.mapError, bind, Except.bind]
  rcases (Run.lint e w config.linterScript config.options files engine).1.result with f | report
  · dsimp only [conclude, Stop.ending]
    cases isReported f <;> rfl
  · exact effect_emit streams w _ config report _

/-- A command that is understood and names files does what its stages say. -/
lemma effect_run {args : List Text} (ha : parse args = .ok a) (hf : a.files ≠ []) :
    (run e engine streams w args).effect = conclude streams.out w (reportFor e engine w a) := by
  simp only [run, ha, if_neg hf, reportFor, runFor]
  rcases checkPaths a with err | _
  · rfl
  dsimp only [Except.mapError, bind, Except.bind]
  rcases configFor w a with f | config
  · cases f <;> rfl
  · rw [effect_lint]
    rcases (targets w a.files).1 with err | files <;> rfl

/-! ### Reports that are emitted -/

/-- A report has reached its place: it was printed, or its file holds it and nothing was printed. -/
inductive Delivered (s : Terminal.Stream) (config : Config) (report : Report) (done : Effect) : Prop
  | printed {t : Text} (hp : config.outputPath = none) (ht : report.render? config.output = some t)
      (ho : printed s t = .ok done.out) :
      Delivered s config report done
  | written {p : Path} {t : Text} {content : List Byte} (hp : config.outputPath = some p)
      (ht : report.render? config.output = some t) (he : Utf8.encode t = .ok content)
      (hr : done.workspace.read p = .ok content) (ho : done.out = []) :
      Delivered s config report done

/-- A report that was given to the stream or written has reached its place. -/
lemma delivered_of_deliver {s : Terminal.Stream} {config : Config} {report : Report}
    {w w' : Workspace} {out : Text} (h : deliver w s config report = (w', .ok out)) (ending : Ending) :
    Delivered s config report ⟨ending, out, w'⟩ := by
  rw [deliver] at h
  cases hp : config.outputPath with
  | none =>
    rw [hp] at h
    obtain ⟨rfl, h⟩ := Prod.mk.inj h
    rw [printedFor] at h
    rcases ht : report.render? config.output with _ | t <;> rw [ht] at h
    · cases h
    · dsimp only at h
      rcases ho : printed s t with e | out' <;> rw [ho] at h <;> cases h
      exact .printed hp ht ho
  | some p =>
    rw [hp] at h
    obtain ⟨hw, h⟩ := Prod.mk.inj h
    rcases hr : report.write config.output p w with ⟨w₁, f | _⟩ <;> rw [hr] at h hw <;> cases h
    obtain rfl := hw
    obtain ⟨t, content, ht, he, hread⟩ := Report.read_of_write hr
    exact .written hp ht he hread rfl

section Emission

variable {args : List Text} (ha : parse args = .ok a) (hf : a.files ≠ [])

include ha hf

lemma effect_of_emission_eq_ok {config : Config} {report : Report}
    (h : emission e engine w a streams.out = .ok (config, report)) :
    (run e engine streams w args).ending = .exit (exitCode report) ∧
      Delivered streams.out config report (run e engine streams w args).effect := by
  have hrun := effect_run e engine streams w ha hf
  rcases hr : reportFor e engine w a with stop | ⟨config', report'⟩ <;>
    simp only [emission, hr, bind, Except.bind] at h
  · cases h
  rcases hd : deliver w streams.out config' report' with ⟨w', f | out⟩ <;> rw [hd] at h <;> cases h
  rw [hr, conclude, handOver, hd] at hrun
  rw [hrun]
  exact ⟨congrArg Effect.ending hrun, delivered_of_deliver hd _⟩

lemma effect_of_emission_eq_error {stop : Stop}
    (h : emission e engine w a streams.out = .error stop) :
    (run e engine streams w args).ending = stop.ending ∧
      (run e engine streams w args).out = [] := by
  have hrun := effect_run e engine streams w ha hf
  rcases hr : reportFor e engine w a with stop' | ⟨config, report⟩ <;>
    simp only [emission, hr, bind, Except.bind] at h
  · cases h
    rw [hr, conclude] at hrun
    exact ⟨congrArg Effect.ending hrun, congrArg Effect.out hrun⟩
  · rcases hd : deliver w streams.out config report with ⟨w', f | out⟩ <;> rw [hd] at h <;> cases h
    rw [hr, conclude, handOver, hd] at hrun
    exact ⟨congrArg Effect.ending hrun, congrArg Effect.out hrun⟩

end Emission

end ScriptLint.CommandLine
