import ScriptLint.Interpreter.Scripted
import ScriptLint.Proofs.CommandLine.Stages

/-!
# Exit codes

The exit code 0 says that a report without diagnostics was emitted, and 2 that there is no report.
The exit code 1 says that a report with diagnostics was emitted, or that none was and the program has
no answer to what stopped it.
-/

namespace ScriptLint.CommandLine

/-- What stops a command is handled: it is told of by a message, and not left to the caller. -/
inductive Stop.IsHandled : Stop → Prop
  | config (e : ConfigError) : IsHandled (.config (.config e))
  | missingScript (e : MissingScript) : IsHandled (.run (.missingScript e))
  | load (e : LoadError) : IsHandled (.run (.load e))
  | evaluation (e : EvaluationError) : IsHandled (.run (.evaluation e))
  | refused (fault : FileFault) (path : Text) : IsHandled (.run (.file (.refused fault path)))
  | undecodableSource (path : Text) (reason : Utf8.Reason) (offset : Nat) :
      IsHandled (.run (.undecodableSource path reason offset))

/-- A failed run is reported if and only if it is handled. -/
lemma isReported_iff (f : Failure) : isReported f = true ↔ (Stop.run f).IsHandled := by
  constructor
  · intro h
    cases f with
    | file e =>
      cases e with
      | refused fault path => exact .refused fault path
      | _ => cases h
    | missingScript e => exact .missingScript e
    | load e => exact .load e
    | evaluation e => exact .evaluation e
    | undecodableSource path reason offset => exact .undecodableSource path reason offset
    | _ => cases h
  · rintro ⟨⟩ <;> rfl

lemma Stop.code_ending (stop : Stop) :
    (stop.IsHandled → stop.ending.code = 2) ∧ (¬ stop.IsHandled → stop.ending.code = 1) := by
  cases stop with
  | path e | target e | output e => exact ⟨by rintro ⟨⟩, fun _ => rfl⟩
  | config f =>
    cases f with
    | config e => exact ⟨fun _ => rfl, fun h => absurd (.config e) h⟩
    | _ => exact ⟨by rintro ⟨⟩, fun _ => rfl⟩
  | run f =>
    rw [ending, ← isReported_iff]
    exact ⟨fun h => by rw [if_pos h]; rfl, fun h => by rw [if_neg h]; rfl⟩

variable {σ : Type} (e : Engine σ) (engine : σ) (streams : Streams) (w : Workspace)

/-- The exit code of a command that is understood. It tells of a report and its diagnostics, except
that 1 is also the code where none was emitted and what stopped the command is not handled. -/
theorem code_run {args : List Text} {a : Arguments} (ha : parse args = .ok a) (hf : a.files ≠ []) :
    let done := run e engine streams w args
    let emitted := emission e engine w a streams.out
    (done.ending.code = 0 ↔
      ∃ config report, emitted = .ok (config, report) ∧ report.errorCount = 0) ∧
    (done.ending.code = 1 ↔
      (∃ config report, emitted = .ok (config, report) ∧ 0 < report.errorCount) ∨
        ∃ stop, emitted = .error stop ∧ ¬ stop.IsHandled) ∧
    (done.ending.code = 2 ↔ ∃ stop, emitted = .error stop ∧ stop.IsHandled) ∧
    (∀ config report, emitted = .ok (config, report) →
      Delivered streams.out config report done.effect) ∧
    ∀ stop, emitted = .error stop → done.out = [] := by
  dsimp only
  rcases hem : emission e engine w a streams.out with stop | ⟨config, report⟩
  · obtain ⟨hend, hout⟩ := effect_of_emission_eq_error e engine streams w ha hf hem
    obtain ⟨hh, hn⟩ := stop.code_ending
    by_cases hs : stop.IsHandled
    · simp [hend, hh hs, hs, hout]
    · simp [hend, hn hs, hs, hout]
  · obtain ⟨hend, hd⟩ := effect_of_emission_eq_ok e engine streams w ha hf hem
    have hcode : (run e engine streams w args).ending.code = exitCode report := by
      rw [hend, Ending.code]
    rw [hcode, exitCode]
    by_cases hc : report.errorCount = 0
    · simp [hc, hd]
    · simp [hc, hd, Nat.pos_of_ne_zero hc]

/-- A file to be linted, a script that is UTF-8 and one that is not. -/
def twoScripts : Workspace where
  tree := ⟨[(["a"], .file [0x61]), (["l"], .file [0x6C]), (["m"], .file [0x61, 0xE9])]⟩
  current := []
  home := ⟨.slash, []⟩
  homes := []

/-- The arguments that have the file linted by a script. -/
def lintWith (script : Text) : List Text := ["lint", "a", "--linter-script", script]

/-- What these arguments ask for. -/
def withScript (script : Text) : Arguments :=
  { Arguments.none with files := ["a"], linterScript := some script }

/-- The program on these arguments, with an engine that finds nothing. -/
def runWith (script : Text) : Outcome :=
  run (.ofInterpreter .scripted) (Scripted.start []) ⟨.file, .file⟩ twoScripts (lintWith script)

theorem code_run_nothingFound :
    parse (lintWith "l") = .ok (withScript "l") ∧ (withScript "l").files ≠ [] ∧
    (runWith "l").ending.code = 0 ∧ ∃ config report,
      emission (.ofInterpreter .scripted) (Scripted.start []) twoScripts (withScript "l") .file
        = .ok (config, report) ∧ report.errorCount = 0 ∧
      Delivered .file config report (runWith "l").effect := by
  have ha : parse (lintWith "l") = .ok (withScript "l") := by decide
  have hf : (withScript "l").files ≠ [] := by decide
  have hc : (runWith "l").ending.code = 0 := by decide
  obtain ⟨h0, -, -, hd, -⟩ := code_run (.ofInterpreter .scripted) (Scripted.start [])
    ⟨.file, .file⟩ twoScripts ha hf
  obtain ⟨config, report, he, hr⟩ := h0.mp hc
  exact ⟨ha, hf, hc, config, report, he, hr, hd config report he⟩

/-- A linter script that is not UTF-8 ends the program with the exit code for diagnostics, though
there is no report. -/
theorem code_run_undecodableScript :
    parse (lintWith "m") = .ok (withScript "m") ∧ (runWith "m").ending.code = 1 ∧
    (runWith "m").out = [] ∧
    ∀ config report, emission (.ofInterpreter .scripted) (Scripted.start []) twoScripts
      (withScript "m") .file ≠ .ok (config, report) := by
  refine ⟨by decide, by decide, by decide, ?_⟩
  intro config report h
  cases h

end ScriptLint.CommandLine
