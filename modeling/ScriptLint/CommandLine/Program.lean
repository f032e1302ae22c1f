import ScriptLint.CommandLine.Arguments
import ScriptLint.Config.Load
import ScriptLint.Config.OptionToken
import ScriptLint.Run
import ScriptLint.Terminal.Console
import ScriptLint.Terminal.Message

/-!
# The program

The command lints files and prints the report, or writes it to a file. All other messages go to
the error stream. It ends with 0 if nothing was found, with 1 if something was, and with 2 if the
run could not be made.
-/

namespace ScriptLint.CommandLine

/-- The two output streams. -/
structure Streams where
  out : Terminal.Stream
  error : Terminal.Stream

/-- How the program ended. -/
inductive Ending
  | exit (code : Nat)
  /-- The arguments were not understood. -/
  | usage (e : UsageError)
  /-- The configuration has an error. -/
  | badConfig (e : ConfigError)
  /-- Something failed that the program has no answer to. -/
  | crash (f : Failure)
  deriving DecidableEq

def Ending.code : Ending → Nat
  | .exit code   => code
  | .usage _     => 2
  | .badConfig _ => 2
  | .crash _     => 1

/-- What the program did: how it ended, what it wrote, and the files it left. The error stream takes
every text, as it escapes what it cannot encode. -/
structure Outcome where
  ending : Ending
  out : Text
  error : Text
  workspace : Workspace

/-- Whether the program reports a failed run: a file that cannot be reached or read, a script that
is not there or cannot be loaded, or a failed evaluation. -/
def isReported : Failure → Bool
  | .file (.refused ..)    => true
  | .missingScript _       => true
  | .undecodableSource ..  => true
  | .load _                => true
  | .evaluation _          => true
  | _                      => false

/-- What is left after an escape sequence for the terminal, if a text starts with one; the escape
and the bracket are gone already. -/
def afterSequence? : Text → Option Text
  | [] => none
  | c :: t =>
    if c.isDigit || c = ';' || c = '?' then afterSequence? t
    else if c.isLetter then some t
    else none

/-- The text without escape sequences; the fuel is its length. -/
def stripSequences : (fuel : Nat) → Text → Text
  | 0, t => t
  | _ + 1, [] => []
  | fuel + 1, 0x1B :: 0x5B :: t =>
    match afterSequence? t with
    | some rest => stripSequences fuel rest
    | none      => 0x1B :: stripSequences fuel (0x5B :: t)
  | fuel + 1, c :: t => c :: stripSequences fuel t

/-- A text and a line end as they are printed on the output stream, which must encode them: escape
sequences are for terminals only. -/
def printed (s : Terminal.Stream) (t : Text) : Except FileError Text := do
  let line := (if s.isTerminal then t else stripSequences t.length t) ++ "\n"
  let _ ← (Utf8.encode line).mapError .unencodable
  return line

/-- The overrides that arguments give. -/
def overrides (a : Arguments) (options : List (Text × Bool)) : List (Text × Datum) :=
  let path (p : Option Text) : Datum := (p.map fun t => .path (Path.ofText t)).getD .null
  [(Config.Field.linterScript.name, path a.linterScript),
   (Config.Field.output.name, (a.format.map .text).getD .null),
   (Config.Field.outputPath.name, path a.out),
   (Config.Field.options.name,
    .mapping ((Entries.ofList options).map fun e => (.text e.1, .bool e.2)))]

/-- The configuration for arguments: that of the project with what the arguments override. -/
def configFor (w : Workspace) (a : Arguments) : Except Failure Config := do
  let options ← a.options.mapM fun token => (OptionToken.parse token).mapError .config
  let config ← Config.load w (some w.currentPath) (a.config.map Path.ofText)
  config.merge (overrides a options)

/-- Whether all paths among arguments can be handed to the file system. -/
def checkPaths (a : Arguments) : Except FileError Unit :=
  (a.files ++ [a.out, a.linterScript, a.config].filterMap id).forM Workspace.check

def target (w : Workspace) (file : Text) : Except FileError Path := do
  return w.currentPath.append (← w.expandHome (Path.ofText file))

/-- The message on a file that is not there. -/
def notFound (p : Path) : LogEntry := .problem ("Couldn't find " ++ p.text)

/-- The files that are there, and the messages on the others. If a path fails, the messages on the
paths before it come with the error. -/
def targets (w : Workspace) : List Text → Except FileError (List Text) × List LogEntry
  | [] => (.ok [], [])
  | file :: files =>
    match (do let p ← target w file; return (p, ← w.isThere p)) with
    | .error e => (.error e, [])
    | .ok (p, there) =>
      let (found, log) := targets w files
      if there then (found.map (p.text :: ·), log) else (found, notFound p :: log)

/-- How messages are written. -/
def loggerFor (a : Arguments) : Terminal.Logger :=
  ⟨⟨!a.noEmoji, if a.noColor then some false else none⟩, a.verbose⟩

/-- Emit a report, given what was written to the error stream before. -/
def emit (streams : Streams) (l : Terminal.Logger) (w : Workspace) (config : Config)
    (report : Report) (written : Text) : Outcome :=
  let say (tone : Terminal.Tone) (message : Text) : Text :=
    Terminal.write tone l.style streams.error.isTerminal message
  let code := if report.errorCount = 0 then 0 else 1
  let summary :=
    if report.errorCount = 0 then say .ok report.summary else say .fail report.summary
  match config.outputPath with
  | none =>
    match report.render? config.output with
    | none   => ⟨.crash .integerUnwritable, [], written, w⟩
    | some t =>
      match printed streams.out t with
      | .error e => ⟨.crash (.file e), [], written, w⟩
      | .ok out  =>
        ⟨.exit code, out, written ++ (if config.output = .plain then [] else summary), w⟩
  | some p =>
    match report.write config.output p w with
    | (w, .error f) => ⟨.crash f, [], written, w⟩
    | (w, .ok ())   =>
      ⟨.exit code, [], written ++ say .ok ("Report written to " ++ p.text) ++ summary, w⟩

/-- Lint the files of the arguments under a configuration. -/
def lint (e : Engine σ) (engine : σ) (streams : Streams) (w : Workspace) (a : Arguments)
    (config : Config) : Outcome :=
  let l := loggerFor a
  let terminal := streams.error.isTerminal
  let logged (entries : List LogEntry) : Text := entries.flatMap (l.write terminal)
  match targets w a.files with
  | (.error err, log)  => ⟨.crash (.file err), [], logged log, w⟩
  | (.ok files, log) =>
    let announced := Terminal.write .info l.style terminal
      ("Running JSHint on " ++ Text.ofNat files.length ++ " file(s)")
    let (run, _) := Run.lint e w config.linterScript config.options files engine
    let written := logged log ++ announced ++ logged run.log
    match run.result with
    | .ok report => emit streams l w config report written
    | .error f =>
      if isReported f then
        let message := Terminal.write .fail l.style terminal ("JSHint run failed: " ++ f.message)
        ⟨.exit 2, [], written ++ message, w⟩
      else ⟨.crash f, [], written, w⟩

/-- Run the program on arguments, with a new engine. -/
def run (e : Engine σ) (engine : σ) (streams : Streams) (w : Workspace) (args : List Text) :
    Outcome :=
  let stop (ending : Ending) : Outcome := ⟨ending, [], [], w⟩
  match parse args with
  | .error err => stop (.usage err)
  | .ok a =>
    match checkPaths a with
    | .error err => stop (.crash (.file err))
    | .ok () =>
      if a.files = [] then stop (.usage .missingFiles)
      else match configFor w a with
      | .error (.config err) => stop (.badConfig err)
      | .error f             => stop (.crash f)
      | .ok config           => lint e engine streams w a config

end ScriptLint.CommandLine
