import ScriptLint.Text.Basic

/-!
# Arguments of the command line

The command is `lint`. Its options and files may mix, until a double hyphen ends the options. A
long option takes its value after an equals sign or from the next argument, a short one from the
rest of its argument or from the next, and short switches may be joined.
-/

namespace ScriptLint.CommandLine

/-- What the arguments of the command ask for. -/
structure Arguments where
  files : List Text
  format : Option Text
  out : Option Text
  linterScript : Option Text
  options : List Text
  config : Option Text
  verbose : Bool
  noEmoji : Bool
  noColor : Bool
  deriving DecidableEq

def Arguments.none : Arguments :=
  ⟨[], Option.none, Option.none, Option.none, [], Option.none, false, false, false⟩

/-- An option with a value. -/
inductive Valued
  | format
  | out
  | linterScript
  | option
  | config
  deriving DecidableEq

/-- An option without a value. -/
inductive Switch
  | verbose
  | noEmoji
  | noColor
  deriving DecidableEq

/-- An option of the command. -/
inductive Flag
  | valued (v : Valued)
  | switch (s : Switch)
  deriving DecidableEq

def longNames : List (Text × Flag) :=
  [("--format", .valued .format), ("--out", .valued .out),
   ("--linter-script", .valued .linterScript), ("--option", .valued .option),
   ("--config", .valued .config), ("--verbose", .switch .verbose),
   ("--no-emoji", .switch .noEmoji), ("--no-color", .switch .noColor)]

def letters : List (CodePoint × Flag) :=
  [('f', .valued .format), ('o', .valued .out), ('O', .valued .option), ('v', .switch .verbose)]

/-- Give an option a value. Of several values the last counts, but every linter option counts. -/
def Arguments.setValue (a : Arguments) (v : Valued) (value : Text) : Arguments :=
  match v with
  | .format       => { a with format := some value }
  | .out          => { a with out := some value }
  | .linterScript => { a with linterScript := some value }
  | .option       => { a with options := a.options ++ [value] }
  | .config       => { a with config := some value }

def Arguments.setSwitch (a : Arguments) : Switch → Arguments
  | .verbose => { a with verbose := true }
  | .noEmoji => { a with noEmoji := true }
  | .noColor => { a with noColor := true }

/-- Why arguments are not understood. -/
inductive UsageError
  | noCommand
  | unknownCommand
  | unknownOption
  | missingValue
  | superfluousValue
  | missingFiles
  deriving DecidableEq

/-- What is read after letters: nothing more, or a value from the next argument. -/
inductive Pending
  | nothing
  | value (v : Valued)

def readLetters (a : Arguments) : Text → Except UsageError (Arguments × Pending)
  | [] => .ok (a, .nothing)
  | c :: rest =>
    match letters.lookup c with
    | none => .error .unknownOption
    | some (.switch s) => readLetters (a.setSwitch s) rest
    | some (.valued v) =>
      if rest = [] then .ok (a, .value v) else .ok (a.setValue v rest, .nothing)

def readLong (a : Arguments) (name : Text) (value : Option Text) :
    Except UsageError (Arguments × Pending) :=
  match longNames.lookup name, value with
  | none, _                       => .error .unknownOption
  | some (.switch s), none        => .ok (a.setSwitch s, .nothing)
  | some (.switch _), some _      => .error .superfluousValue
  | some (.valued v), some value  => .ok (a.setValue v value, .nothing)
  | some (.valued v), none        => .ok (a, .value v)

/-- Read an argument that starts with a hyphen and has more after it. -/
def readOption (a : Arguments) (arg : Text) : Except UsageError (Arguments × Pending) :=
  match arg with
  | 0x2D :: 0x2D :: _ =>
    let (name, value) := Text.cut '=' arg
    readLong a name value
  | arg => readLetters a arg.tail

def isOption : Text → Bool
  | 0x2D :: _ :: _ => true
  | _              => false

def Arguments.addFile (a : Arguments) (file : Text) : Arguments :=
  { a with files := a.files ++ [file] }

/-- Read arguments, the first of which may be the value that an option waits for. -/
def readAll : Arguments → Pending → List Text → Except UsageError Arguments
  | a, .nothing, []          => .ok a
  | _, .value _, []          => .error .missingValue
  | a, .value v, arg :: rest => readAll (a.setValue v arg) .nothing rest
  | a, .nothing, arg :: rest =>
    if arg = "--" then .ok { a with files := a.files ++ rest }
    else if isOption arg then
      match readOption a arg with
      | .ok (a, pending) => readAll a pending rest
      | .error e         => .error e
    else readAll (a.addFile arg) .nothing rest

/-- The arguments of the command, after its name. -/
def readCommand : List Text → Except UsageError (List Text)
  | [] => .error .noCommand
  | arg :: rest =>
    if arg = "--" then
      match rest with
      | [] => .error .noCommand
      | command :: rest => if command = "lint" then .ok rest else .error .unknownCommand
    else if isOption arg then .error .unknownOption
    else if arg = "lint" then .ok rest
    else .error .unknownCommand

/-- What the arguments of the program ask for. There may be no files yet. -/
def parse (args : List Text) : Except UsageError Arguments := do
  readAll .none .nothing (← readCommand args)

end ScriptLint.CommandLine
