import ScriptLint.Flaw

/-!
# What can be wrong with a configuration
-/

namespace ScriptLint

/-- Where a configuration with flaws comes from. -/
inductive ConfigSource
  | overrides
  | document (path : Text)
  deriving DecidableEq

def ConfigSource.text : ConfigSource → Text
  | .overrides     => "overrides"
  | .document path => path

/-- Why there is no configuration. -/
inductive ConfigError
  /-- An option token without a name. -/
  | unnamedOption (token : Text)
  /-- A document that was asked for is not there. -/
  | noDocument (path : Text)
  /-- A document that is not TOML. What is wrong with it is not kept, so that the message ends
  where the reader's complaint and its place would follow. -/
  | notToml (path : Text)
  /-- The section of a document is not a table. -/
  | notTable (path : Text)
  | flawed (source : ConfigSource) (flaws : List Flaw)
  deriving DecidableEq

/-- A flaw with its location. -/
def Flaw.located (f : Flaw) : Text := Text.join "." f.location ++ ": " ++ f.message

def ConfigError.message : ConfigError → Text
  | .unnamedOption token =>
    "Invalid option '" ++ token ++ "': expected NAME or NAME=true|false"
  | .noDocument path     => "Configuration file " ++ path ++ " does not exist"
  | .notToml path        => "Configuration at " ++ path ++ " is not valid TOML"
  | .notTable path       => "[tool.pyjshint] in " ++ path ++ " must be a table"
  | .flawed source flaws =>
    "Invalid configuration in " ++ source.text ++ ": " ++ Text.join "; " (flaws.map Flaw.located)

end ScriptLint
