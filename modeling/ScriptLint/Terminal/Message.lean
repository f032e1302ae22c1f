import ScriptLint.Log
import ScriptLint.Text.Lines
import ScriptLint.Text.Width

/-!
# Messages on a terminal

A message has a tone, which gives it a symbol and a colour. Colour is written only on a terminal,
line by line; what would move the cursor back is left out, and tabs become spaces.
-/

namespace ScriptLint.Terminal

/-- The tone of a message. -/
inductive Tone
  | info
  | ok
  | warn
  | fail
  deriving DecidableEq

def Tone.symbol : Tone → Text
  | .info => "\u2139\uFE0F "
  | .ok   => "\u2705 "
  | .warn => "\u26A0\uFE0F "
  | .fail => "\u274C "

def Tone.color : Tone → Nat
  | .info => 36
  | .ok   => 32
  | .warn => 33
  | .fail => 31

/-- A symbol, or nothing if symbols are off. -/
def symbol (s : Text) (enabled : Bool) : Text := if enabled then s else []

/-- How messages are shown. -/
structure Style where
  emoji : Bool
  /-- Whether to use colours; if nothing is said, on a terminal only. -/
  color : Option Bool

/-- A code point that is left out: a bell, a step back, or a move of line or page. -/
def isDropped (c : CodePoint) : Bool :=
  c = 0x07 || c = 0x08 || c = 0x0B || c = 0x0C || c = 0x0D

/-- The columns between tabs. -/
def tabWidth : Nat := 8

/-- A line with spaces for tabs, where `column` columns are taken already. -/
def expandTabs : (column : Nat) → Text → Text
  | _, [] => []
  | column, c :: t =>
    if c = '\t' then
      let n := tabWidth - column % tabWidth
      Text.spaces n ++ expandTabs (column + n) t
    else c :: expandTabs (column + c.width) t

/-- The escape sequence that selects a graphic rendition. -/
def rendition (n : Nat) : Text := "\x1B[" ++ Text.ofNat n ++ "m"

/-- A line in a colour; an empty line has none. -/
def colored (color : Nat) (line : Text) : Text :=
  if line = [] then [] else rendition color ++ line ++ rendition 0

/-- A message as it is written on a stream, which may be a terminal. -/
def write (tone : Tone) (style : Style) (terminal : Bool) (message : Text) : Text :=
  let color := style.color.getD terminal && terminal
  let shown : Text := (symbol tone.symbol style.emoji ++ message).filter (!isDropped ·)
  let lines := (Text.lines shown).map (expandTabs 0)
  (if color then lines.map (colored tone.color) else lines).flatMap fun line => line ++ "\n"

/-- The tag of the messages of a log. -/
def tag : Text := "[jshint] "

/-- How a log is written. -/
structure Logger where
  style : Style
  /-- Whether progress is written too. -/
  verbose : Bool

/-- What a log entry writes on a stream. -/
def Logger.write (l : Logger) (terminal : Bool) : LogEntry → Text
  | .progress message =>
    if l.verbose then Terminal.write .info { l.style with emoji := false } terminal (tag ++ message)
    else []
  | .problem message => Terminal.write .warn l.style terminal (tag ++ message)

end ScriptLint.Terminal
