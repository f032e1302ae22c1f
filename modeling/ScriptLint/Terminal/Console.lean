import ScriptLint.Text.Basic

/-!
# Consoles

A console is set up for whether colours and symbols are wanted, for a stream, and for whether the
stream is a terminal. Each setting has one console, made when it is first asked for.
-/

namespace ScriptLint.Terminal

/-- What a stream answers when it is asked whether it is a terminal. -/
inductive Stream
  | terminal
  | file
  /-- It cannot be asked. -/
  | unavailable
  deriving DecidableEq

/-- Whether a stream is known to be a terminal. -/
def Stream.isTerminal (s : Stream) : Bool := s = .terminal

/-- What a console is set up for. -/
structure Console where
  color : Bool
  emoji : Bool
  onError : Bool
  terminal : Bool
  deriving DecidableEq

/-- Whether a console writes colours. -/
def Console.usesColor (c : Console) : Bool := c.color && c.terminal

/-- The consoles made so far. -/
abbrev Consoles := List Console

/-- The number of a console, which is made if it is new. -/
def Consoles.get (cs : Consoles) (c : Console) : Nat × Consoles :=
  match cs.idxOf? c with
  | some i => (i, cs)
  | none   => (cs.length, cs ++ [c])

end ScriptLint.Terminal
