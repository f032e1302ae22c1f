import ScriptLint.Text.Basic

/-!
# Lines

A source text has one kind of line end. Reading turns a carriage return with a line feed, and a
carriage return alone, into a line feed; other separators stay as they are.
-/

namespace ScriptLint.Text

def carriageReturn : CodePoint := 0x0D

def lineFeed : CodePoint := 0x0A

/-- Write every line end as one line feed. -/
def unifyLineEnds : Text → Text
  | [] => []
  | [c] => if c = carriageReturn then [lineFeed] else [c]
  | c :: d :: t =>
    if c = carriageReturn then
      if d = lineFeed then lineFeed :: unifyLineEnds t else lineFeed :: unifyLineEnds (d :: t)
    else c :: unifyLineEnds (d :: t)

/-- Write a carriage return with a line feed as a line feed; a carriage return alone stays. -/
def unifyPairs : Text → Text
  | [] => []
  | [c] => [c]
  | c :: d :: t =>
    if c = carriageReturn ∧ d = lineFeed then lineFeed :: unifyPairs t
    else c :: unifyPairs (d :: t)

/-- The lines of a text; a text that ends with a line feed has an empty last line. -/
def lines (t : Text) : List Text := splitAt lineFeed t

end ScriptLint.Text
