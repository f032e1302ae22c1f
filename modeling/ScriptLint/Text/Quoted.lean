import ScriptLint.Text.Printed
import ScriptLint.Text.Utf8

/-!
# Quoted texts

How a message shows a text that may hold anything, such as the name of a file: between single
quotes, or between double quotes if the text holds single quotes and no double ones, with what
has no printed form written by its number. Octets are shown in the same way, after a `b`.
-/

namespace ScriptLint.Text

def apostrophe : CodePoint := 0x27

def quotationMark : CodePoint := 0x22

def backslash : CodePoint := 0x5C

/-- How a code point is written between two quotes `q`. -/
def quotedPoint (q c : CodePoint) : Text :=
  if c = q ∨ c = backslash then [backslash, c]
  else if c = '\t' then "\\t"
  else if c = '\n' then "\\n"
  else if c = '\r' then "\\r"
  else if c.isPrinted then [c]
  else if c.val < 0x100 then "\\x" ++ hex 2 c.val
  else if c.val < 0x10000 then "\\u" ++ hex 4 c.val
  else "\\U" ++ hex 8 c.val

/-- The quotes that a text is put between. -/
def quoteFor (t : Text) : CodePoint :=
  if t.contains apostrophe && !t.contains quotationMark then quotationMark else apostrophe

/-- The text between quotes. -/
def quoted (t : Text) : Text :=
  let q := quoteFor t
  [q] ++ t.flatMap (quotedPoint q) ++ [q]

/-- Octets between quotes: those of ASCII as their code points, the others by their numbers. -/
def quotedBytes (content : List Byte) : Text :=
  let q := quoteFor (content.map fun b => .ofNat b.val)
  let one (b : Byte) : Text :=
    if b.val < 0x7F then quotedPoint q (.ofNat b.val) else "\\x" ++ hex 2 b.val
  "b" ++ [q] ++ content.flatMap one ++ [q]

end ScriptLint.Text
