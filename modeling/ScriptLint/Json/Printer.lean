import ScriptLint.Json.Basic
import ScriptLint.Number.Layout
import ScriptLint.Number.Written

/-!
# Printing JSON

A document is written in printable ASCII: every other code point is escaped, in UTF-16 units,
which also carries a surrogate without its partner. There are two layouts, one line or one item
a line with an indent, and both are the same but for the blanks around items.
-/

namespace ScriptLint.Json

/-- An escaped UTF-16 unit. -/
def escapeUnit (n : Nat) : Text := "\\u" ++ Text.hex 4 n

/-- How a code point is written in a string. -/
def escape (c : CodePoint) : Text :=
  if c = '"' then "\\\""
  else if c = '\\' then "\\\\"
  else if c.isPlain then [c]
  else if c = '\n' then "\\n"
  else if c = '\r' then "\\r"
  else if c = '\t' then "\\t"
  else if c = '\x08' then "\\b"
  else if c = '\x0C' then "\\f"
  else if c.val < 0x10000 then escapeUnit c.val
  else
    let n := c.val - 0x10000
    escapeUnit (0xD800 + n / 0x400) ++ escapeUnit (0xDC00 + n % 0x400)

/-- A string in quotes. -/
def printText (t : Text) : Text := "\"" ++ t.flatMap escape ++ "\""

/-- The blanks around the items of arrays and objects. -/
inductive Layout
  /-- All on one line. -/
  | inline
  /-- Every item on its own line, indented by so many spaces for each level. -/
  | indented (width : Nat)

namespace Layout

/-- The blanks after an opening and before a closing bracket at a level. -/
def edge : Layout → Nat → Text
  | .inline, _ => []
  | .indented width, depth => "\n" ++ Text.spaces (width * depth)

/-- The blanks between a comma and the next item at a level. -/
def gap : Layout → Nat → Text
  | .inline, _ => " "
  | .indented width, depth => "\n" ++ Text.spaces (width * depth)

end Layout

mutual

/-- The text of a value at a level. -/
def printAt (l : Layout) (depth : Nat) : Json → Text
  | .null => "null"
  | .bool true => "true"
  | .bool false => "false"
  | .int n => Text.ofInt n
  | .float x => x.text Binary64.inDocuments
  | .string t => printText t
  | .array [] => "[]"
  | .array (v :: vs) =>
    "[" ++ l.edge (depth + 1) ++ printAt l (depth + 1) v ++ printItems l depth vs
  | .object [] => "\x7b\x7d"
  | .object ((name, v) :: ms) =>
    "\x7b" ++ l.edge (depth + 1) ++ printText name ++ ": " ++ printAt l (depth + 1) v ++
      printMembers l depth ms

/-- The items of an array after the first, and its closing bracket. -/
def printItems (l : Layout) (depth : Nat) : List Json → Text
  | [] => l.edge depth ++ "]"
  | v :: vs => "," ++ l.gap (depth + 1) ++ printAt l (depth + 1) v ++ printItems l depth vs

/-- The members of an object after the first, and its closing brace. -/
def printMembers (l : Layout) (depth : Nat) : List (Text × Json) → Text
  | [] => l.edge depth ++ "\x7d"
  | (name, v) :: ms =>
    "," ++ l.gap (depth + 1) ++ printText name ++ ": " ++ printAt l (depth + 1) v ++
      printMembers l depth ms

end

def print (l : Layout) (v : Json) : Text := printAt l 0 v

mutual

/-- Whether all integers of a value can be written. -/
def isWritable : Json → Bool
  | .null | .bool _ | .float _ | .string _ => true
  | .int n     => IsShort n
  | .array vs  => areWritable vs
  | .object ms => membersAreWritable ms

def areWritable : List Json → Bool
  | []      => true
  | v :: vs => v.isWritable && areWritable vs

def membersAreWritable : List (Text × Json) → Bool
  | []           => true
  | (_, v) :: ms => v.isWritable && membersAreWritable ms

end

/-- The text of a value, unless it holds an integer that cannot be written. -/
def print? (l : Layout) (v : Json) : Option Text := if v.isWritable then some (v.print l) else none

end ScriptLint.Json
