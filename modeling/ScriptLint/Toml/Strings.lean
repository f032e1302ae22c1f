import ScriptLint.Text.Basic

/-!
# TOML strings

Strings in double quotes have escapes, strings in single quotes have none, and three quotes
enclose a string of several lines. Each reader takes the text after the opening quotes and hands
on what comes after the closing ones.
-/

namespace ScriptLint.Toml

def double : CodePoint := 0x22

def single : CodePoint := 0x27

/-- A blank within a line. -/
def isSpace (c : CodePoint) : Bool := c = 0x20 || c = 0x09

/-- A blank within a line, or the end of a line. -/
def isSpaceOrBreak (c : CodePoint) : Bool := isSpace c || c = 0x0A

/-- A control character that no string or comment may hold; strings of several lines may hold
line feeds. -/
def isIllegal (manyLines : Bool) (c : CodePoint) : Bool :=
  (c.val < 0x20 || c = 0x7F) && c ≠ 0x09 && !(manyLines && c = 0x0A)

/-- The code point of a short escape. -/
def escaped? (c : CodePoint) : Option CodePoint :=
  if c = 'b' then some 0x08
  else if c = 't' then some 0x09
  else if c = 'n' then some 0x0A
  else if c = 'f' then some 0x0C
  else if c = 'r' then some 0x0D
  else if c = double then some double
  else if c = '\\' then some c
  else none

/-- The code point that hexadecimal digits give, which is no surrogate. -/
def hexPoint? (digits : Text) : Option CodePoint := do
  let n ← digits.foldlM (fun n c => do return n * 16 + (← c.hexValue?)) 0
  if h : n < 0x110000 then
    let c : CodePoint := ⟨n, h⟩
    if c.isSurrogate then none else some c
  else none

/-- Where a reader is in a string of several lines: in its text, after a backslash at the end of a
line with blanks between, or after that line. -/
inductive Fold
  | text
  | lineEnd
  | nextLines

/-- Read a string in double quotes. -/
def readEscaped (manyLines : Bool) : Fold → Text → Option (Text × Text)
  | _, [] => none
  | .lineEnd, c :: rest =>
    if isSpace c then readEscaped manyLines .lineEnd rest
    else if c = 0x0A then readEscaped manyLines .nextLines rest
    else none
  | fold, c :: rest =>
    match fold, isSpaceOrBreak c with
    | .nextLines, true => readEscaped manyLines .nextLines rest
    | _, _ =>
      if c = double then
        if ¬ manyLines then some ([], rest)
        else match rest with
        | 0x22 :: 0x22 :: rest => some ([], rest)
        | _ => (readEscaped manyLines .text rest).map fun (t, rest) => (c :: t, rest)
      else if c = '\\' then
        match rest with
        | [] => none
        | 0x75 :: a :: b :: c :: d :: rest => do
          let point ← hexPoint? [a, b, c, d]
          let (t, rest) ← readEscaped manyLines .text rest
          return (point :: t, rest)
        | 0x55 :: a :: b :: c :: d :: e :: f :: g :: h :: rest => do
          let point ← hexPoint? [a, b, c, d, e, f, g, h]
          let (t, rest) ← readEscaped manyLines .text rest
          return (point :: t, rest)
        | d :: rest =>
          if manyLines && isSpace d then readEscaped manyLines .lineEnd rest
          else if manyLines && d = 0x0A then readEscaped manyLines .nextLines rest
          else do
            let point ← escaped? d
            let (t, rest) ← readEscaped manyLines .text rest
            return (point :: t, rest)
      else if isIllegal manyLines c then none
      else (readEscaped manyLines .text rest).map fun (t, rest) => (c :: t, rest)

/-- Read a string in single quotes. -/
def readLiteral (manyLines : Bool) : Text → Option (Text × Text)
  | [] => none
  | c :: rest =>
    if c = single ∧ ¬ manyLines then some ([], rest)
    else match decide (c = single), rest with
    | true, 0x27 :: 0x27 :: rest => some ([], rest)
    | _, _ =>
      if isIllegal manyLines c then none
      else (readLiteral manyLines rest).map fun (t, rest) => (c :: t, rest)

/-- Add up to two quotes that follow the closing ones of a string of several lines. -/
def takeQuotes (quote : CodePoint) : Text × Text → Text × Text
  | (t, c :: d :: rest) =>
    if c ≠ quote then (t, c :: d :: rest)
    else if d ≠ quote then (t ++ [c], d :: rest)
    else (t ++ [c, d], rest)
  | (t, [c]) => if c = quote then (t ++ [c], []) else (t, [c])
  | (t, []) => (t, [])

/-- The text without a line feed at its front. -/
def dropBreak : Text → Text
  | 0x0A :: rest => rest
  | t            => t

/-- Read a string that a value may be, if the text starts with a quote. -/
def readString? : Text → Option (Option (Text × Text))
  | 0x22 :: 0x22 :: 0x22 :: rest =>
    some ((readEscaped true .text (dropBreak rest)).map (takeQuotes double))
  | 0x22 :: rest => some (readEscaped false .text rest)
  | 0x27 :: 0x27 :: 0x27 :: rest =>
    some ((readLiteral true (dropBreak rest)).map (takeQuotes single))
  | 0x27 :: rest => some (readLiteral false rest)
  | _ => none

end ScriptLint.Toml
