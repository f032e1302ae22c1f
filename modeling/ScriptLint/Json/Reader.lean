import ScriptLint.Json.Basic
import ScriptLint.Number.Decimal
import ScriptLint.Number.Written

/-!
# Reading JSON

A reader takes a value off the front of a text and hands on the rest. Besides standard JSON it
knows `NaN`, `Infinity` and `-Infinity`, and an escaped surrogate may stand alone. A later member
of an object replaces an earlier one of the same name, in the place of the earlier one. Integers
are read up to a fixed number of digits.
-/

namespace ScriptLint.Json

/-- What is wrong with a text. -/
inductive Complaint
  | expectingValue
  | expectingName
  | expectingColon
  | expectingComma
  | unterminatedString
  | controlCharacter
  | badEscape
  | badUnicodeEscape
  | extraData
  | byteOrderMark
  deriving DecidableEq

def Complaint.message : Complaint → Text
  | .expectingValue     => "Expecting value"
  | .expectingName      => "Expecting property name enclosed in double quotes"
  | .expectingColon     => "Expecting ':' delimiter"
  | .expectingComma     => "Expecting ',' delimiter"
  | .unterminatedString => "Unterminated string starting at"
  | .controlCharacter   => "Invalid control character at"
  | .badEscape          => "Invalid \\escape"
  | .badUnicodeEscape   => "Invalid \\uXXXX escape"
  | .extraData          => "Extra data"
  | .byteOrderMark      => "Unexpected UTF-8 BOM (decode using utf-8-sig)"

/-- Why a text cannot be read. -/
inductive ReadError
  /-- A complaint at a position, whose line and column count from one. -/
  | malformed (complaint : Complaint) (line column position : Nat)
  /-- An integer of so many digits. -/
  | integerTooLong (digits : Nat)
  deriving DecidableEq

/-- The wording of the limit on integers. -/
def tooLongMessage (digits : Nat) : Text :=
  "Exceeds the limit (" ++ Text.ofNat maxDigits ++
    " digits) for integer string conversion: value has " ++ Text.ofNat digits ++
    " digits; use sys.set_int_max_str_digits() to increase the limit"

def ReadError.message : ReadError → Text
  | .malformed complaint line column position =>
    complaint.message ++ ": line " ++ Text.ofNat line ++ " column " ++ Text.ofNat column ++
      " (char " ++ Text.ofNat position ++ ")"
  | .integerTooLong digits => tooLongMessage digits

namespace Reader

/-- Why reading stops: a complaint where so much of the text is left, or too long an integer. -/
inductive Stop
  | fault (complaint : Complaint) (left : Nat)
  | integerTooLong (digits : Nat)

/-- The blanks that may stand between the parts of a document. -/
def isBlank (c : CodePoint) : Bool := c = ' ' || c = '\t' || c = '\n' || c = '\r'

def skip (t : Text) : Text := t.dropWhile isBlank

/-- The value of four hexadecimal digits. -/
def unit? (a b c d : CodePoint) : Option Nat := do
  let a ← a.hexValue?
  let b ← b.hexValue?
  let c ← c.hexValue?
  let d ← d.hexValue?
  return ((a * 16 + b) * 16 + c) * 16 + d

/-- The code point of a short escape. -/
def escaped? (c : CodePoint) : Option CodePoint :=
  if c = '"' ∨ c = '\\' ∨ c = '/' then some c
  else if c = 'b' then some 0x08
  else if c = 'f' then some 0x0C
  else if c = 'n' then some 0x0A
  else if c = 'r' then some 0x0D
  else if c = 't' then some 0x09
  else none

/-- The code point of a surrogate pair. -/
def pair (high low : Nat) : CodePoint :=
  .ofNat (0x10000 + (high - 0xD800) * 0x400 + (low - 0xDC00))

/-- Read a string after its opening quote, at which `opening` code points were left. An escaped
unit needs a code point after it, and so does the second unit of a pair. -/
def readString (opening : Nat) : Text → Except Stop (Text × Text)
  | [] => .error (.fault .unterminatedString opening)
  | 0x22 :: rest => .ok ([], rest)
  | [0x5C] => .error (.fault .unterminatedString opening)
  | 0x5C :: 0x75 :: a :: b :: c :: d :: 0x5C :: 0x75 :: e :: f :: g :: h :: after :: rest =>
    match unit? a b c d with
    | none => .error (.fault .badUnicodeEscape (rest.length + 12))
    | some high =>
      if (CodePoint.ofNat high).isHighSurrogate then
        match unit? e f g h with
        | none => .error (.fault .badUnicodeEscape (rest.length + 6))
        | some low =>
          if (CodePoint.ofNat low).isLowSurrogate then do
            let (t, rest) ← readString opening (after :: rest)
            return (pair high low :: t, rest)
          else do
            let (t, rest) ← readString opening (0x5C :: 0x75 :: e :: f :: g :: h :: after :: rest)
            return (.ofNat high :: t, rest)
      else do
        let (t, rest) ← readString opening (0x5C :: 0x75 :: e :: f :: g :: h :: after :: rest)
        return (.ofNat high :: t, rest)
  | 0x5C :: 0x75 :: a :: b :: c :: d :: after :: rest =>
    match unit? a b c d with
    | none => .error (.fault .badUnicodeEscape (rest.length + 6))
    | some unit => do
      let (t, rest) ← readString opening (after :: rest)
      return (.ofNat unit :: t, rest)
  | 0x5C :: 0x75 :: rest => .error (.fault .badUnicodeEscape (rest.length + 1))
  | 0x5C :: c :: rest =>
    match escaped? c with
    | none => .error (.fault .badEscape (rest.length + 2))
    | some e => do
      let (t, rest) ← readString opening rest
      return (e :: t, rest)
  | c :: rest =>
    if c.val ≤ 0x1F then .error (.fault .controlCharacter (rest.length + 1))
    else do
      let (t, rest) ← readString opening rest
      return (c :: t, rest)

/-- Read a number at the front of a text, or complain that there is no value. -/
def readNumber (t : Text) : Except Stop (Json × Text) :=
  match Numeral.scan? t with
  | none => .error (.fault .expectingValue t.length)
  | some (n, rest) =>
    if n.isInteger then
      if maxDigits < n.whole.length then .error (.integerTooLong n.whole.length)
      else .ok (.int n.toInt, rest)
    else .ok (.float n.toBinary64, rest)

/-- The words that stand for values. -/
def words : List (Text × Json) :=
  [("null", .null), ("true", .bool true), ("false", .bool false), ("NaN", .float .nan),
   ("Infinity", .float (.infinite false)), ("-Infinity", .float (.infinite true))]

/-- Read a value without parts, other than a string. -/
def readWord (t : Text) : Except Stop (Json × Text) :=
  match words.findSome? fun (word, v) => (Text.dropLead? word t).map fun rest => (v, rest) with
  | some found => .ok found
  | none       => readNumber t

mutual

/-- Read a value at the front of a text. The fuel is spent with every part of a value. -/
def readValue : (fuel : Nat) → Text → Except Stop (Json × Text)
  | 0, t => .error (.fault .expectingValue t.length)
  | fuel + 1, t =>
    match t with
    | [] => .error (.fault .expectingValue 0)
    | c :: rest =>
      if c = '"' then do
        let (t, rest) ← readString (rest.length + 1) rest
        return (.string t, rest)
      else if c = '[' then
        match skip rest with
        | 0x5D :: rest => .ok (.array [], rest)
        | rest => do
          let (vs, rest) ← readItems fuel rest
          return (.array vs, rest)
      else if c = '\x7b' then
        match skip rest with
        | 0x7D :: rest => .ok (.object [], rest)
        | rest => do
          let (ms, rest) ← readMembers fuel rest
          return (.object (Entries.ofList ms), rest)
      else readWord (c :: rest)

/-- Read the items of an array from an item on, up to and with the closing bracket. -/
def readItems : (fuel : Nat) → Text → Except Stop (List Json × Text)
  | 0, t => .error (.fault .expectingValue t.length)
  | fuel + 1, t => do
    let (v, rest) ← readValue fuel t
    match skip rest with
    | 0x5D :: rest => return ([v], rest)
    | 0x2C :: rest =>
      let (vs, rest) ← readItems fuel (skip rest)
      return (v :: vs, rest)
    | rest => .error (.fault .expectingComma rest.length)

/-- Read the members of an object from a name on, up to and with the closing brace. -/
def readMembers : (fuel : Nat) → Text → Except Stop (List (Text × Json) × Text)
  | 0, t => .error (.fault .expectingName t.length)
  | fuel + 1, t =>
    match t with
    | 0x22 :: rest => do
      let (name, rest) ← readString (rest.length + 1) rest
      match skip rest with
      | 0x3A :: rest =>
        let (v, rest) ← readValue fuel (skip rest)
        match skip rest with
        | 0x7D :: rest => return ([(name, v)], rest)
        | 0x2C :: rest =>
          let (ms, rest) ← readMembers fuel (skip rest)
          return ((name, v) :: ms, rest)
        | rest => .error (.fault .expectingComma rest.length)
      | rest => .error (.fault .expectingColon rest.length)
    | rest => .error (.fault .expectingName rest.length)

end

/-- Read a text that holds one value and blanks around it. -/
def readDocument (t : Text) : Except Stop Json :=
  match t with
  | 0xFEFF :: rest => .error (.fault .byteOrderMark (rest.length + 1))
  | t => do
    let (v, rest) ← readValue (2 * t.length + 2) (skip t)
    match skip rest with
    | [] => return v
    | rest => .error (.fault .extraData rest.length)

/-- The error for a place where so much of a text is left. -/
def Stop.toError (t : Text) : Stop → ReadError
  | .integerTooLong digits => .integerTooLong digits
  | .fault complaint left =>
    let before := t.take (t.length - left)
    let lastLine := before.reverse.takeWhile (· ≠ 0x0A)
    .malformed complaint (before.count 0x0A + 1) (lastLine.length + 1) before.length

end Reader

/-- The value that a text writes. -/
def read (t : Text) : Except ReadError Json :=
  (Reader.readDocument t).mapError (Reader.Stop.toError t)

end ScriptLint.Json
