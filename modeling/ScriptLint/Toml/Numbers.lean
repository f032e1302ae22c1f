import ScriptLint.Json.Reader
import ScriptLint.Toml.Value

/-!
# TOML numbers, dates and times

Each reader takes the longest notation at the front of a text. Digits may have single underscores
between them. A date must be one of the calendar.
-/

namespace ScriptLint.Toml

/-- Why a document cannot be read: it is not TOML, or an integer has too many digits. -/
inductive ReadError
  | malformed
  | integerTooLong (digits : Nat)
  deriving DecidableEq

/-- The digits after a first one, each perhaps with an underscore before it, without the
underscores. -/
def moreDigits (isDigit : CodePoint → Bool) : Text → Text × Text
  | [] => ([], [])
  | [c] => if isDigit c then ([c], []) else ([], [c])
  | c :: d :: t =>
    if isDigit c then
      let (ds, rest) := moreDigits isDigit (d :: t)
      (c :: ds, rest)
    else if c = '_' ∧ isDigit d then
      let (ds, rest) := moreDigits isDigit t
      (d :: ds, rest)
    else ([], c :: d :: t)

/-- A run of digits with underscores between them. -/
def digits? (isDigit : CodePoint → Bool) : Text → Option (Text × Text)
  | [] => none
  | c :: t =>
    if isDigit c then
      let (ds, rest) := moreDigits isDigit t
      some (c :: ds, rest)
    else none

/-- The number that digits write in a base. -/
def valueIn (base : Nat) (ds : Text) : Nat :=
  ds.foldl (fun n c => n * base + (c.hexValue?).getD 0) 0

/-- An integer in a base that a mark after a zero names. -/
def readBased? (t : Text) : Option (Value × Text) :=
  let inBase (base : Nat) (isDigit : CodePoint → Bool) (t : Text) : Option (Value × Text) :=
    (digits? isDigit t).map fun (ds, rest) => (.integer (valueIn base ds), rest)
  match t with
  | 0x30 :: 0x78 :: t => inBase 16 (fun c => c.hexValue?.isSome) t
  | 0x30 :: 0x62 :: t => inBase 2 (fun c => c = '0' || c = '1') t
  | 0x30 :: 0x6F :: t => inBase 8 (fun c => c.isDigit && c ≠ '8' && c ≠ '9') t
  | _ => none

/-- A sign, which is a minus or not. -/
def readSign : Text → Bool × Text
  | 0x2D :: t => (true, t)
  | 0x2B :: t => (false, t)
  | t         => (false, t)

/-- The integer part of a decimal number. -/
def readWhole? : Text → Option (Text × Text)
  | 0x30 :: t => some ([0x30], t)
  | t         => digits? CodePoint.isDigit t

def readFraction : Text → Option Text × Text
  | 0x2E :: t =>
    match digits? CodePoint.isDigit t with
    | some (ds, rest) => (some ds, rest)
    | none            => (none, 0x2E :: t)
  | t => (none, t)

def readExponent (t : Text) : Option (Bool × Text) × Text :=
  match t with
  | [] => (none, t)
  | c :: t' =>
    if c = 'e' ∨ c = 'E' then
      let (negative, t'') := readSign t'
      match digits? CodePoint.isDigit t'' with
      | some (ds, rest) => (some (negative, ds), rest)
      | none            => (none, t)
    else (none, t)

/-- A number in decimal notation. -/
def readDecimal? (t : Text) : Option (Except ReadError (Value × Text)) := do
  let (negative, t) := readSign t
  let (whole, t) ← readWhole? t
  let (fraction, t) := readFraction t
  let (exponent, t) := readExponent t
  let n : Numeral := ⟨negative, whole, fraction, exponent⟩
  if ¬ n.isInteger then return .ok (.float n.toBinary64, t)
  else if maxDigits < whole.length then return .error (.integerTooLong whole.length)
  else return .ok (.integer n.toInt, t)

/-- The words for numbers that are not finite. -/
def notFinite : List (Text × Binary64) :=
  [("inf", .infinite false), ("+inf", .infinite false), ("-inf", .infinite true),
   ("nan", .nan), ("+nan", .nan), ("-nan", .nan)]

/-- A number that is not finite. -/
def readNotFinite? (t : Text) : Option (Value × Text) :=
  notFinite.findSome? fun (word, x) =>
    (Text.dropLead? word t).map fun rest => (.float x, rest)

def readNumber (t : Text) : Except ReadError (Value × Text) :=
  match readBased? t with
  | some found => .ok found
  | none =>
    match readDecimal? t with
    | some found => found
    | none =>
      match readNotFinite? t with
      | some found => .ok found
      | none       => .error .malformed

/-- A number of exactly so many digits. -/
def fixed? (count : Nat) (t : Text) : Option (Nat × Text) :=
  let ds := t.take count
  if ds.length = count ∧ ds.all CodePoint.isDigit then some (Text.digitsValue ds, t.drop count)
  else none

/-- A number of two digits between bounds. -/
def two? (low high : Nat) (t : Text) : Option (Nat × Text) := do
  let (n, t) ← fixed? 2 t
  if low ≤ n ∧ n ≤ high then some (n, t) else none

/-- The text after a code point that must be at its front. -/
def expect? (c : CodePoint) : Text → Option Text
  | []     => none
  | d :: t => if d = c then some t else none

/-- The text after a time, with or without a fraction of a second. -/
def afterTime? (t : Text) : Option Text := do
  let (_, t) ← two? 0 23 t
  let t ← expect? ':' t
  let (_, t) ← two? 0 59 t
  let t ← expect? ':' t
  let (_, t) ← two? 0 59 t
  match t with
  | 0x2E :: c :: t =>
    if c.isDigit then return t.dropWhile CodePoint.isDigit else return 0x2E :: c :: t
  | t => return t

/-- The text after an offset from universal time. -/
def afterOffset? (t : Text) : Option Text := do
  let (_, t) ← two? 0 23 t
  let t ← expect? ':' t
  let (_, t) ← two? 0 59 t
  return t

/-- The text after a time and an optional offset that follow a date, or the text itself. -/
def afterDayTime (t : Text) : Text :=
  match t with
  | [] => []
  | c :: t' =>
    if c = 'T' ∨ c = 't' ∨ c = ' ' then
      match afterTime? t' with
      | none => t
      | some [] => []
      | some (d :: rest) =>
        if d = 'Z' ∨ d = 'z' then rest
        else if d = '+' ∨ d = '-' then (afterOffset? rest).getD (d :: rest)
        else d :: rest
    else t

/-- The number of days of a month. -/
def daysIn (year month : Nat) : Nat :=
  if month = 2 then
    if year % 4 = 0 ∧ (year % 100 ≠ 0 ∨ year % 400 = 0) then 29 else 28
  else if month = 4 ∨ month = 6 ∨ month = 9 ∨ month = 11 then 30
  else 31

/-- A date, and whether the calendar has it. -/
def readDate? (t : Text) : Option (Bool × Text) := do
  let (year, t) ← fixed? 4 t
  let t ← expect? '-' t
  let (month, t) ← two? 1 12 t
  let t ← expect? '-' t
  let (day, t) ← two? 1 31 t
  return (1 ≤ year && day ≤ daysIn year month, t)

/-- A date, a time, or both, if the text starts with one. -/
def readMoment? (t : Text) : Option (Except ReadError (Value × Text)) :=
  let moment (rest : Text) : Value × Text := (.moment (t.take (t.length - rest.length)), rest)
  match readDate? t with
  | some (true, rest)  => some (.ok (moment (afterDayTime rest)))
  | some (false, _)    => some (.error .malformed)
  | none               => (afterTime? t).map fun rest => .ok (moment rest)

end ScriptLint.Toml
