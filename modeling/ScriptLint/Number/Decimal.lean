import ScriptLint.Number.Binary64
import ScriptLint.Text.Basic

/-!
# Decimal numerals

A numeral has an optional minus sign, an integer part without superfluous zeros, and optionally a
fraction and an exponent. Reading takes the longest numeral at the front of a text: a point
without a digit after it, or an exponent mark without a digit, is not part of it.
-/

namespace ScriptLint

/-- The parts of a numeral, as runs of digits; the exponent is a run with its sign. -/
structure Numeral where
  negative : Bool
  whole : Text
  fraction : Option Text
  exponent : Option (Bool × Text)
  deriving DecidableEq, Repr

namespace Numeral

/-- The longest run of digits at the front of a text, and the rest. -/
def digits (t : Text) : Text × Text :=
  (t.takeWhile CodePoint.isDigit, t.dropWhile CodePoint.isDigit)

/-- The integer part at the front of a text. -/
def whole? : Text → Option (Text × Text)
  | [] => none
  | c :: t =>
    if c = '0' then some ([c], t)
    else if c.isDigit then some (digits (c :: t))
    else none

/-- The fraction at the front of a text, if there is one. -/
def fraction? : Text → Option Text × Text
  | [] => (none, [])
  | c :: t =>
    match digits t with
    | ([], _)  => (none, c :: t)
    | (ds, t') => if c = '.' then (some ds, t') else (none, c :: t)

/-- The sign at the front of an exponent. -/
def exponentSign : Text → Bool × Text
  | [] => (false, [])
  | c :: t => if c = '-' then (true, t) else if c = '+' then (false, t) else (false, c :: t)

/-- The exponent at the front of a text, if there is one. -/
def exponent? : Text → Option (Bool × Text) × Text
  | [] => (none, [])
  | c :: t =>
    let (negative, t') := exponentSign t
    match digits t' with
    | ([], _)   => (none, c :: t)
    | (ds, t'') => if c = 'e' ∨ c = 'E' then (some (negative, ds), t'') else (none, c :: t)

/-- The numeral without a sign at the front of a text. -/
def unsigned? (negative : Bool) (t : Text) : Option (Numeral × Text) :=
  (whole? t).map fun (whole, t) =>
    let (fraction, t) := fraction? t
    let (exponent, t) := exponent? t
    (⟨negative, whole, fraction, exponent⟩, t)

/-- The numeral at the front of a text, with the rest of the text. -/
def scan? (t : Text) : Option (Numeral × Text) :=
  match t with
  | [] => none
  | c :: t => if c = '-' then unsigned? true t else unsigned? false (c :: t)

/-- Whether a numeral has neither fraction nor exponent. -/
def isInteger (n : Numeral) : Bool := n.fraction.isNone && n.exponent.isNone

/-- The integer that an integer numeral writes. -/
def toInt (n : Numeral) : Int := Binary64.signed n.negative (Text.digitsValue n.whole)

/-- The value of an exponent. -/
def exponentValue : Option (Bool × Text) → Int
  | none => 0
  | some (negative, ds) => Binary64.signed negative (Text.digitsValue ds)

/-- The binary64 number nearest to a numeral. -/
def toBinary64 (n : Numeral) : Binary64 :=
  let fraction := n.fraction.getD []
  .ofDecimal n.negative (Text.digitsValue (n.whole ++ fraction))
    (exponentValue n.exponent - fraction.length)

end Numeral

end ScriptLint
