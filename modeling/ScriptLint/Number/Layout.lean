import ScriptLint.Number.Shortest
import ScriptLint.Text.Basic

/-!
# The text of a binary64 number

A finite number is written by its shortest digits. A number from `10 ^ (-4)` up to, but not
including, `10 ^ 16` is written with a decimal point and at least one digit on both sides of it,
any other with one digit before the point and an exponent of at least two digits after a sign.
What stands for the numbers that are not finite is up to the place the text is written for.
-/

namespace ScriptLint.Binary64

/-- The words for numbers that are not finite. -/
structure Words where
  nan : Text
  infinity : Text

def zeros (n : Nat) : Text := List.replicate n '0'

/-- Digits with a decimal point after the first `point` of them; the point may lie outside. -/
def positional (digits : Text) (point : Int) : Text :=
  if point ≤ 0 then "0." ++ zeros (-point).toNat ++ digits
  else if digits.length ≤ point.toNat then digits ++ zeros (point.toNat - digits.length) ++ ".0"
  else digits.take point.toNat ++ ("." : Text) ++ digits.drop point.toNat

/-- An exponent with its sign and at least two digits. -/
def exponentText (e : Int) : Text :=
  let digits := Text.ofNat e.natAbs
  (if e < 0 then "-" else "+" : Text) ++ zeros (2 - digits.length) ++ digits

/-- Digits with a decimal point after the first of them, and an exponent. -/
def scientific (digits : Text) (point : Int) : Text :=
  let mantissa : Text :=
    if digits.length = 1 then digits else digits.take 1 ++ ("." : Text) ++ digits.drop 1
  mantissa ++ "e" ++ exponentText (point - 1)

/-- The text of the size of a rank. -/
def rankText (rank : Nat) : Text :=
  if rank = 0 then "0.0"
  else
    let (n, grid) := shortest rank
    let digits := Text.ofNat n
    let point := digits.length + grid
    if -4 < point ∧ point ≤ 16 then positional digits point else scientific digits point

def sign (negative : Bool) : Text := if negative then "-" else []

/-- The text of a number. -/
def text (words : Words) : Binary64 → Text
  | .nan                  => words.nan
  | .infinite negative    => sign negative ++ words.infinity
  | .finite negative rank => sign negative ++ rankText rank

/-- The words of messages: `nan`, `inf`. -/
def inMessages : Words := ⟨"nan", "inf"⟩

/-- The words of documents: `NaN`, `Infinity`. -/
def inDocuments : Words := ⟨"NaN", "Infinity"⟩

end ScriptLint.Binary64
