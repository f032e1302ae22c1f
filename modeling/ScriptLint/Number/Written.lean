import ScriptLint.Text.Basic

/-!
# Written integers

Integers come from outside in any size, but one of more than a fixed number of digits is neither
read nor written. Counts and positions of what is at hand are never that long.
-/

namespace ScriptLint

/-- The digits that an integer may have where it is read or written. -/
def maxDigits : Nat := 4300

/-- An integer of so many digits that it can be read and written. -/
def IsShort (n : Int) : Prop := (Text.ofNat n.natAbs).length ≤ maxDigits

instance : DecidablePred IsShort := fun _ => inferInstanceAs (Decidable (_ ≤ _))

namespace Text

/-- The text of an integer, unless it has too many digits. -/
def ofInt? (n : Int) : Option Text := if IsShort n then some (ofInt n) else none

theorem ofInt?_of_isShort {n : Int} (h : IsShort n) : ofInt? n = some (ofInt n) := if_pos h

theorem ofInt?_of_not_isShort {n : Int} (h : ¬ IsShort n) : ofInt? n = none := if_neg h

/-- The wording for an integer that cannot be written. -/
def tooLongToWrite : Text :=
  "Exceeds the limit (" ++ ofNat maxDigits ++
    " digits) for integer string conversion; use sys.set_int_max_str_digits() to increase the limit"

end Text

end ScriptLint
