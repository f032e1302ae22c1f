import ScriptLint.Number.Decimal

/-!
# Integers in lenient notation

An integer may be given as a text with white space around it, a plus sign, leading zeros, single
underscores between digits, and zeros after a decimal point.
-/

namespace ScriptLint.Lenient

def isWhiteSpace (c : CodePoint) : Bool :=
  (0x09 ≤ c.val ∧ c.val ≤ 0x0D) ∨ c.val = 0x20 ∨ c.val = 0x85 ∨ c.val = 0xA0 ∨ c.val = 0x1680 ∨
  (0x2000 ≤ c.val ∧ c.val ≤ 0x200A) ∨ c.val = 0x2028 ∨ c.val = 0x2029 ∨ c.val = 0x202F ∨
  c.val = 0x205F ∨ c.val = 0x3000

/-- The text without the white space around it. -/
def strip (t : Text) : Text :=
  ((t.dropWhile isWhiteSpace).reverse.dropWhile isWhiteSpace).reverse

/-- The text without a plus sign at its front, which no minus sign may follow. -/
def dropPlus? : Text → Option Text
  | 0x2B :: 0x2D :: _ => none
  | 0x2B :: t         => some t
  | t                 => some t

/-- What is left of digits after the zeros and underscores at their front; `last` is the last one
of these. It stays if nothing or a point comes next. -/
def afterZeros? (last : CodePoint) : Text → Option Text
  | [] => some [last]
  | c :: t =>
    if c = '0' ∨ c = '_' then afterZeros? c t
    else if c.isDigit then some (c :: t)
    else if c = '.' then some (last :: c :: t)
    else none

/-- The text without superfluous zeros at its front. -/
def dropZeros? : Text → Option Text
  | [] => none
  | c :: t =>
    if c = '0' then afterZeros? c t
    else if c.isDigit ∨ c = '-' then some (c :: t)
    else none

/-- The text without a point that only zeros follow. -/
def dropFraction (t : Text) : Text :=
  match Text.cut '.' t with
  | (whole, some zeros) => if zeros.all (· = 0x30) then whole else t
  | (_, none)           => t

/-- Whether two underscores stand side by side. -/
def doubled : Text → Bool
  | c :: d :: t => (c = 0x5F && d = 0x5F) || doubled (d :: t)
  | _           => false

/-- The text without underscores, none of which may stand at an end or beside another. -/
def dropUnderscores? (t : Text) : Option Text :=
  if t.head? = some 0x5F ∨ t.getLast? = some 0x5F ∨ doubled t then none
  else some (t.filter (· ≠ 0x5F))

/-- How a text fails to be an integer. -/
inductive Failure
  | notInteger
  | tooLong
  deriving DecidableEq

/-- The code points that an integer may have without what is superfluous. -/
def maxLength : Nat := 4300

/-- The text of an integer without what is superfluous. -/
def plain? (t : Text) : Option Text := do
  let t ← dropPlus? (strip t)
  let t ← dropZeros? t
  dropUnderscores? (dropFraction t)

/-- The integer that a text gives. -/
def integer (t : Text) : Except Failure Int :=
  match plain? t with
  | none => .error .notInteger
  | some t =>
    if maxLength < t.length then .error .tooLong
    else match Numeral.scan? t with
    | some (n, []) => if n.isInteger then .ok n.toInt else .error .notInteger
    | _            => .error .notInteger

end ScriptLint.Lenient
