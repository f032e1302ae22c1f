/-!
# Texts

A text is a list of code points. Surrogates are code points too: what a linter script reports, and
what a configuration or a caller names, may hold a surrogate without its partner, and such a text
is carried unchanged until something has to be encoded.
-/

namespace ScriptLint

/-- A Unicode code point, surrogates included. -/
abbrev CodePoint := Fin 0x110000

-- in full, so that literals do not depend on what else is imported
instance CodePoint.neZero : @NeZero Nat Zero.ofOfNat0 0x110000 := ⟨Nat.succ_ne_zero 0x10FFFF⟩

/-- The code point of a character. -/
def CodePoint.ofChar (c : Char) : CodePoint := ⟨c.toNat, by
  have := c.valid
  simp only [UInt32.isValidChar, Nat.isValidChar] at this
  show c.val.toNat < _
  omega⟩

instance : Coe Char CodePoint := ⟨CodePoint.ofChar⟩

abbrev Text := List CodePoint

namespace Text

def ofString (s : String) : Text := s.toList.map CodePoint.ofChar

instance : Coe String Text := ⟨ofString⟩

/-- The text as a string; a lone surrogate, which no string can hold, becomes U+FFFD. -/
def toString (t : Text) : String :=
  String.ofList <| t.map fun c =>
    if 0xD800 ≤ c.val ∧ c.val ≤ 0xDFFF then '\uFFFD' else Char.ofNat c.val

end Text

namespace CodePoint

/-- A first half of a surrogate pair. -/
def isHighSurrogate (c : CodePoint) : Bool := 0xD800 ≤ c.val ∧ c.val ≤ 0xDBFF

/-- A second half of a surrogate pair. -/
def isLowSurrogate (c : CodePoint) : Bool := 0xDC00 ≤ c.val ∧ c.val ≤ 0xDFFF

/-- Half of a surrogate pair, of either kind. -/
def isSurrogate (c : CodePoint) : Bool := 0xD800 ≤ c.val ∧ c.val ≤ 0xDFFF

/-- An ASCII decimal digit. -/
def isDigit (c : CodePoint) : Bool := 0x30 ≤ c.val ∧ c.val ≤ 0x39

def digitValue (c : CodePoint) : Nat := c.val - 0x30

def isLetter (c : CodePoint) : Bool :=
  (0x41 ≤ c.val ∧ c.val ≤ 0x5A) ∨ (0x61 ≤ c.val ∧ c.val ≤ 0x7A)

/-- The value of a hexadecimal digit of either case. -/
def hexValue? (c : CodePoint) : Option Nat :=
  if 0x30 ≤ c.val ∧ c.val ≤ 0x39 then some (c.val - 0x30)
  else if 0x41 ≤ c.val ∧ c.val ≤ 0x46 then some (c.val - 0x37)
  else if 0x61 ≤ c.val ∧ c.val ≤ 0x66 then some (c.val - 0x57)
  else none

/-- The lower-case hexadecimal digit of a value; values from sixteen on count modulo sixteen. -/
def hexDigit (n : Nat) : CodePoint :=
  match n % 16 with
  | 0 => '0' | 1 => '1' | 2 => '2' | 3 => '3' | 4 => '4' | 5 => '5' | 6 => '6' | 7 => '7'
  | 8 => '8' | 9 => '9' | 10 => 'a' | 11 => 'b' | 12 => 'c' | 13 => 'd' | 14 => 'e' | _ => 'f'

/-- A code point from the space to the tilde. -/
def isPlain (c : CodePoint) : Bool := 0x20 ≤ c.val ∧ c.val ≤ 0x7E

/-- The code point of a number, U+FFFD for a number that is none. -/
def ofNat (n : Nat) : CodePoint :=
  if h : n < 0x110000 then ⟨n, h⟩ else 0xFFFD

end CodePoint

namespace Text

/-- Take `lead` off the front of a text that starts with it. -/
def dropLead? (lead t : Text) : Option Text :=
  match lead, t with
  | [], t => some t
  | _ :: _, [] => none
  | a :: lead, b :: t => if a = b then dropLead? lead t else none

/-- Whether a text starts with `lead`. -/
def startsWith (t lead : Text) : Bool := (dropLead? lead t).isSome

/-- The texts one after another with `separator` between neighbours. -/
def join (separator : Text) : List Text → Text
  | [] => []
  | [t] => t
  | t :: u :: ts => t ++ separator ++ join separator (u :: ts)

theorem join_cons (separator t : Text) (ts : List Text) :
    join separator (t :: ts) = t ++ ts.flatMap (separator ++ ·) := by
  induction ts generalizing t with
  | nil => rw [join, List.flatMap_nil, List.append_nil]
  | cons u ts ih => rw [join, ih, List.flatMap_cons, List.append_assoc, List.append_assoc]

/-- The pieces of a text between the code points `c`; a text without `c` is one piece. -/
def splitAt (c : CodePoint) : Text → List Text
  | [] => [[]]
  | d :: t =>
    if d = c then [] :: splitAt c t
    else match splitAt c t with
      | [] => [[d]]
      | piece :: pieces => (d :: piece) :: pieces

/-- The part of a text before the first `c` and, if there is one, the part after it. -/
def cut (c : CodePoint) : Text → Text × Option Text
  | [] => ([], none)
  | d :: t => if d = c then ([], some t) else ((d :: (cut c t).1), (cut c t).2)

/-- Where `needle` first starts in a text, with the text before it. -/
def before? (needle : Text) : Text → Option Text
  | [] => if needle = [] then some [] else none
  | c :: t => if startsWith (c :: t) needle then some [] else (before? needle t).map (c :: ·)

/-- Whether `needle` occurs in a text. -/
def holds (t needle : Text) : Bool := (before? needle t).isSome

/-- The text with each `c` written `d`. -/
def replace (c d : CodePoint) (t : Text) : Text := t.map fun x => if x = c then d else x

def spaces (n : Nat) : Text := List.replicate n ' '

/-- The decimal digits of a number, however many there are. -/
def ofNat (n : Nat) : Text := (Nat.toDigits 10 n).map CodePoint.ofChar

theorem isDigit_of_mem_ofNat {n : Nat} {c : CodePoint} (h : c ∈ ofNat n) :
    c.isDigit = true := by
  obtain ⟨d, hd, rfl⟩ := List.mem_map.mp h
  have hd : 48 ≤ d.toNat ∧ d.toNat ≤ 57 := by
    simpa [Char.isDigit, UInt32.le_iff_toNat_le] using
      Nat.isDigit_of_mem_toDigits (by decide) (by decide) hd
  exact decide_eq_true hd

/-- The decimal digits of an integer, after a minus sign if it is negative. -/
def ofInt : Int → Text
  | .ofNat n => ofNat n
  | .negSucc n => '-' :: ofNat (n + 1)

/-- The `digits` lowest hexadecimal digits of a number. -/
def hex : Nat → Nat → Text
  | 0, _ => []
  | digits + 1, n => hex digits (n / 16) ++ [CodePoint.hexDigit n]

/-- The number that a run of decimal digits writes. -/
def digitsValue (t : Text) : Nat := t.foldl (fun n c => 10 * n + c.digitValue) 0

/-- How many UTF-16 units a text takes. -/
def units16 (t : Text) : Nat := t.foldl (fun n c => n + if c.val < 0x10000 then 1 else 2) 0

/-- The order of texts by code points. -/
def lessEqual : Text → Text → Bool
  | [], _ => true
  | _ :: _, [] => false
  | a :: t, b :: u => a < b || (a == b && lessEqual t u)

end Text

end ScriptLint
