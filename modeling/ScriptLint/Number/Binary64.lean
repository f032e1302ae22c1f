/-!
# Binary64 numbers

The finite numbers of one sign, in ascending order, are numbered by their *rank*: zero has rank 0,
the least positive number rank 1, and the greatest `ranks - 1`. A rank below `hidden` is its own
significand, on the grid of `2 ^ (-1074)`; from there on every `hidden` ranks share a grid, which
is twice as coarse as the one before. Rounding to the nearest number, a tie going to the even
significand, is one exact division, and a carry into the next grid is the next rank.
-/

namespace ScriptLint

namespace Binary64

/-- The significand of the numbers with full precision starts here. -/
def hidden : Nat := Nat.pow 2 52

/-- How many finite numbers of one sign there are. -/
def ranks : Nat := 2047 * hidden

/-- The exponent of the finest grid, without its sign. -/
def depth : Nat := 1074

end Binary64

/-- A binary64 number. -/
inductive Binary64
  | nan
  | infinite (negative : Bool)
  | finite (negative : Bool) (rank : Fin Binary64.ranks)
  deriving DecidableEq, Repr

namespace Binary64

def significand (rank : Nat) : Nat :=
  if rank < hidden then rank else hidden + rank % hidden

/-- How many times coarser than the finest the grid of a rank is, as a power of two. -/
def coarseness (rank : Nat) : Nat := rank / hidden - 1

/-- The size of a rank in units of `2 ^ (-1074)`. -/
def units (rank : Nat) : Nat := significand rank * Nat.pow 2 (coarseness rank)

/-- The number of a rank, infinite if there is no such rank. -/
def ofRank (negative : Bool) (rank : Nat) : Binary64 :=
  if h : rank < ranks then .finite negative ⟨rank, h⟩ else .infinite negative

/-- A quotient rounded to the nearest integer, a tie going to the even one. -/
def roundHalfEven (n d : Nat) : Nat :=
  let q := n / d
  let r := n % d
  if 2 * r < d ∨ (2 * r = d ∧ q % 2 = 0) then q else q + 1

/-- The rank nearest to the positive quotient `n / d`. -/
def nearestRank (n d : Nat) : Nat :=
  let scaled := n * Nat.pow 2 depth
  let coarse := Nat.log2 (scaled / d) - 52
  roundHalfEven scaled (d * Nat.pow 2 coarse) + coarse * hidden

/-- The number nearest to `digits * 10 ^ exponent`. The first two cases need no arithmetic on
large powers: beyond `10 ^ 400` all is infinite, below `10 ^ (-330)` all is zero. -/
def ofDecimal (negative : Bool) (digits : Nat) (exponent : Int) : Binary64 :=
  if digits = 0 then ofRank negative 0
  else if 400 < exponent then .infinite negative
  else if exponent + (Nat.log2 digits / 3 + 1 : Nat) < -330 then ofRank negative 0
  else match exponent with
    | .ofNat e   => ofRank negative (nearestRank (digits * Nat.pow 10 e) 1)
    | .negSucc e => ofRank negative (nearestRank digits (Nat.pow 10 (e + 1)))

/-- An integer with a sign. -/
def signed (negative : Bool) (n : Nat) : Int := if negative then -n else n

/-- The integer that a number is, if it is one. -/
def toInt? : Binary64 → Option Int
  | .finite negative rank =>
    if units rank % Nat.pow 2 depth = 0 then
      some (signed negative (units rank / Nat.pow 2 depth))
    else none
  | _ => none

/-- Whether a number is neither infinite nor not a number. -/
def isFinite : Binary64 → Bool
  | .finite .. => true
  | _          => false

def isZero : Binary64 → Bool
  | .finite _ rank => rank.val = 0
  | _              => false

end Binary64

end ScriptLint
