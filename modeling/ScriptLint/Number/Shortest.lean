import ScriptLint.Number.Binary64

/-!
# The shortest decimal of a binary64 number

Of the decimals that round to a number, the ones on the coarsest decimal grid are the shortest,
and of those the nearest to the number is its text. If a grid has a decimal that rounds to the
number, so does one of the number's two neighbours on that grid; hence only the neighbours are
tried, grid after grid. All sizes are counted in halves of the finest binary grid, in which the
midpoints between neighbouring numbers are whole.
-/

namespace ScriptLint.Binary64

/-- The least and the greatest size, in half units, that round to a rank or tie with a neighbour. -/
def bounds (rank : Nat) : Nat × Nat :=
  (units (rank - 1) + units rank, units rank + units (rank + 1))

/-- Whether the size `n / d`, in half units, rounds to a rank: a bound itself does so if the
significand is even. -/
def roundsTo (rank n d : Nat) : Bool :=
  let (low, high) := bounds rank
  if significand rank % 2 = 0 then low * d ≤ n && n ≤ high * d else low * d < n && n < high * d

/-- The size of a rank as a quotient in steps of `10 ^ grid`. -/
def steps (rank : Nat) : (grid : Int) → Nat × Nat
  | .ofNat g   => (2 * units rank, Nat.pow 2 (depth + 1) * Nat.pow 10 g)
  | .negSucc g => (2 * units rank * Nat.pow 10 (g + 1), Nat.pow 2 (depth + 1))

/-- Whether the decimal `c * 10 ^ grid` rounds to a rank. -/
def isHit (rank : Nat) (grid : Int) (c : Nat) : Bool :=
  match grid with
  | .ofNat g   => roundsTo rank (c * Nat.pow 10 g * Nat.pow 2 (depth + 1)) 1
  | .negSucc g => roundsTo rank (c * Nat.pow 2 (depth + 1)) (Nat.pow 10 (g + 1))

/-- The neighbour of a rank on a grid that rounds to the rank, the nearer one if both do, and of
two equally near ones the even one. -/
def hit? (rank : Nat) (grid : Int) : Option Nat :=
  let (n, d) := steps rank grid
  let below := n / d
  let above := below + 1
  match isHit rank grid below && below != 0, isHit rank grid above with
  | true,  true  => some (roundHalfEven n d)
  | true,  false => some below
  | false, true  => some above
  | false, false => none

/-- The first hit on the grids from `grid` on downwards, with its grid. -/
def firstHit (rank : Nat) : (tries : Nat) → (grid : Int) → Nat × Int
  | 0, grid => (0, grid)
  | tries + 1, grid =>
    match hit? rank grid with
    | some c => (c, grid)
    | none   => firstHit rank tries (grid - 1)

/-- A power of ten above the size of a positive rank. -/
def topGrid (rank : Nat) : Int :=
  ((Nat.log2 (units rank) : Int) + 1 - depth) * 30103 / 100000 + 1

/-- The digits and the grid of the shortest decimal of a positive rank. Seventeen digits always
suffice, and `topGrid` stands at most two grids above the first digit. -/
def shortest (rank : Nat) : Nat × Int := firstHit rank 24 (topGrid rank)

end ScriptLint.Binary64
