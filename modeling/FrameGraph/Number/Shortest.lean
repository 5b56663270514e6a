import FrameGraph.Number.Decimal
import FrameGraph.Number.Single

/-!
# The shortest decimal of a single

A finite single is written with the fewest digits that read back as the same
single; of the decimals with that many digits the one nearest to its value is
taken, and of two equally near ones the even one.

For a number of digits, the only candidates are the two neighbours of the value
on that decimal grid: if any point of the grid reads back, so does one of them.
-/
namespace FrameGraph
namespace Single

/-- A positive decimal `0.d₁d₂… * 10 ^ (exponent + 1)`: `exponent` is that of the
first digit. -/
structure ShortDecimal where
  digits : List Digit
  exponent : Int
  deriving DecidableEq, Repr

/-- The exponent of the first digit of `num / den`, for a quotient of at least
`10 ^ (-45)`. -/
def leadingExponent (num den : Nat) : Int :=
  ((Decimal.digits (num * Nat.pow 10 45 / den)).length : Int) - 46

/-- The magnitude that `d * 10 ^ k` rounds to. -/
def readDecimal (d : Nat) (k : Int) : Nat :=
  Format.single.nearest (d * Nat.pow 10 k.toNat) (Nat.pow 10 (-k).toNat)

/-- The neighbour of `num / den` on the grid of multiples of `10 ^ k` that reads
back as `magnitude`: the nearer one if both do. -/
def onGrid? (magnitude num den : Nat) (k : Int) : Option Nat :=
  let n := num * Nat.pow 10 (-k).toNat
  let d := den * Nat.pow 10 k.toNat
  let low := n / d
  let near := roundEven n d
  if readDecimal near k = magnitude then some near
  else if readDecimal low k = magnitude then some low
  else if readDecimal (low + 1) k = magnitude then some (low + 1)
  else none

/-- Tries grids from `k` downwards. -/
def search (magnitude num den : Nat) : Nat → Int → Nat × Int
  | 0, k => (roundEven (num * Nat.pow 10 (-k).toNat) (den * Nat.pow 10 k.toNat), k)
  | fuel + 1, k =>
    match onGrid? magnitude num den k with
    | some d => (d, k)
    | none => search magnitude num den fuel (k - 1)

/-- The digits of `d` without the zeros at its end. -/
def significant (d : Nat) : List Digit :=
  ((Decimal.digits d).reverse.dropWhile (· = Decimal.zero)).reverse

/-- The decimal `p.1 * 10 ^ p.2`, without the zeros at its end. -/
def ShortDecimal.ofScaled (p : Nat × Int) : ShortDecimal :=
  ⟨significant p.1, p.2 + (Decimal.digits p.1).length - 1⟩

/-- The shortest decimal of a positive finite magnitude; nine digits always
read back. -/
def shortest (magnitude : Nat) : ShortDecimal :=
  let r := Format.single.ratio magnitude
  .ofScaled (search magnitude r.1 r.2 8 (leadingExponent r.1 r.2))

end Single
end FrameGraph
