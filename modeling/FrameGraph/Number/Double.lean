import FrameGraph.Number.Single

/-!
# Decimals read in double precision

A decimal `m * 10 ^ e` is read in three roundings: the significand, the power of
ten, and their product or quotient. That is fast and at most a few units off, so
it is not always the double nearest to the decimal. Exponents below the table of
powers are worked off 308 at a time.
-/
namespace FrameGraph

/-- A sign and the magnitude of a 64-bit number. -/
structure Double where
  negative : Bool
  magnitude : Nat
  deriving DecidableEq, Repr

namespace Double

/-- The magnitude nearest to a natural. -/
def natMagnitude (n : Nat) : Nat := Format.double.nearest n 1

def times (a b : Nat) : Nat :=
  let (n, d) := Format.double.ratio a
  let (n', d') := Format.double.ratio b
  Format.double.nearest (n * n') (d * d')

def dividedBy (a b : Nat) : Nat :=
  let (n, d) := Format.double.ratio a
  let (n', d') := Format.double.ratio b
  Format.double.nearest (n * d') (d * n')

def power (k : Nat) : Nat := natMagnitude (Nat.pow 10 k)

/-- Divides by `10 ^ k`, at most 308 decimal places a step; the third step leaves
nothing of a 64-bit significand, so four are as good as any number. -/
def shrink : Nat → Nat → Nat → Nat
  | 0, _, _ => 0
  | steps + 1, a, k =>
    if k ≤ 308 then dividedBy a (power k) else shrink steps (dividedBy a (power 308)) (k - 308)

/-- The magnitude of `significand * 10 ^ exponent`, or `none` beyond the range. -/
def decimal? (significand : Nat) (exponent : Int) : Option Nat :=
  let a := natMagnitude significand
  if exponent < 0 then some (shrink 4 a exponent.natAbs)
  else if 308 < exponent then (if a = 0 then some 0 else none)
  else
    let r := times a (power exponent.toNat)
    if r < Format.double.infinity then some r else none

/-- Rounds to single precision; beyond its range lies infinity. -/
def toSingle (x : Double) : Single :=
  let (n, d) := Format.double.ratio x.magnitude
  Single.ofMagnitude x.negative (Format.single.nearest n d)

end Double
end FrameGraph
