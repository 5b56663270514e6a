/-!
# Binary floating-point formats

A format has a number of fraction bits and of exponent bits. The magnitude of a
number is the bit pattern without the sign: read as a natural number, it grows
with the value, and the pattern of infinity is the first one that is no finite
value.

`nearest` rounds an exact quotient of naturals to the nearest magnitude, ties to
the even one; `parts` reads a finite magnitude back as `m * 2 ^ e`. Both are
exact natural-number arithmetic.
-/
namespace FrameGraph

/-- The shape of a binary floating-point number. -/
structure Format where
  fractionBits : Nat
  exponentBits : Nat
  deriving DecidableEq, Repr

namespace Format

/-- Sixteen bits. -/
def half : Format := ⟨10, 5⟩

/-- Thirty-two bits. -/
def single : Format := ⟨23, 8⟩

/-- Sixty-four bits. -/
def double : Format := ⟨52, 11⟩

variable (f : Format)

/-- The pattern of infinity, one above the greatest finite magnitude. -/
def infinity : Nat := (Nat.pow 2 f.exponentBits - 1) * Nat.pow 2 f.fractionBits

/-- How far below 0 the exponent of the last fraction bit of a subnormal lies. -/
def depth : Nat := Nat.pow 2 (f.exponentBits - 1) + f.fractionBits - 2

/-- A finite magnitude as `m * 2 ^ e`. -/
def parts (magnitude : Nat) : Nat × Int :=
  let biased := magnitude / Nat.pow 2 f.fractionBits
  let fraction := magnitude % Nat.pow 2 f.fractionBits
  if biased = 0 then (fraction, -(f.depth : Int))
  else (Nat.pow 2 f.fractionBits + fraction, (biased : Int) - 1 - f.depth)

/-- A magnitude as an exact quotient. -/
def ratio (magnitude : Nat) : Nat × Nat :=
  let (m, e) := f.parts magnitude
  (m * Nat.pow 2 e.toNat, Nat.pow 2 (-e).toNat)

end Format

/-- `num / den` to the nearest integer, ties to the even one. -/
def roundEven (num den : Nat) : Nat :=
  let q := num / den
  let twice := 2 * (num % den)
  if twice < den then q
  else if den < twice then q + 1
  else q + q % 2

/-- The greatest `l` with `2 ^ l ≤ num / den`, for positive arguments. -/
def log2Ratio (num den : Nat) : Int :=
  let l : Int := (num.log2 : Int) - den.log2
  if num * Nat.pow 2 (-l).toNat < den * Nat.pow 2 l.toNat then l - 1 else l

namespace Format

/-- The magnitude nearest to `num / den`, ties to even; too large a quotient
gives infinity. The steps of the result are those of its binade, never finer
than the steps of the subnormals. -/
def nearest (f : Format) (num den : Nat) : Nat :=
  if num = 0 then 0
  else
    let step : Int := max (log2Ratio num den - f.fractionBits) (-(f.depth : Int))
    let m := roundEven (num * Nat.pow 2 (-step).toNat) (den * Nat.pow 2 step.toNat)
    min f.infinity ((step + f.depth).toNat * Nat.pow 2 f.fractionBits + m)

end Format
end FrameGraph
