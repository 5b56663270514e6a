import FrameGraph.Number.Format
import FrameGraph.Number.Hex

/-!
# Single-precision numbers

A number is its 32 bits: colours, uniform components, script variables and the
time are singles. The few operations the library needs are defined exactly, by
rounding quotients.
-/
namespace FrameGraph

/-- A 32-bit floating-point number, as its bits. -/
structure Single where
  bits : UInt32
  deriving DecidableEq, Repr, Inhabited

namespace Single

/-- Attaches a sign to a magnitude. -/
def ofMagnitude (negative : Bool) (magnitude : Nat) : Single :=
  ⟨UInt32.ofNat (if negative then Nat.pow 2 31 + magnitude else magnitude)⟩

def isNegative (x : Single) : Bool := Nat.pow 2 31 ≤ x.bits.toNat

/-- The bits without the sign. -/
def magnitude (x : Single) : Nat := x.bits.toNat % Nat.pow 2 31

def isNaN (x : Single) : Bool := Format.single.infinity < x.magnitude

def isFinite (x : Single) : Bool := x.magnitude < Format.single.infinity

def zero : Single := ⟨0⟩

def one : Single := ⟨0x3f800000⟩

/-- The single nearest to `num / den`. -/
def ofRatio (num den : Nat) : Single := ofMagnitude false (Format.single.nearest num den)

def ofNat (n : Nat) : Single := ofRatio n 1

/-- The bits of a 16-bit number, widened; exact, since every half is a single. -/
def ofHalf (bits : UInt16) : Single :=
  let negative := decide (Nat.pow 2 15 ≤ bits.toNat)
  let magnitude := bits.toNat % Nat.pow 2 15
  if magnitude < Format.half.infinity then
    let (num, den) := Format.half.ratio magnitude
    ofMagnitude negative (Format.single.nearest num den)
  else
    ofMagnitude negative
      (Format.single.infinity + (magnitude - Format.half.infinity) * Nat.pow 2 13)

/-- The value between 0 and 1 nearest to `x`; a number that is none stays. -/
def clampUnit (x : Single) : Single :=
  if x.isNaN then x
  else if x.isNegative then (if x.magnitude = 0 then x else zero)
  else if one.magnitude < x.magnitude then one
  else x

/-- A channel between 0 and 1 as a byte: 255 steps, halves away from zero, and a
number that is none gives 0. The product is itself rounded to a single. -/
def toByte (x : Single) : UInt8 :=
  let c := x.clampUnit
  if c.isNaN then 0
  else
    let (num, den) := Format.single.ratio c.magnitude
    let (n, d) := Format.single.ratio (Format.single.nearest (255 * num) den)
    UInt8.ofNat ((2 * n + d) / (2 * d))

/-- The bits in hexadecimal; all numbers that are none look alike. -/
def toHex (x : Single) : String := if x.isNaN then "nan" else hexWord x.bits

end Single
end FrameGraph
