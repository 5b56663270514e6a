import FrameGraph.Number.Double
import FrameGraph.Number.Shortest

/-!
# Numerals

A numeral is what the grammar of JSON calls a number: sign, integer digits,
fraction digits, exponent. What it is worth is a second step, `Numeral.number?`:

* an integer of at most 64 bits without fraction and exponent is exact, except
  that `-0` is the real number it looks like;
* all other numerals are reals. Digits go into a 64-bit significand for as long
  as they fit; an integer digit that does not fit scales the rest by ten, a
  fraction digit that does not fit is dropped together with all after it;
* a numeral beyond the range of double precision is worth nothing.
-/
namespace FrameGraph.Json

structure Numeral where
  negative : Bool
  whole : List Digit
  /-- Empty if no point was written. -/
  fraction : List Digit
  /-- Sign (true for a minus) and digits of the written exponent. -/
  exponent : Option (Bool × List Digit)
  deriving DecidableEq, Repr

/-- What a numeral is worth. -/
inductive Number where
  | natural (n : Nat)
  /-- The integer `-n`, for a positive `n`. -/
  | negative (n : Nat)
  | real (x : Double)
  deriving DecidableEq, Repr

namespace Numeral

/-- Appends digits to a significand while it stays below `2 ^ 64`; the digits
that found no place are left. -/
def gather (m : Nat) : List Digit → Nat × List Digit
  | [] => (m, [])
  | d :: ds => if 10 * m + d.val < Nat.pow 2 64 then gather (10 * m + d.val) ds else (m, d :: ds)

/-- Significand and decimal exponent of the digits before the `e`. -/
def significand (n : Numeral) : Nat × Int :=
  let (m, high) := gather 0 n.whole
  let (m, low) := gather m n.fraction
  (m, (high.length : Int) - ((n.fraction.length - low.length : Nat) : Int))

/-- The written exponent. -/
def scale (n : Numeral) : Int :=
  match n.exponent with
  | none => 0
  | some (true, ds) => -(Decimal.value ds : Int)
  | some (false, ds) => Decimal.value ds

/-- Neither fraction nor exponent, and it fits in 64 bits. -/
def integer? (n : Numeral) : Option Nat :=
  if n.fraction = [] ∧ n.exponent = none ∧ (gather 0 n.whole).2 = [] then
    some (gather 0 n.whole).1
  else none

def real? (n : Numeral) : Option Number :=
  let (m, e) := n.significand
  (Double.decimal? m (e + n.scale)).map fun a => .real ⟨n.negative, a⟩

/-- What the numeral is worth; `none` if it is out of range. -/
def number? (n : Numeral) : Option Number :=
  match n.integer? with
  | some m =>
    if n.negative then
      if 0 < m ∧ m ≤ Nat.pow 2 63 then some (.negative m)
      else some (.real ⟨true, Double.natMagnitude m⟩)
    else some (.natural m)
  | none => n.real?

/-! ## Writing numbers -/

def ofNat (n : Nat) : Numeral := ⟨false, Decimal.digits n, [], none⟩

def ofInt (i : Int) : Numeral := ⟨decide (i < 0), Decimal.digits i.natAbs, [], none⟩

/-- Exponents from -6 to 12 are written positionally, with a digit after the
point; beyond them one digit stands before the point and the exponent has a
sign. -/
def ofShortDecimal (negative : Bool) (x : Single.ShortDecimal) : Numeral :=
  if -6 ≤ x.exponent ∧ x.exponent < 0 then
    ⟨negative, [Decimal.zero],
      List.replicate (x.exponent.natAbs - 1) Decimal.zero ++ x.digits, none⟩
  else if 0 ≤ x.exponent ∧ x.exponent ≤ 12 then
    let places := x.exponent.natAbs + 1
    let low := x.digits.drop places
    ⟨negative, x.digits.take places ++ List.replicate (places - x.digits.length) Decimal.zero,
      if low = [] then [Decimal.zero] else low, none⟩
  else
    ⟨negative, x.digits.take 1, x.digits.drop 1,
      some (decide (x.exponent < 0), Decimal.digits x.exponent.natAbs)⟩

/-- The shortest numeral of a finite single. -/
def ofSingle (x : Single) : Numeral :=
  if x.magnitude = 0 then ⟨x.isNegative, [Decimal.zero], [Decimal.zero], none⟩
  else ofShortDecimal x.isNegative (Single.shortest x.magnitude)

/-- Sign, digits, point and exponent in the order they are written. -/
def chars (n : Numeral) : List Char :=
  (if n.negative then ['-'] else []) ++ n.whole.map Decimal.char
    ++ (if n.fraction = [] then [] else '.' :: n.fraction.map Decimal.char)
    ++ (match n.exponent with
        | none => []
        | some (negative, ds) => 'e' :: (if negative then '-' else '+') :: ds.map Decimal.char)

end Numeral

namespace Number

/-- An integer of at most 32 bits. -/
def toUInt32? : Number → Option UInt32
  | natural n => if n < Nat.pow 2 32 then some (UInt32.ofNat n) else none
  | _ => none

def toInt32? : Number → Option Int32
  | natural n => if n < Nat.pow 2 31 then some (Int32.ofNat n) else none
  | negative n => if n ≤ Nat.pow 2 31 then some (Int32.ofInt (-n)) else none
  | real _ => none

/-- Integers are rounded once, reals once more than they already are. -/
def toSingle : Number → Single
  | natural n => Single.ofNat n
  | negative n => Single.ofMagnitude true (Format.single.nearest n 1)
  | real x => x.toSingle

end Number
end FrameGraph.Json
