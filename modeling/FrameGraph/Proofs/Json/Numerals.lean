import Mathlib
import FrameGraph.Proofs.Json.Scanning

/-!
# Numerals as they are printed

Naturals and integers are printed digit by digit, singles by the digits of their shortest
decimal. Either way the numeral is grammatical, and one of at most 64 bits is worth the
number it was made of.

A shortest decimal has a digit, and its first one is no zero, because no step of the search
ends at zero: a decimal that reads back as something positive is not zero, and on the last
grid, where nine digits are taken, the value is more than one step.

Results:
* `grammatical_ofNat`, `grammatical_ofInt`, `grammatical_ofSingle`.
* `number?_ofNat`, `number?_ofInt`.
-/
namespace FrameGraph

namespace Decimal

theorem value_cons (d : Digit) (ds : List Digit) :
    value (d :: ds) = d.val * 10 ^ ds.length + value ds := by
  have h := foldl_value ds d.val
  rw [value, List.foldl_cons, Nat.mul_zero, Nat.zero_add]
  exact h

/-- So many digits are needed for a number as large as this. -/
theorem pow_length_digits_le {n : Nat} (hn : 0 < n) : 10 ^ ((digits n).length - 1) ≤ n := by
  obtain ⟨d, ds, hdigits, hd⟩ := head_digits n hn
  have hvalue := value_digits n
  rw [hdigits, value_cons] at hvalue
  have hpos : 0 < d.val := Nat.pos_of_ne_zero fun h => hd (Fin.ext h)
  rw [hdigits, List.length_cons, Nat.add_sub_cancel]
  calc 10 ^ ds.length ≤ d.val * 10 ^ ds.length := Nat.le_mul_of_pos_left _ hpos
    _ ≤ n := by omega

end Decimal

namespace Json.Numeral

/-! ## Integers -/

/-- Digits are taken in while their number stays below the limit. -/
theorem gather_eq (m : Nat) (ds : List Digit)
    (h : m * 10 ^ ds.length + Decimal.value ds < 2 ^ 64) :
    gather m ds = (m * 10 ^ ds.length + Decimal.value ds, []) := by
  induction ds generalizing m with
  | nil => simp [gather, Decimal.value]
  | cons d ds ih =>
    have hshift : m * 10 ^ (d :: ds).length + Decimal.value (d :: ds)
        = (10 * m + d.val) * 10 ^ ds.length + Decimal.value ds := by
      rw [Decimal.value_cons, List.length_cons]
      ring
    rw [hshift] at h ⊢
    have hpos : 0 < 10 ^ ds.length := Nat.pow_pos (by decide)
    have hstep : 10 * m + d.val ≤ (10 * m + d.val) * 10 ^ ds.length :=
      Nat.le_mul_of_pos_right _ hpos
    have hfits : 10 * m + d.val < Nat.pow 2 64 := by
      have hlimit : Nat.pow 2 64 = 2 ^ 64 := rfl
      omega
    rw [gather, if_pos hfits, ih _ h]

theorem gather_digits {n : Nat} (h : n < 2 ^ 64) : gather 0 (Decimal.digits n) = (n, []) := by
  have hgather := gather_eq 0 (Decimal.digits n)
  rw [Nat.zero_mul, Nat.zero_add, Decimal.value_digits] at hgather
  exact hgather h

/-- A positive number has no zero in front, and zero has nothing behind its digit. -/
theorem digits_leading (n : Nat) (d : Digit) (ds : List Digit) :
    Decimal.digits n ≠ 0 :: d :: ds := by
  intro h
  by_cases hn : n = 0
  · subst hn
    cases h
  · obtain ⟨e, es, hdigits, he⟩ := Decimal.head_digits n (Nat.pos_of_ne_zero hn)
    rw [hdigits] at h
    exact he (List.cons.inj h).1

theorem grammatical_digits (negative : Bool) (n : Nat) :
    Grammatical ⟨negative, Decimal.digits n, [], none⟩ where
  whole := Decimal.digits_ne_nil n
  leading := digits_leading n
  exponent := nofun

theorem grammatical_ofNat (n : Nat) : (ofNat n).Grammatical := grammatical_digits false n

theorem grammatical_ofInt (i : Int) : (ofInt i).Grammatical :=
  grammatical_digits (decide (i < 0)) i.natAbs

theorem integer?_digits (negative : Bool) {n : Nat} (h : n < 2 ^ 64) :
    integer? ⟨negative, Decimal.digits n, [], none⟩ = some n := by
  simp only [integer?, gather_digits h, and_self, if_true]

theorem number?_ofNat {n : Nat} (h : n < 2 ^ 64) : (ofNat n).number? = some (.natural n) := by
  simp only [ofNat, number?, integer?_digits false h, Bool.false_eq_true, if_false]

theorem number?_ofInt {i : Int} (h : i.natAbs ≤ 2 ^ 63) :
    (ofInt i).number? = some (if i < 0 then .negative i.natAbs else .natural i.natAbs) := by
  have hfits : i.natAbs < 2 ^ 64 := by omega
  simp only [ofInt, number?, integer?_digits _ hfits, decide_eq_true_eq]
  split
  · next hneg =>
    have hlimit : Nat.pow 2 63 = 2 ^ 63 := rfl
    rw [if_pos (by omega)]
  · rfl

/-! ## Singles -/

/-- Dropping the zeros at the end leaves the first digit. -/
theorem head_significant {n : Nat} (hn : 0 < n) :
    ∃ d ds, Single.significant n = d :: ds ∧ d ≠ 0 := by
  obtain ⟨d, ds, hdigits, hd⟩ := Decimal.head_digits n hn
  have hzero : d ≠ Decimal.zero := hd
  refine ⟨d, (ds.reverse.dropWhile (· = Decimal.zero)).reverse, ?_, hd⟩
  rw [Single.significant, hdigits, List.reverse_cons, List.dropWhile_append]
  split
  · next hempty =>
    rw [List.isEmpty_iff] at hempty
    simp [hempty, hzero]
  · rw [List.reverse_append]
    rfl

end Json.Numeral

namespace Single

/-- Only zero rounds a quotient of one at least down to zero. -/
theorem roundEven_pos {num den : Nat} (hden : 0 < den) (h : den ≤ num) : 0 < roundEven num den := by
  have hq : 0 < num / den := Nat.div_pos h hden
  simp only [roundEven]
  split
  · exact hq
  split
  · omega
  · omega

theorem readDecimal_zero (k : Int) : readDecimal 0 k = 0 := by
  rw [readDecimal, Nat.zero_mul]
  rfl

theorem onGrid?_pos {magnitude num den : Nat} {k : Int} (hmagnitude : 0 < magnitude) {d : Nat}
    (h : onGrid? magnitude num den k = some d) : 0 < d := by
  have hread : readDecimal d k = magnitude := by
    simp only [onGrid?] at h
    split at h
    · next hnear =>
      cases h
      exact hnear
    split at h
    · next hlow =>
      cases h
      exact hlow
    split at h
    · next hhigh =>
      cases h
      exact hhigh
    · cases h
  refine Nat.pos_of_ne_zero ?_
  rintro rfl
  rw [readDecimal_zero] at hread
  omega

/-- The search ends at a positive decimal if the value is one step of its last grid at least. -/
theorem search_pos {magnitude num den : Nat} (hmagnitude : 0 < magnitude) (hden : 0 < den)
    (fuel : Nat) (k : Int)
    (hlast : den * 10 ^ (k - fuel).toNat ≤ num * 10 ^ (-(k - fuel)).toNat) :
    0 < (search magnitude num den fuel k).1 := by
  induction fuel generalizing k with
  | zero =>
    rw [Nat.cast_zero, Int.sub_zero] at hlast
    exact roundEven_pos (Nat.mul_pos hden (Nat.pow_pos (by decide))) hlast
  | succ fuel ih =>
    rw [search]
    split
    · next d hgrid => exact onGrid?_pos hmagnitude hgrid
    · have hk : k - ((fuel + 1 : Nat) : Int) = k - 1 - fuel := by omega
      rw [hk] at hlast
      exact ih (k - 1) hlast

/-- Eight digits behind the first one the grid is finer than the value. -/
theorem last_grid {num den : Nat} (hden : 0 < den) (hvalue : den ≤ num * 10 ^ 45) :
    den * 10 ^ (leadingExponent num den - (8 : Nat)).toNat
      ≤ num * 10 ^ (-(leadingExponent num den - (8 : Nat))).toNat := by
  have hquotient : 0 < num * 10 ^ 45 / den := Nat.div_pos hvalue hden
  have hlength := Decimal.pow_length_digits_le hquotient
  have hone : 0 < (Decimal.digits (num * 10 ^ 45 / den)).length :=
    List.length_pos_of_ne_nil (Decimal.digits_ne_nil _)
  have hexponent : leadingExponent num den
      = ((Decimal.digits (num * 10 ^ 45 / den)).length : Int) - 46 := rfl
  rw [hexponent]
  generalize (Decimal.digits (num * 10 ^ 45 / den)).length = len at hlength hone
  have hscaled : 10 ^ (len - 1) * den ≤ num * 10 ^ 45 :=
    (Nat.mul_le_mul_right den hlength).trans (Nat.div_mul_le_self _ _)
  by_cases hlen : 54 ≤ len
  · have hup : ((len : Int) - 46 - (8 : Nat)).toNat = len - 54 := by omega
    have hdown : (-((len : Int) - 46 - (8 : Nat))).toNat = 0 := by omega
    have hsplit : 10 ^ (len - 1) = 10 ^ (len - 54) * 10 ^ 53 := by
      rw [← Nat.pow_add]
      congr 1
      omega
    rw [hup, hdown, Nat.pow_zero, Nat.mul_one]
    refine Nat.le_of_mul_le_mul_right ?_ (by decide : 0 < 10 ^ 45)
    calc den * 10 ^ (len - 54) * 10 ^ 45 ≤ den * 10 ^ (len - 54) * 10 ^ 53 :=
          Nat.mul_le_mul_left _ (by decide)
      _ = 10 ^ (len - 1) * den := by rw [hsplit]; ring
      _ ≤ num * 10 ^ 45 := hscaled
  · have hup : ((len : Int) - 46 - (8 : Nat)).toNat = 0 := by omega
    have hdown : (-((len : Int) - 46 - (8 : Nat))).toNat = 54 - len := by omega
    have hsplit : 10 ^ (54 - len) * 10 ^ (len - 1) = 10 ^ 53 := by
      rw [← Nat.pow_add]
      congr 1
      omega
    rw [hup, hdown, Nat.pow_zero, Nat.mul_one]
    refine Nat.le_of_mul_le_mul_right ?_ (Nat.pow_pos (by decide) : 0 < 10 ^ (len - 1))
    calc den * 10 ^ (len - 1) = 10 ^ (len - 1) * den := Nat.mul_comm _ _
      _ ≤ num * 10 ^ 45 := hscaled
      _ ≤ num * 10 ^ 53 := Nat.mul_le_mul_left _ (by decide)
      _ = num * 10 ^ (54 - len) * 10 ^ (len - 1) := by rw [← hsplit]; ring

/-- A positive magnitude is a multiple of the step of the subnormals. -/
theorem parts_bound {magnitude : Nat} (h : 0 < magnitude) :
    0 < (Format.single.parts magnitude).1 ∧ -149 ≤ (Format.single.parts magnitude).2 := by
  have hdepth : (Format.single.depth : Int) = 149 := rfl
  have hpow : 0 < Nat.pow 2 Format.single.fractionBits := by decide
  simp only [Format.parts, hdepth]
  split
  · next hbiased =>
    have hsmall := (Nat.div_eq_zero_iff_lt hpow).1 hbiased
    rw [Nat.mod_eq_of_lt hsmall]
    exact ⟨h, Int.le_refl _⟩
  · next hbiased =>
    have hpos : 0 < magnitude / Nat.pow 2 Format.single.fractionBits := Nat.pos_of_ne_zero hbiased
    generalize magnitude / Nat.pow 2 Format.single.fractionBits = biased at hpos
    constructor <;> omega

/-- The smallest positive single is greater than `10 ^ (-45)`. -/
theorem ratio_bound {magnitude : Nat} (h : 0 < magnitude) :
    0 < (Format.single.ratio magnitude).2
      ∧ (Format.single.ratio magnitude).2 ≤ (Format.single.ratio magnitude).1 * 10 ^ 45 := by
  obtain ⟨hm, he⟩ := parts_bound h
  unfold Format.ratio
  generalize Format.single.parts magnitude = p at hm he
  have hnum : 0 < p.1 * Nat.pow 2 p.2.toNat := Nat.mul_pos hm (Nat.pow_pos (by decide))
  refine ⟨Nat.pow_pos (by decide), ?_⟩
  calc Nat.pow 2 (-p.2).toNat ≤ 2 ^ 149 := Nat.pow_le_pow_right (by decide) (by omega)
    _ ≤ 10 ^ 45 := by decide
    _ ≤ p.1 * Nat.pow 2 p.2.toNat * 10 ^ 45 := Nat.le_mul_of_pos_left _ hnum

theorem search_eight_pos {magnitude num den : Nat} (hmagnitude : 0 < magnitude) (hden : 0 < den)
    (hvalue : den ≤ num * 10 ^ 45) :
    0 < (search magnitude num den 8 (leadingExponent num den)).1 := by
  have hlast := last_grid hden hvalue
  exact search_pos hmagnitude hden 8 _ hlast

/-- A shortest decimal has a digit, and the first one is no zero. -/
theorem head_shortest {magnitude : Nat} (h : 0 < magnitude) :
    ∃ d ds, (shortest magnitude).digits = d :: ds ∧ d ≠ 0 := by
  obtain ⟨hden, hvalue⟩ := ratio_bound h
  have hsearch := search_eight_pos h hden hvalue
  exact Json.Numeral.head_significant hsearch

end Single

namespace Json.Numeral

theorem grammatical_ofShortDecimal (negative : Bool) {x : Single.ShortDecimal}
    (h : ∃ d ds, x.digits = d :: ds ∧ d ≠ 0) : (ofShortDecimal negative x).Grammatical := by
  obtain ⟨d, ds, hdigits, hd⟩ := h
  unfold ofShortDecimal
  split
  · exact ⟨nofun, nofun, nofun⟩
  split
  · refine ⟨?_, ?_, nofun⟩ <;>
      simp only [hdigits, List.take_succ_cons, List.cons_append]
    · nofun
    · intro e es heq
      exact hd (List.cons.inj heq).1
  · simp only [hdigits]
    refine ⟨nofun, nofun, fun negative h => ?_⟩
    exact Decimal.digits_ne_nil _ (Prod.mk.inj (Option.some.inj h)).2

/-- Every single is printed by the grammar. -/
theorem grammatical_ofSingle (x : Single) : (ofSingle x).Grammatical := by
  unfold ofSingle
  split
  · exact ⟨nofun, nofun, nofun⟩
  · next h => exact grammatical_ofShortDecimal _ (Single.head_shortest (Nat.pos_of_ne_zero h))

end Json.Numeral
end FrameGraph
