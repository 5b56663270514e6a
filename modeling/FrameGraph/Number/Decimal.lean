/-!
# Decimal digits

Digits are `Fin 10`, a numeral is a list of them with the most significant one
first. `digits` writes a natural without leading zeros, `value` reads a list.

Results:
* `value_digits`: writing, then reading, gives the number back.
* `digits_ne_nil`, `head_digits`: there is always a digit, and the first one is
  no zero except for the number 0 itself.
-/
namespace FrameGraph

abbrev Digit := Fin 10

namespace Decimal

def zero : Digit := ⟨0, Nat.succ_pos 9⟩

/-- The number a list of digits denotes. -/
def value (ds : List Digit) : Nat := ds.foldl (fun n d => 10 * n + d.val) 0

/-- The digits of `n` in front of `rest`; `fuel` above `n` is enough. -/
def digitsBefore : Nat → Nat → List Digit → List Digit
  | 0, _, rest => rest
  | fuel + 1, n, rest =>
    let rest := Fin.ofNat 10 n :: rest
    if n < 10 then rest else digitsBefore fuel (n / 10) rest

/-- The shortest numeral of `n`. -/
def digits (n : Nat) : List Digit := digitsBefore (n + 1) n []

def char (d : Digit) : Char := Char.ofNat ('0'.toNat + d.val)

/-- Reads an ASCII digit. -/
def ofChar? (c : Char) : Option Digit :=
  if '0' ≤ c ∧ c ≤ '9' then some (Fin.ofNat 10 (c.toNat - '0'.toNat)) else none

/-- The numeral as text. -/
def text (ds : List Digit) : String := String.ofList (ds.map char)

/-! ## Writing and reading -/

theorem foldl_value (ds : List Digit) (n : Nat) :
    ds.foldl (fun n d => 10 * n + d.val) n = n * Nat.pow 10 ds.length + value ds := by
  induction ds generalizing n with
  | nil => simp [value]
  | cons d ds ih =>
    have hd : value (d :: ds) = (10 * 0 + d.val) * Nat.pow 10 ds.length + value ds := ih _
    have hpow : Nat.pow 10 (ds.length + 1) = Nat.pow 10 ds.length * 10 := rfl
    have hn : 10 * n * Nat.pow 10 ds.length = n * (Nat.pow 10 ds.length * 10) := by
      rw [Nat.mul_comm 10 n, Nat.mul_assoc, Nat.mul_comm 10]
    rw [List.foldl_cons, ih, hd, List.length_cons, hpow, Nat.add_mul, Nat.add_mul, hn]
    omega

theorem value_append (as bs : List Digit) :
    value (as ++ bs) = value as * Nat.pow 10 bs.length + value bs := by
  simp only [value, List.foldl_append]
  exact foldl_value bs _

theorem digitsBefore_eq (fuel n : Nat) (rest : List Digit) (h : n < fuel) :
    digitsBefore fuel n rest = digitsBefore fuel n [] ++ rest := by
  induction fuel generalizing n rest with
  | zero => omega
  | succ fuel ih =>
    simp only [digitsBefore]
    split
    · simp
    · rw [ih (n / 10) _ (by omega), ih (n / 10) [Fin.ofNat 10 n] (by omega)]
      simp

theorem value_digitsBefore (fuel n : Nat) (h : n < fuel) :
    value (digitsBefore fuel n []) = n := by
  induction fuel generalizing n with
  | zero => omega
  | succ fuel ih =>
    simp only [digitsBefore]
    split
    · next hn => simp [value, Fin.ofNat]; omega
    · rw [digitsBefore_eq _ _ _ (by omega), value_append, ih _ (by omega)]
      simp [value, Fin.ofNat]; omega

theorem value_digits (n : Nat) : value (digits n) = n :=
  value_digitsBefore (n + 1) n (Nat.lt_succ_self n)

theorem digits_ne_nil (n : Nat) : digits n ≠ [] := by
  simp only [digits, digitsBefore]
  split
  · simp
  · rw [digitsBefore_eq _ _ _ (by omega)]; simp

theorem head_digitsBefore (fuel n : Nat) (h : n < fuel) (hn : 0 < n) :
    ∃ d rest, digitsBefore fuel n [] = d :: rest ∧ d ≠ 0 := by
  induction fuel generalizing n with
  | zero => omega
  | succ fuel ih =>
    simp only [digitsBefore]
    split
    · next h10 =>
      refine ⟨Fin.ofNat 10 n, [], rfl, ?_⟩
      intro e
      have := congrArg Fin.val e
      simp [Fin.ofNat] at this
      omega
    · obtain ⟨d, rest, e, hd⟩ := ih (n / 10) (by omega) (by omega)
      exact ⟨d, rest ++ [Fin.ofNat 10 n], by rw [digitsBefore_eq _ _ _ (by omega), e]; rfl, hd⟩

/-- No leading zero. -/
theorem head_digits (n : Nat) (hn : 0 < n) : ∃ d rest, digits n = d :: rest ∧ d ≠ 0 :=
  head_digitsBefore (n + 1) n (Nat.lt_succ_self n) hn

theorem ofChar?_char (d : Digit) : ofChar? (char d) = some d := by
  revert d; decide

end Decimal
end FrameGraph
