/-!
# Sums and products that are no words

Definitions reckon with words of 32 bits, whose sums and products wrap around. A player
that checks its arithmetic does not wrap around: it stops at the first sum or product
that is no word, and gives no answer at all.

Beside a definition that reckons stand its operations, in the order in which they are
carried out. A checked step goes through them before it is taken. If it is not stopped,
it comes to what the definition says, and no operation of it has wrapped around.

Results:
* `toNat_word`: an operation that fits is exact.
* `stop?_append`, `stop?_eq_none_iff`: where a list of operations stops a step.
* `checked_eq_ok_iff`, `checked_eq_error_iff`: what a checked step comes to.
* `exact_of_checked`: nothing wraps around in a step that is not stopped.
-/
namespace FrameGraph

/-- Why a checked step was stopped. -/
inductive Overflow where
  | addition
  | multiplication
  deriving DecidableEq, Repr

namespace Overflow

def message : Overflow → String
  | addition => "attempt to add with overflow"
  | multiplication => "attempt to multiply with overflow"

end Overflow

/-- A sum or a product of two words. -/
inductive WordOp where
  | sum (a b : UInt32)
  | product (a b : UInt32)
  deriving DecidableEq, Repr

namespace WordOp

/-- The number that is meant. -/
def number : WordOp → Nat
  | sum a b => a.toNat + b.toNat
  | product a b => a.toNat * b.toNat

/-- What is left of it in 32 bits. -/
def word : WordOp → UInt32
  | sum a b => a + b
  | product a b => a * b

def Fits (op : WordOp) : Prop := op.number < UInt32.size

instance (op : WordOp) : Decidable op.Fits := inferInstanceAs (Decidable (_ < _))

def overflow : WordOp → Overflow
  | sum _ _ => .addition
  | product _ _ => .multiplication

/-- Where a step with these operations is stopped. -/
def stop? (ops : List WordOp) : Option Overflow := (ops.find? fun op => ¬ op.Fits).map overflow

theorem toNat_word_mod (op : WordOp) : op.word.toNat = op.number % UInt32.size := by
  cases op with
  | sum a b => exact UInt32.toNat_add a b
  | product a b => exact UInt32.toNat_mul a b

theorem toNat_word {op : WordOp} (h : op.Fits) : op.word.toNat = op.number := by
  rw [toNat_word_mod, Nat.mod_eq_of_lt h]

@[simp] theorem stop?_nil : stop? [] = none := rfl

theorem stop?_cons (op : WordOp) (ops : List WordOp) :
    stop? (op :: ops) = if op.Fits then stop? ops else some op.overflow := by
  unfold stop?
  rw [List.find?_cons]
  by_cases h : op.Fits <;> simp [h]

theorem stop?_append (ops ops' : List WordOp) :
    stop? (ops ++ ops') = (stop? ops).or (stop? ops') := by
  unfold stop?
  rw [List.find?_append]
  cases ops.find? fun op => ¬ op.Fits <;> rfl

theorem stop?_eq_none_iff {ops : List WordOp} : stop? ops = none ↔ ∀ op ∈ ops, op.Fits := by
  unfold stop?
  simp

end WordOp

open WordOp

variable {α τ : Type}

/-- What a step with these operations comes to. -/
def checked (ops : List WordOp) (a : α) : Except Overflow α :=
  match stop? ops with
  | some overflow => .error overflow
  | none => .ok a

theorem checked_eq_ok_iff {ops : List WordOp} {a b : α} :
    checked ops a = .ok b ↔ stop? ops = none ∧ a = b := by
  unfold checked
  cases stop? ops <;> simp

theorem checked_eq_error_iff {ops : List WordOp} {a : α} {overflow : Overflow} :
    checked ops a = .error overflow ↔ stop? ops = some overflow := by
  unfold checked
  cases stop? ops <;> simp

/-- A step that is not stopped reckons exactly. -/
theorem exact_of_checked {ops : List WordOp} {a b : α} (h : checked ops a = .ok b) :
    ∀ op ∈ ops, op.word.toNat = op.number := by
  intro op hop
  have hfits := stop?_eq_none_iff.1 (checked_eq_ok_iff.1 h).1
  exact toNat_word (hfits op hop)

/-- Steps on a state, each of which may be stopped. -/
abbrev CheckedM (τ : Type) := StateT τ (Except Overflow)

/-- Checks a step; what it reckons with may depend on the state it starts from. -/
def checking (ops : τ → List WordOp) (run : StateM τ α) : CheckedM τ α := fun t =>
  checked (ops t) (run t)

end FrameGraph
