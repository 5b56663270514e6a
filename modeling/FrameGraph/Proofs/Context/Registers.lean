import Mathlib
import FrameGraph.Context

/-!
# What a request for a variable gives

A store is read through its registers: the value each name has, if it has one. A
request for a variable reads its register, or writes its default there if the register
has no value of the right type, and what the register then holds is fed back.

Results:
* `sameType_of_settled`: what is fed back has the type of the default.
* `resolve_spec`: the store does exactly that.
-/
namespace FrameGraph

/-- The name and the default of a request for a variable. -/
def ContextRequest.variable? : ContextRequest → Option (String × ContextValue)
  | .float r => some (r.name, .float r.default)
  | .int r => some (r.name, .int r.default)
  | .bool r => some (r.name, .bool r.default)
  | .text r => some (r.name, .text r.default)
  | .cachedImage _ | .loadedImage _ => none

/-- What is fed back of a value: a switch as a number, and a text not at all. -/
def ContextValue.input? (name : String) : ContextValue → Option ContextInput
  | .float v => some (.float name v)
  | .int v => some (.int name v)
  | .bool v => some (.int name (if v then 1 else 0))
  | .text _ => none

/-- The value of each name. -/
abbrev Registers := String → Option ContextValue

namespace Registers

/-- What a register holds once it is requested with this default. -/
def settled (regs : Registers) (name : String) (default : ContextValue) : ContextValue :=
  match regs name with
  | some v => if v.sameType default then v else default
  | none => default

def write (regs : Registers) (name : String) (value : ContextValue) : Registers :=
  Function.update regs name (some value)

/-- The registers after a request. -/
def meet (regs : Registers) (r : ContextRequest) : Registers :=
  match r.variable? with
  | some (name, default) => regs.write name (regs.settled name default)
  | none => regs

/-- What a request feeds back. -/
def answer (regs : Registers) (r : ContextRequest) : List ContextInput :=
  match r.variable? with
  | some (name, default) => ((regs.settled name default).input? name).toList
  | none => []

/-- What the requests of a frame feed back, each in the registers of its turn. -/
def answers : Registers → List ContextRequest → List ContextInput
  | _, [] => []
  | regs, r :: rs => regs.answer r ++ answers (regs.meet r) rs

/-- A settled register has the type of the default. -/
theorem sameType_of_settled {regs : Registers} {name : String} {default v : ContextValue}
    (h : regs.settled name default = v) : v.sameType default := by
  subst h
  unfold settled
  split
  · split
    · assumption
    · cases default <;> rfl
  · cases default <;> rfl

end Registers

namespace ContextStore

variable {s : ContextStore}

theorem value?_set (name : String) (value : ContextValue) :
    (s.set name value).value? = Registers.write s.value? name value := by
  funext n
  simp only [value?, set, Dict.get?_insert, Registers.write, Function.update_apply]

/-- Settling leaves in the register what it returns. -/
theorem settle_spec (s : ContextStore) (name : String) (default : ContextValue) :
    (s.settle name default).1 = Registers.settled s.value? name default ∧
      (s.settle name default).2.value?
        = Registers.write s.value? name (Registers.settled s.value? name default) := by
  unfold settle Registers.settled
  cases hv : s.value? name with
  | none => exact ⟨rfl, value?_set name default⟩
  | some v =>
    by_cases htype : v.sameType default
    · simp only [htype, if_true]
      refine ⟨trivial, ?_⟩
      rw [Registers.write, ← hv, Function.update_eq_self]
    · simp only [htype]
      exact ⟨rfl, value?_set name default⟩

/-- The store reads and writes the register, and feeds back what it then holds. -/
theorem resolve_spec (s : ContextStore) (r : ContextRequest) :
    (s.resolve r).1.toList = Registers.answer s.value? r ∧
      (s.resolve r).2.value? = Registers.meet s.value? r := by
  cases r with
  | cachedImage r | loadedImage r => exact ⟨rfl, rfl⟩
  | float r | int r | bool r | text r =>
    refine ⟨?_, (settle_spec s r.name _).2⟩
    simp only [resolve, (settle_spec s r.name _).1, Registers.answer, ContextRequest.variable?]
    generalize hv : Registers.settled s.value? r.name _ = v
    -- a value of another type cannot be there
    have htype := Registers.sameType_of_settled hv
    cases v <;> first | rfl | cases htype

end ContextStore
end FrameGraph
