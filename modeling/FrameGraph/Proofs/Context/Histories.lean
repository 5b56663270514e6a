import FrameGraph.Proofs.Context.Registers

/-!
# A variable is a register

A store is worked with in events: a frame begins, a variable is set, or the script requests
something. An event concerns one variable at most. What is left of a history without the
events that do not concern a variable is the history of a single register, and neither the
value of the variable nor what is fed back of it depends on anything else.

Results:
* `value?_step`, `input_step`: what an event does to a variable, and what it feeds back of it.
* `value?_run`, `transcript_concerning`: the same of all the events of a history.
* `variables_are_registers`: every variable of a new store, after every history.
-/
namespace FrameGraph

/-- What happens to a store. -/
inductive ContextStore.Event where
  | beginFrame
  | set (name : String) (value : ContextValue)
  | resolve (r : ContextRequest)
  deriving DecidableEq, Repr

namespace ContextStore.Event

/-- The variable that is set or requested. -/
def subject? : Event → Option String
  | beginFrame => none
  | set name _ => some name
  | resolve r => r.variable?.map Prod.fst

def concerns (name : String) (e : Event) : Bool := e.subject? = some name

end ContextStore.Event

open ContextStore (Event)

/-! ## One variable -/

/-- The value of one variable, if it has one. -/
abbrev Register := Option ContextValue

namespace Register

/-- What a request with this default finds: the value that is there if it has the type of the
default, otherwise the default. -/
def settled (reg : Register) (default : ContextValue) : ContextValue :=
  (reg.filter fun v => v.sameType default).getD default

/-- The register after an event on its variable. -/
def after (reg : Register) : Event → Register
  | .beginFrame => reg
  | .set _ value => some value
  | .resolve r =>
    match r.variable? with
    | some (_, default) => some (settled reg default)
    | none => reg

/-- What an event on the variable feeds back. -/
def input? (reg : Register) : Event → Option ContextInput
  | .resolve r => r.variable?.bind fun (name, default) => (settled reg default).input? name
  | _ => none

def run (reg : Register) : List Event → Register
  | [] => reg
  | e :: es => run (after reg e) es

/-- Events, each with what it feeds back. -/
def transcript (reg : Register) : List Event → List (Event × Option ContextInput)
  | [] => []
  | e :: es => (e, input? reg e) :: transcript (after reg e) es

end Register

theorem Registers.settled_eq (regs : Registers) (name : String) (default : ContextValue) :
    regs.settled name default = Register.settled (regs name) default := by
  unfold settled Register.settled
  cases regs name with
  | none => rfl
  | some v =>
    rw [Option.filter_some]
    dsimp only
    split <;> rfl

namespace ContextStore

/-! ## One event -/

variable {s : ContextStore} {name : String} {e : Event}

/-- What an event feeds back, and the store after it. -/
def step (s : ContextStore) : Event → Option ContextInput × ContextStore
  | .beginFrame => (none, s.beginFrame)
  | .set name value => (none, s.set name value)
  | .resolve r => s.resolve r

def run (s : ContextStore) : List Event → ContextStore
  | [] => s
  | e :: es => run (s.step e).2 es

def transcript (s : ContextStore) : List Event → List (Event × Option ContextInput)
  | [] => []
  | e :: es => (e, (s.step e).1) :: transcript (s.step e).2 es

/-- A request feeds back what its variable then holds. -/
theorem resolve_input (s : ContextStore) (r : ContextRequest) :
    (s.resolve r).1
      = r.variable?.bind fun (n, default) => (Register.settled (s.value? n) default).input? n := by
  have hinput := (s.resolve_spec r).1
  rw [Registers.answer] at hinput
  cases hvar : r.variable? with
  | none =>
    rw [hvar] at hinput
    exact Option.toList_eq_nil_iff.1 hinput
  | some v =>
    obtain ⟨n, default⟩ := v
    simp only [hvar, Registers.settled_eq] at hinput
    refine Option.ext fun input => ?_
    rw [← Option.mem_toList, hinput, Option.mem_toList]
    rfl

/-- A request settles its variable and leaves all others. -/
theorem resolve_value? (s : ContextStore) (r : ContextRequest) (n : String) :
    (s.resolve r).2.value? n
      = match r.variable? with
        | some (m, default) =>
          if n = m then some (Register.settled (s.value? m) default) else s.value? n
        | none => s.value? n := by
  rw [(s.resolve_spec r).2, Registers.meet]
  cases r.variable? with
  | none => rfl
  | some v => simp only [Registers.write, Function.update_apply, Registers.settled_eq]

/-- An event that does not concern a variable leaves it alone. -/
theorem value?_step_of_other (h : ¬ e.concerns name) :
    (s.step e).2.value? name = s.value? name := by
  have h : e.subject? ≠ some name := by simpa [Event.concerns] using h
  cases e with
  | beginFrame => rfl
  | set n v =>
    have hne : name ≠ n := fun heq => h (congrArg some heq.symm)
    rw [step, value?_set, Registers.write, Function.update_of_ne hne]
  | resolve r =>
    rw [step, resolve_value?]
    cases hvar : r.variable? with
    | none => rfl
    | some v =>
      refine if_neg fun heq => h ?_
      rw [Event.subject?, hvar, heq]
      rfl

/-- An event that concerns a variable does to it what it does to a register. -/
theorem value?_step (h : e.concerns name) :
    (s.step e).2.value? name = Register.after (s.value? name) e := by
  have h : e.subject? = some name := of_decide_eq_true h
  cases e with
  | beginFrame => cases h
  | set n v =>
    cases h
    rw [step, value?_set, Registers.write, Function.update_self]
    rfl
  | resolve r =>
    obtain ⟨⟨n, default⟩, hvar, rfl⟩ := Option.map_eq_some_iff.1 h
    simp only [step, resolve_value?, Register.after, hvar, if_true]

theorem input_step (h : e.concerns name) :
    (s.step e).1 = Register.input? (s.value? name) e := by
  have h : e.subject? = some name := of_decide_eq_true h
  cases e with
  | beginFrame | set n v => rfl
  | resolve r =>
    obtain ⟨⟨n, default⟩, hvar, rfl⟩ := Option.map_eq_some_iff.1 h
    rw [step, resolve_input, Register.input?, hvar]
    rfl

/-! ## Histories -/

theorem run_append (s : ContextStore) (es es' : List Event) :
    s.run (es ++ es') = (s.run es).run es' := by
  induction es generalizing s with
  | nil => rfl
  | cons e es ih => exact ih _

theorem value?_run (s : ContextStore) (name : String) (es : List Event) :
    (s.run es).value? name = Register.run (s.value? name) (es.filter (Event.concerns name)) := by
  induction es generalizing s with
  | nil => rfl
  | cons e es ih =>
    rw [run, ih]
    by_cases h : e.concerns name
    · rw [List.filter_cons_of_pos h, Register.run, value?_step h]
    · rw [List.filter_cons_of_neg h, value?_step_of_other h]

/-- What is fed back of a variable is what its register feeds back. -/
theorem transcript_concerning (s : ContextStore) (name : String) (es : List Event) :
    (s.transcript es).filter (fun t => t.1.concerns name)
      = Register.transcript (s.value? name) (es.filter (Event.concerns name)) := by
  induction es generalizing s with
  | nil => rfl
  | cons e es ih =>
    rw [transcript]
    by_cases h : e.concerns name
    · rw [List.filter_cons_of_pos (by exact h), List.filter_cons_of_pos h, Register.transcript, ih,
        value?_step h, input_step h]
    · rw [List.filter_cons_of_neg (by exact h), List.filter_cons_of_neg h, ih,
        value?_step_of_other h]

/-- The type of a request's default stays in its register. -/
theorem sameType_settled (reg : Register) (default : ContextValue) :
    (Register.settled reg default).sameType default := by
  have h : Registers.settled (fun _ => reg) "" default = Register.settled reg default :=
    Registers.settled_eq (fun _ => reg) "" default
  exact Registers.sameType_of_settled h

/-- After any history of a new store, what a variable holds and all that was fed back of it
come from the events that concern it, in their order, as if there were no others: setting it
makes it the new value, and a request leaves in it a value of the type of the default (its own,
if that has the type) and feeds this value back. -/
theorem variables_are_registers (name : String) (es : List Event) :
    let s := empty.run es
    let own := es.filter (Event.concerns name)
    s.value? name = Register.run none own ∧
      (empty.transcript es).filter (fun t => t.1.concerns name) = Register.transcript none own ∧
      (∀ value, (s.step (.set name value)).2.value? name = some value) ∧
      (∀ r default, r.variable? = some (name, default) →
        ∃ value,
          (value.sameType default ∧
            ((∃ held, s.value? name = some held ∧ held.sameType default) →
              s.value? name = some value) ∧
            ((¬ ∃ held, s.value? name = some held ∧ held.sameType default) → value = default)) ∧
          (s.step (.resolve r)).2.value? name = some value ∧
          (s.step (.resolve r)).1 = value.input? name) ∧
      (∀ r, r.variable? = none → (s.step (.resolve r)).1 = none) ∧
      ∀ e, ¬ Event.concerns name e → (s.step e).2.value? name = s.value? name := by
  intro s own
  refine ⟨value?_run empty name es, transcript_concerning empty name es, fun value => ?_,
    fun r default hvar => ⟨Register.settled (s.value? name) default, ⟨sameType_settled _ _, ?_, ?_⟩,
      ?_, ?_⟩, fun r hvar => ?_, fun e => value?_step_of_other⟩
  · exact value?_step (by simp [Event.concerns, Event.subject?])
  · rintro ⟨held, hheld, htype⟩
    rw [hheld, Register.settled, Option.filter_some, if_pos htype]
    rfl
  · intro hnone
    simp only [Register.settled]
    rw [Option.filter_eq_none_iff.2, Option.getD_none]
    exact fun held hheld htype => hnone ⟨held, hheld, htype⟩
  · simp only [step, resolve_value?, hvar, if_true]
  · rw [step, resolve_input, hvar]
    rfl
  · rw [step, resolve_input, hvar]
    rfl

/-- A number that is requested as an integer in the second frame, with another variable
beside it. -/
def retyped : List Event :=
  [.beginFrame, .resolve (.float ⟨"gain", .one, .zero, .one⟩), .resolve (.text ⟨"title", "a"⟩),
    .set "gain" (.float .zero), .beginFrame, .set "title" (.text "b"),
    .resolve (.int ⟨"gain", 7, 0, 9⟩)]

theorem variables_are_registers_retyped :
    let s := empty.run retyped
    s.value? "gain" = some (.int 7) ∧
      (s.step (.resolve (.bool ⟨"gain", true⟩))).1 = some (.int "gain" 1) ∧
      (s.step (.resolve (.bool ⟨"gain", true⟩))).2.value? "gain" = some (.bool true) ∧
      (s.step (.resolve (.bool ⟨"gain", true⟩))).2.value? "title" = some (.text "b") := by
  intro s
  obtain ⟨hgain, -, -, hrequest, -, -⟩ := variables_are_registers "gain" retyped
  obtain ⟨htitle, -, -, -, -, hother⟩ := variables_are_registers "title" retyped
  have hgain : s.value? "gain" = some (.int 7) := hgain.trans (by decide)
  obtain ⟨value, ⟨-, -, hdefault⟩, hheld, hinput⟩ :=
    hrequest (.bool ⟨"gain", true⟩) (.bool true) rfl
  obtain rfl : value = .bool true := hdefault fun ⟨held, hheld, htype⟩ => by
    rw [hgain] at hheld
    cases hheld
    cases htype
  exact ⟨hgain, hinput, hheld, (hother _ (by decide)).trans (htitle.trans (by decide))⟩

end ContextStore
end FrameGraph
