import Mathlib
import FrameGraph.Gpu.Faulty

/-!
# What a computation does to its backend

A computation reaches its backend call by call. A `Trail` is such a run of calls,
each made in a state in which a discipline allows it. `Runs` says that a computation is
nothing but a trail, and how it ends; it is put together from the calls by
`Runs.bind`. The same is said of a state that a backend is only a part of, which
`view` takes out.

Results:
* `Trail.keeps`: what every allowed call keeps is kept by a trail.
* `Trail.all`: what is so of every allowed call is so of each call of a trail.
* `Runs.bind`, `Runs.call`, `Runs.keeps`: how triples are put together.
* `Trail.journal_eq`: a layer that may refuse calls journals exactly the trail.
-/
namespace FrameGraph.Gpu

variable {σ τ α β : Type}

/-! ## Computations as functions of the state -/

theorem run_bind (m : StateM τ α) (k : α → StateM τ β) (t : τ) :
    (m >>= k) t = k (m t).1 (m t).2 := rfl

theorem run_map (f : α → β) (m : StateM τ α) (t : τ) : (f <$> m) t = (f (m t).1, (m t).2) := rfl

theorem run_discard (m : StateM τ α) (t : τ) : discard m t = ((), (m t).2) := rfl

theorem run_pure (a : α) (t : τ) : (pure a : StateM τ α) t = (a, t) := rfl

theorem run_get (t : τ) : (get : StateM τ τ) t = (t, t) := rfl

theorem run_modify (f : τ → τ) (t : τ) : (modify f : StateM τ Unit) t = ((), f t) := rfl

/-- What holds before the computation holds after it. -/
def Keeps (I : τ → Prop) (m : StateM τ α) : Prop := ∀ t, I t → I (m t).2

namespace Keeps

variable {I : τ → Prop} {m : StateM τ α}

theorem bind {k : α → StateM τ β} (hm : Keeps I m) (hk : ∀ a, Keeps I (k a)) :
    Keeps I (m >>= k) :=
  fun t ht => hk _ _ (hm t ht)

theorem pure (a : α) : Keeps I (Pure.pure a : StateM τ α) := fun _ ht => ht

theorem get : Keeps I (MonadState.get : StateM τ τ) := fun _ ht => ht

theorem map (f : α → β) (hm : Keeps I m) : Keeps I (f <$> m) := fun t ht => hm t ht

theorem discard (hm : Keeps I m) : Keeps I (Functor.discard m) := fun t ht => hm t ht

end Keeps

/-! ## Trails -/

/-- A layer that may refuse calls journals each of them with its answer. -/
theorem Faulty.journal_perform [Backend σ] {a : Answer} (call : Call a) (f : Faulty σ) :
    (Backend.perform call f).2.journal
      = f.journal ++ [⟨call, (Backend.perform call f).1⟩] := by
  simp only [Backend.perform, Faulty.perform]
  split <;> rfl

/-- Which calls may be made in which states. -/
abbrev Discipline (σ : Type) := σ → {a : Answer} → Call a → Prop

section
variable [Backend σ]

/-- The calls of `es`, each made where `C` allows it, lead from one state to the
other. -/
inductive Trail (C : Discipline σ) : σ → List Event → σ → Prop
  | nil (b : σ) : Trail C b [] b
  | cons {b b' : σ} {es : List Event} {a : Answer} (call : Call a) (allowed : C b call)
      (rest : Trail C (Backend.perform call b).2 es b') :
      Trail C b (⟨call, (Backend.perform call b).1⟩ :: es) b'

namespace Trail

variable {C C' : Discipline σ} {b b' b'' : σ} {es es' : List Event}

theorem append (h : Trail C b es b') (h' : Trail C b' es' b'') : Trail C b (es ++ es') b'' := by
  induction h with
  | nil => exact h'
  | cons call allowed _ ih => exact .cons call allowed (ih h')

theorem single {a : Answer} (call : Call a) (h : C b call) :
    Trail C b [⟨call, (Backend.perform call b).1⟩] (Backend.perform call b).2 :=
  .cons call h (.nil _)

theorem mono (hC : ∀ b {a : Answer} (call : Call a), C b call → C' b call) (h : Trail C b es b') :
    Trail C' b es b' := by
  induction h with
  | nil => exact .nil _
  | cons call allowed _ ih => exact .cons call (hC _ call allowed) ih

/-- What every allowed call keeps is kept, whatever the discipline is. -/
theorem keeps {I : σ → Prop} (h : Trail C b es b')
    (hI : ∀ b {a : Answer} (call : Call a), C b call → I b → I (Backend.perform call b).2)
    (h₀ : I b) : I b' := by
  induction h with
  | nil => exact h₀
  | cons call allowed _ ih => exact ih (hI _ call allowed h₀)

/-- What a discipline says of a call in whatever state holds of the calls that were made. -/
theorem all {p : {a : Answer} → Call a → Prop} (h : Trail C b es b')
    (hp : ∀ b {a : Answer} (call : Call a), C b call → p call) : ∀ e ∈ es, p e.call := by
  induction h with
  | nil =>
    intro e he
    cases he
  | cons call allowed _ ih =>
    intro e he
    rcases List.mem_cons.1 he with rfl | he
    · exact hp _ call allowed
    · exact ih e he

theorem journal_eq {C : Discipline (Faulty σ)} {f f' : Faulty σ} (h : Trail C f es f') :
    f'.journal = f.journal ++ es := by
  induction h with
  | nil => simp
  | cons call _ _ ih =>
    rw [ih, Faulty.journal_perform, List.append_assoc]
    rfl

end Trail

/-- From every state with `P`, the computation makes calls that `C` allows, does
nothing else to the backend, and ends with `Q`. -/
def Runs (view : τ → σ) (C : Discipline σ) (P : τ → Prop) (m : StateM τ α)
    (Q : α → τ → Prop) : Prop :=
  ∀ t, P t → (∃ es, Trail C (view t) es (view (m t).2)) ∧ Q (m t).1 (m t).2

namespace Runs

variable {view : τ → σ} {C C' : Discipline σ} {P P' : τ → Prop} {m : StateM τ α}
  {k : α → StateM τ β} {Q Q' : α → τ → Prop} {R : β → τ → Prop}

theorem bind (hm : Runs view C P m Q) (hk : ∀ a, Runs view C (Q a) (k a) R) :
    Runs view C P (m >>= k) R := by
  intro t ht
  obtain ⟨⟨es, hes⟩, hq⟩ := hm t ht
  obtain ⟨⟨es', hes'⟩, hr⟩ := hk _ _ hq
  exact ⟨⟨es ++ es', hes.append hes'⟩, hr⟩

theorem pure {a : α} (h : ∀ t, P t → Q a t) : Runs view C P (pure a) Q :=
  fun t ht => ⟨⟨[], .nil _⟩, h t ht⟩

theorem get {Q : τ → τ → Prop} (h : ∀ t, P t → Q t t) : Runs view C P get Q :=
  fun t ht => ⟨⟨[], .nil _⟩, h t ht⟩

theorem modify {f : τ → τ} {Q : Unit → τ → Prop}
    (h : ∀ t, P t → view (f t) = view t ∧ Q () (f t)) : Runs view C P (modify f) Q := by
  intro t ht
  obtain ⟨hv, hq⟩ := h t ht
  refine ⟨⟨[], ?_⟩, hq⟩
  show Trail C (view t) [] (view (f t))
  rw [hv]
  exact .nil _

theorem map (f : α → β) {Q : τ → Prop} (h : Runs view C P m fun _ => Q) :
    Runs view C P (f <$> m) fun _ => Q :=
  fun t ht => h t ht

theorem discard {Q : τ → Prop} (h : Runs view C P m fun _ => Q) :
    Runs view C P (discard m) fun _ => Q :=
  fun t ht => h t ht

theorem weaken (h : Runs view C P m Q) (hP : ∀ t, P' t → P t) (hQ : ∀ a t, Q a t → Q' a t) :
    Runs view C P' m Q' :=
  fun t ht => ⟨(h t (hP t ht)).1, hQ _ _ (h t (hP t ht)).2⟩

theorem mono (h : Runs view C P m Q)
    (hC : ∀ b {a : Answer} (call : Call a), C b call → C' b call) : Runs view C' P m Q :=
  fun t ht => ⟨(h t ht).1.imp fun _ hes => hes.mono hC, (h t ht).2⟩

/-- A fact that does not depend on the state can be taken out of it. -/
theorem of_fact {φ : Prop} (h : φ → Runs view C P m Q) : Runs view C (fun t => P t ∧ φ) m Q :=
  fun t ht => h ht.2 t ht.1

/-- What every allowed call keeps of the backend stands beside everything else. -/
theorem keeps {I : σ → Prop} (h : Runs view C P m Q)
    (hI : ∀ b {a : Answer} (call : Call a), C b call → I b → I (Backend.perform call b).2) :
    Runs view C (fun t => P t ∧ I (view t)) m (fun a t => Q a t ∧ I (view t)) := by
  intro t ht
  obtain ⟨⟨es, hes⟩, hq⟩ := h t ht.1
  exact ⟨⟨es, hes⟩, hq, hes.keeps hI ht.2⟩

end Runs

/-- One call. -/
theorem Runs.call {C : Discipline σ} {P : σ → Prop} {a : Answer} {call : Call a}
    {Q : a.Of → σ → Prop} (hC : ∀ b, P b → C b call)
    (hQ : ∀ b, P b → Q (Backend.perform call b).1 (Backend.perform call b).2) :
    Runs id C P (Backend.perform call) Q :=
  fun b hb => ⟨⟨_, .single call (hC b hb)⟩, hQ b hb⟩

end

end FrameGraph.Gpu
