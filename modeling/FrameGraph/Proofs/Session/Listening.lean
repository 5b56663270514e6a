import FrameGraph.Proofs.Session.Mirroring

/-!
# Listening to a compiler

A compiler that is listened to keeps what it was asked for every frame and what it
answered. Nothing else reads these calls, so a session behaves the same whether its
compiler is listened to or not.

Results:
* `forget_play`: forgetting the calls after a run is the run without them.
-/
namespace FrameGraph

/-- A compiler, with the inputs it got for each frame and its answers. -/
structure Listening (κ : Type) where
  inner : κ
  calls : List (List ContextInput × FrameResult) := []

instance {κ : Type} [ScriptCompiler κ] : ScriptCompiler (Listening κ) where
  load script := fun l =>
    let (result, inner) := ScriptCompiler.load script l.inner
    (result, { l with inner })
  frame inputs := fun l =>
    let (result, inner) := ScriptCompiler.frame inputs l.inner
    (result, { inner, calls := l.calls ++ [(inputs, result)] })

namespace Session

variable {σ κ : Type}

/-- The session with its compiler alone. -/
def forget (s : Session σ (Listening κ)) : Session σ κ :=
  { s with compiler := s.compiler.inner }

/-- The session with its compiler listened to from now on. -/
def listen (s : Session σ κ) : Session σ (Listening κ) :=
  { s with compiler := { inner := s.compiler } }

/-- A run is the same, whether its compiler is listened to or not. -/
theorem forget_play [Gpu.Backend σ] [ScriptCompiler κ] (s : Session σ (Listening κ))
    (acts : List Act) : (s.play acts).forget = s.forget.play acts :=
  let calls : CompilerMap (Listening κ) κ := ⟨Listening.inner, fun _ _ => rfl, fun _ _ => rfl⟩
  (through_play calls s acts).symm

end Session
end FrameGraph
