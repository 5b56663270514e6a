import FrameGraph.Compiler.Basic

/-!
# Replaying recorded results

A bundle holds what a compiler once returned: one load result and a cycle of
frames. Loading starts the cycle anew.
-/
namespace FrameGraph

structure Bundle where
  script : String
  load : LoadResult
  frames : List FrameResult
  deriving DecidableEq, Repr

namespace Bundle

def codec : Wire.Codec Bundle :=
  .record
    (.and (.optional "script" .text "")
      (.and (.required "load" LoadResult.codec) (.optional "frames" (.list FrameResult.codec) [])))
    (fun (script, load, frames) => ⟨script, load, frames⟩)
    (fun b => (b.script, b.load, b.frames))

end Bundle

/-- A bundle, how many frames were played since the last load, and every list of
inputs so far. -/
structure Replay where
  bundle : Bundle
  next : Nat := 0
  received : List (List ContextInput) := []
  deriving DecidableEq, Repr

namespace Replay

def load (_script : String) : StateM Replay LoadResult := fun r =>
  (r.bundle.load, { r with next := 0 })

/-- A bundle without frames fails to evaluate. -/
def frame (inputs : List ContextInput) : StateM Replay FrameResult := fun r =>
  let r := { r with received := r.received ++ [inputs] }
  match r.bundle.frames[r.next % r.bundle.frames.length]? with
  | some result => (result, { r with next := r.next + 1 })
  | none => (.failed (.nowhere "replay bundle has no recorded frames"), r)

instance : ScriptCompiler Replay := ⟨load, frame⟩

end Replay
end FrameGraph
