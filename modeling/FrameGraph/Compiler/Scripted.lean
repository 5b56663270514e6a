import FrameGraph.Compiler.Bridge
import FrameGraph.Dict

/-!
# Scripted compilers

For tests: answers are looked up by the text of the script, and frames are played
in a cycle that no load resets. Results are either records or, behind a bridge,
their texts.
-/
namespace FrameGraph

/-- Prepared results `ρ` and `φ`, and what was asked so far with inputs `ι`. -/
structure Scripted (ρ φ ι : Type) where
  loads : Dict String ρ
  frames : List φ
  next : Nat := 0
  received : List ι := []

namespace Scripted

variable {ρ φ ι : Type}

/-- The next frame of the cycle; `none` if there are no frames. -/
def play (inputs : ι) : StateM (Scripted ρ φ ι) (Option φ) := fun s =>
  (s.frames[s.next % s.frames.length]?,
    { s with next := s.next + 1, received := s.received ++ [inputs] })

/-- Script texts that are not prepared are rejected at their first character. -/
def unexpected (script : String) : LoadResult :=
  .failed ⟨1, 1, s!"unexpected script `{script}`"⟩

instance : ScriptCompiler (Scripted LoadResult FrameResult (List ContextInput)) where
  load script := fun s => ((s.loads.get? script).getD (unexpected script), s)
  frame inputs := do return (← play inputs).getD .empty

instance : JsonBridge (Scripted String String String) where
  load script := fun s => ((s.loads.get? script).getD "", s)
  frame inputs := do return (← play inputs).getD ""

end Scripted
end FrameGraph
