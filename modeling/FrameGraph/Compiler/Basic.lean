import FrameGraph.Script.Frame
import FrameGraph.Script.Shader

/-!
# Script compilers

A session never reads a script's text itself. It hands the text to a compiler
and later asks it to evaluate every frame; what the compiler remembers in between
is its own affair.
-/
namespace FrameGraph

class ScriptCompiler (κ : Type) where
  /-- Makes declarations and passes of a script. -/
  load : String → StateM κ LoadResult
  /-- Evaluates the loaded script for one frame. -/
  frame : List ContextInput → StateM κ FrameResult

end FrameGraph
