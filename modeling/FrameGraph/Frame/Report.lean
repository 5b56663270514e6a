import FrameGraph.Frame.ResourceError
import FrameGraph.Pass.Table

/-!
# What became of a frame
-/
namespace FrameGraph

/-- Why a script was not taken over completely. -/
inductive ScriptError where
  /-- The compiler rejected it. -/
  | load (d : Diagnostic)
  /-- Some of its passes could not be built. -/
  | compile (errors : List CompileError)
  deriving DecidableEq, Repr

inductive FrameOutcome where
  /-- No script has been loaded; nothing was drawn. -/
  | idle
  | rendered
  /-- The script could not be evaluated; the last image was shown again. -/
  | evaluationFailed (d : Diagnostic)
  deriving DecidableEq, Repr

structure FrameReport where
  outcome : FrameOutcome
  executed : Nat := 0
  skipped : Nat := 0
  errors : List ResourceError := []
  /-- How a script fared that was picked up before the frame. -/
  load : Option (Except ScriptError Unit) := none

namespace ScriptError

def message : ScriptError → String
  | load d => d.loadMessage
  | compile errors =>
    let first := (errors.head?.map CompileError.text).getD ""
    s!"{errors.length} pass(es) failed to compile; first: {first}"

end ScriptError

namespace FrameReport

def note (r : FrameReport) (es : List ResourceError) : FrameReport :=
  { r with errors := r.errors ++ es }

end FrameReport
end FrameGraph
