import FrameGraph.Wire.Record

/-!
# What a script compiler reports

The compiler reports a fault of the script with its place. Whether that makes a
load error or an evaluation error depends on what was asked of it.
-/
namespace FrameGraph

structure Diagnostic where
  line : UInt32
  column : UInt32
  description : String
  deriving DecidableEq, Repr

namespace Diagnostic

/-- A fault of the compiler itself stands at no place in the script. -/
def nowhere (description : String) : Diagnostic := ⟨0, 0, description⟩

def place (d : Diagnostic) : String := s!"{d.line.toNat}:{d.column.toNat}: {d.description}"

/-- The script was rejected. -/
def loadMessage (d : Diagnostic) : String := s!"script error at {d.place}"

/-- The script could not be evaluated for this frame. -/
def evaluationMessage (d : Diagnostic) : String := s!"frame evaluation failed at {d.place}"

def codec : Wire.Codec Diagnostic :=
  .record
    (.and (.optional "line" .uint32 0)
      (.and (.optional "column" .uint32 0)
        (.one "desc" .text (some "") ["description"] fun _ => false)))
    (fun (line, column, description) => ⟨line, column, description⟩)
    (fun d => (d.line, d.column, d.description))

end Diagnostic
end FrameGraph
