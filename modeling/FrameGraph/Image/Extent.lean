import FrameGraph.Wire.Record

/-!
# Extents

A size in pixels. Nothing can be drawn into a size with an empty axis, so
surfaces are at least one pixel wide and high.
-/
namespace FrameGraph

structure Extent where
  width : UInt32
  height : UInt32
  deriving DecidableEq, Repr, Inhabited

namespace Extent

/-- Each axis raised to one pixel. -/
def atLeastOne (e : Extent) : Extent := ⟨max e.width 1, max e.height 1⟩

def isEmpty (e : Extent) : Bool := e.width = 0 || e.height = 0

/-- Width and height around an `x`. -/
def text (e : Extent) : String := s!"{e.width.toNat}x{e.height.toNat}"

instance : ToString Extent := ⟨text⟩

/-- The axes are called `x` and `y`. -/
def codec : Wire.Codec Extent :=
  .record (.and (.required "x" .uint32) (.required "y" .uint32))
    (fun (w, h) => ⟨w, h⟩) (fun e => (e.width, e.height))

end Extent
end FrameGraph
