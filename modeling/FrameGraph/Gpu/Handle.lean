import FrameGraph.Image.Extent
import FrameGraph.Image.Format

/-!
# Handles and failures of a GPU

Backends number textures, framebuffers and programs in one sequence. The numbers stand
for 32-bit words; as long as fewer than `2 ^ 32` objects are made, which is assumed
throughout, no number is given twice.
-/
namespace FrameGraph.Gpu

structure TextureId where
  number : Nat
  deriving DecidableEq, Repr, Ord

structure FramebufferId where
  number : Nat
  deriving DecidableEq, Repr, Ord

structure ProgramId where
  number : Nat
  deriving DecidableEq, Repr, Ord

/-- What a number should have stood for. -/
inductive HandleKind where
  | texture
  | framebuffer
  | program
  | location
  deriving DecidableEq, Repr

/-- Why a backend did not do as it was told. -/
inductive Error where
  | allocation (reason : String)
  | invalidHandle (kind : HandleKind) (id : Nat)
  | draw (reason : String)
  | readBack (reason : String)
  deriving DecidableEq, Repr

namespace HandleKind

def name : HandleKind → String
  | texture => "texture"
  | framebuffer => "framebuffer"
  | program => "program"
  | location => "uniform location"

end HandleKind

namespace Error

def message : Error → String
  | allocation reason => s!"texture allocation failed: {reason}"
  | invalidHandle kind id => s!"unknown {kind.name} handle {id}"
  | draw reason => s!"draw rejected: {reason}"
  | readBack reason => s!"read-back failed: {reason}"

/-! ## Causes of rejected draws -/

def noProgram : Error := draw "no program in use"

/-- Samplers are set to the texture unit they read, which is an integer. -/
def samplerValue (location : Nat) : Error :=
  draw s!"sampler at location {location} takes a texture unit"

end Error
end FrameGraph.Gpu
