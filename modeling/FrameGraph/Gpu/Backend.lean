import FrameGraph.Gpu.Handle
import FrameGraph.Image.Blend
import FrameGraph.Program.Layout
import FrameGraph.Script.Uniform
import FrameGraph.Settings

/-!
# What a backend can be told

A backend is driven call by call: bind a framebuffer, use a program, set
uniforms, draw. Calls are data (`Call`), indexed by the kind of their answer, so
that a backend is one function, a run is a list of calls with their answers, and
whatever stands between a backend and its user treats all calls alike.

Any state with such a function is a `Backend`; nothing else is assumed of it. `Reckoning`
says which sums and products it makes when it compiles a program or reads the surface.
In the other calls words are only added to count objects and locations.
-/
namespace FrameGraph.Gpu

/-- A picture of one colour, as red, green, blue and alpha: nothing is
rasterised, so no surface ever shows more. -/
structure Picture where
  size : Extent
  pixel : UInt8 × UInt8 × UInt8 × UInt8
  deriving DecidableEq, Repr

/-- Kinds of answers. -/
inductive Answer where
  | unit
  | done
  | texture
  | framebuffer
  | program
  | location
  | extent
  | picture
  deriving DecidableEq, Repr

/-- What an answer of each kind is. -/
abbrev Answer.Of : Answer → Type
  | unit => Unit
  | done => Except Error Unit
  | texture => Except Error TextureId
  | framebuffer => Except Error FramebufferId
  | program => Except Program.ShaderError ProgramId
  | location => Option Program.Location
  | extent => Extent
  | picture => Except Error Picture

inductive Call : Answer → Type where
  | createTexture (format : PixelFormat) (size : Extent) : Call .texture
  | destroyTexture (texture : TextureId) : Call .unit
  | createFramebuffer : Call .framebuffer
  | destroyFramebuffer (framebuffer : FramebufferId) : Call .unit
  /-- Attaches a texture at a colour slot, or detaches what is there. -/
  | attachColor (framebuffer : FramebufferId) (slot : UInt32) (texture : Option TextureId) :
    Call .done
  /-- The colour slots that draws into the framebuffer write. -/
  | setDrawBuffers (framebuffer : FramebufferId) (slots : List UInt32) : Call .done
  /-- Builds a fragment program from its text. -/
  | compileProgram (source : String) : Call .program
  | deleteProgram (program : ProgramId) : Call .unit
  /-- Where a program has a uniform or sampler. -/
  | uniformLocation (program : ProgramId) (name : String) : Call .location
  | useProgram (program : ProgramId) : Call .done
  /-- Sets a uniform of the program in use; a sampler is set to a texture unit. -/
  | setUniform (location : Program.Location) (value : UniformValue) : Call .done
  | bindTexture (unit : UInt32) (texture : Option TextureId) : Call .unit
  /-- No framebuffer stands for the surface. -/
  | bindFramebuffer (framebuffer : Option FramebufferId) : Call .unit
  | setViewport (size : Extent) : Call .unit
  | setBlend (blend : BlendState) : Call .unit
  /-- Draws one triangle that covers the viewport. -/
  | drawFullscreen : Call .done
  /-- Clears the colour targets of the bound framebuffer. -/
  | clear (color : Color) : Call .unit
  | surfaceSize : Call .extent
  | resizeSurface (size : Extent) : Call .done
  | readSurface : Call .picture
  /-- Ends what was recorded for this frame. -/
  | endFrame : Call .unit
  deriving DecidableEq, Repr

class Backend (σ : Type) where
  perform : {a : Answer} → Call a → StateM σ a.Of

/-- The sums and products of words that a backend makes for a call. -/
class Reckoning (σ : Type) where
  compileOps (source : String) (b : σ) : List WordOp
  readOps (b : σ) : List WordOp

/-- A call and its answer. -/
structure Event where
  {kind : Answer}
  call : Call kind
  answer : kind.Of

variable {σ : Type} [Backend σ]

def createTexture (format : PixelFormat) (size : Extent) : StateM σ (Except Error TextureId) :=
  Backend.perform (.createTexture format size)

def destroyTexture (texture : TextureId) : StateM σ Unit :=
  Backend.perform (.destroyTexture texture)

def createFramebuffer : StateM σ (Except Error FramebufferId) :=
  Backend.perform .createFramebuffer

def destroyFramebuffer (framebuffer : FramebufferId) : StateM σ Unit :=
  Backend.perform (.destroyFramebuffer framebuffer)

def attachColor (framebuffer : FramebufferId) (slot : UInt32) (texture : Option TextureId) :
    StateM σ (Except Error Unit) :=
  Backend.perform (.attachColor framebuffer slot texture)

def setDrawBuffers (framebuffer : FramebufferId) (slots : List UInt32) :
    StateM σ (Except Error Unit) :=
  Backend.perform (.setDrawBuffers framebuffer slots)

def compileProgram (source : String) : StateM σ (Except Program.ShaderError ProgramId) :=
  Backend.perform (.compileProgram source)

def deleteProgram (program : ProgramId) : StateM σ Unit :=
  Backend.perform (.deleteProgram program)

def uniformLocation (program : ProgramId) (name : String) : StateM σ (Option Program.Location) :=
  Backend.perform (.uniformLocation program name)

def useProgram (program : ProgramId) : StateM σ (Except Error Unit) :=
  Backend.perform (.useProgram program)

def setUniform (location : Program.Location) (value : UniformValue) :
    StateM σ (Except Error Unit) :=
  Backend.perform (.setUniform location value)

def bindTexture (unit : UInt32) (texture : Option TextureId) : StateM σ Unit :=
  Backend.perform (.bindTexture unit texture)

def bindFramebuffer (framebuffer : Option FramebufferId) : StateM σ Unit :=
  Backend.perform (.bindFramebuffer framebuffer)

def setViewport (size : Extent) : StateM σ Unit := Backend.perform (.setViewport size)

def setBlend (blend : BlendState) : StateM σ Unit := Backend.perform (.setBlend blend)

def drawFullscreen : StateM σ (Except Error Unit) := Backend.perform .drawFullscreen

def clear (color : Color) : StateM σ Unit := Backend.perform (.clear color)

def surfaceSize : StateM σ Extent := Backend.perform .surfaceSize

def resizeSurface (size : Extent) : StateM σ (Except Error Unit) :=
  Backend.perform (.resizeSurface size)

def readSurface : StateM σ (Except Error Picture) := Backend.perform .readSurface

def endFrame : StateM σ Unit := Backend.perform .endFrame

end FrameGraph.Gpu
