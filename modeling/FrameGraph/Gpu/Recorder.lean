import FrameGraph.Gpu.Objects

/-!
# The recording backend

A backend for tests and dry runs. Nothing is rasterised: a draw is recorded with
everything it would depend on, and the surface shows the colour it was cleared to
last. Programs are compiled as far as their interface by a front end, which is a
parameter.
-/
namespace FrameGraph.Gpu

/-- A draw and all it depends on. -/
structure Draw where
  program : ProgramId
  /-- No framebuffer stands for the surface. -/
  framebuffer : Option FramebufferId
  /-- The drawn colour slots and their textures. -/
  attachments : List (UInt32 × TextureId)
  viewport : Extent
  blend : BlendState
  /-- The texture each sampler reads, in the order of the program. -/
  samplers : List (Option TextureId)
  /-- The values that were set, by location. -/
  uniforms : Dict Nat UniformValue
  deriving DecidableEq, Repr

inductive Command where
  | createTexture (texture : TextureId) (format : PixelFormat) (size : Extent)
  | destroyTexture (texture : TextureId)
  | createFramebuffer (framebuffer : FramebufferId)
  | destroyFramebuffer (framebuffer : FramebufferId)
  | compileProgram (program : ProgramId)
  | deleteProgram (program : ProgramId)
  | clear (framebuffer : Option FramebufferId) (color : Color)
  | draw (d : Draw)
  | resizeSurface (size : Extent)
  | endFrame
  deriving DecidableEq, Repr

structure RecordedProgram where
  layout : Program.Layout
  uniforms : Dict Nat UniformValue := .empty
  deriving DecidableEq, Repr

structure Recorder (frontEnd : Program.FrontEnd) where
  objects : Objects RecordedProgram := {}
  /-- Greatest width and height of a texture. -/
  limit : UInt32 := 16384
  /-- How many programs have been compiled. -/
  compiled : Nat := 0
  surfaceColor : Color := ⟨.zero, .zero, .zero, .zero⟩
  commands : List Command := []

namespace RecordedProgram

/-- The texture unit that sampler `i` reads: the integer it was set to, or 0. -/
def unit (p : RecordedProgram) (i : Nat) : UInt32 :=
  match p.uniforms.get? (p.layout.uniforms.length + i) with
  | some (.int n) => n.toUInt32
  | _ => 0

end RecordedProgram

namespace Recorder

variable {fe : Program.FrontEnd}

def record (r : Recorder fe) (c : Command) : Recorder fe := { r with commands := r.commands ++ [c] }

/-- The draws among the commands. -/
def draws (r : Recorder fe) : List Draw :=
  r.commands.filterMap fun | .draw d => some d | _ => none

def createTexture (format : PixelFormat) (size : Extent) (r : Recorder fe) :
    Except Error TextureId × Recorder fe :=
  if allocatable r.limit size then
    let (t, objects) := r.objects.addTexture ⟨format, size⟩
    (.ok t, { r with objects }.record (.createTexture t format size))
  else
    (.error (.allocation s!"{size.text} exceeds the {r.limit.toNat} limit or is empty"), r)

/-- Only what is live can be destroyed. -/
def destroyTexture (t : TextureId) (r : Recorder fe) : Recorder fe :=
  if r.objects.textures.contains t then
    { r with objects := r.objects.removeTexture t }.record (.destroyTexture t)
  else r

def createFramebuffer (r : Recorder fe) : FramebufferId × Recorder fe :=
  let (f, objects) := r.objects.addFramebuffer
  (f, { r with objects }.record (.createFramebuffer f))

def destroyFramebuffer (f : FramebufferId) (r : Recorder fe) : Recorder fe :=
  let r' := { r with objects := r.objects.removeFramebuffer f }
  if r.objects.framebuffers.contains f then r'.record (.destroyFramebuffer f) else r'

def compileProgram (source : String) (r : Recorder fe) :
    Except Program.ShaderError ProgramId × Recorder fe :=
  match Program.compile fe source with
  | .error e => (.error e, r)
  | .ok layout =>
    let (p, objects) := r.objects.addProgram { layout }
    (.ok p, { r with objects, compiled := r.compiled + 1 }.record (.compileProgram p))

def deleteProgram (p : ProgramId) (r : Recorder fe) : Recorder fe :=
  let r' := { r with objects := r.objects.removeProgram p }
  if r.objects.programs.contains p then r'.record (.deleteProgram p) else r'

def uniformLocation (r : Recorder fe) (p : ProgramId) (name : String) : Option Program.Location :=
  (r.objects.programs.get? p).bind fun state => state.layout.location? name

/-- A change of the objects that may fail. -/
def update (r : Recorder fe)
    (step : Objects RecordedProgram → Except Error (Objects RecordedProgram)) :
    Except Error (Recorder fe) :=
  (step r.objects).map fun objects => { r with objects }

def setUniform (location : Program.Location) (value : UniformValue)
    (o : Objects RecordedProgram) : Except Error (Objects RecordedProgram) := do
  let (p, state) ← o.inUse
  discard (settable state.layout location value)
  return o.setProgram p { state with uniforms := state.uniforms.insert location.index value }

/-- What a draw writes; a framebuffer needs at least one attached draw buffer. -/
def attachments (o : Objects RecordedProgram) : Except Error (List (UInt32 × TextureId)) :=
  match o.bound with
  | none => .ok []
  | some f => do
    let t ← o.framebuffer f
    if t.drawn = [] then throw (.draw "framebuffer has no color attachments")
    return t.drawn

/-- The draw that the bindings amount to. -/
def currentDraw (o : Objects RecordedProgram) : Except Error Draw := do
  let (program, state) ← o.inUse
  let attachments ← attachments o
  return {
    program
    framebuffer := o.bound
    attachments
    viewport := o.viewport
    blend := o.blend
    samplers := (List.range state.layout.samplers.length).map fun i =>
      o.units.get? (state.unit i)
    uniforms := state.uniforms }

def clear (color : Color) (r : Recorder fe) : Recorder fe :=
  let r' := if r.objects.bound.isNone then { r with surfaceColor := color } else r
  r'.record (.clear r.objects.bound color)

def resizeSurface (size : Extent) (r : Recorder fe) : Recorder fe :=
  { r with objects := { r.objects with surface := size.atLeastOne } }.record
    (.resizeSurface size.atLeastOne)

/-- The surface as it was last cleared. -/
def picture (r : Recorder fe) : Picture :=
  let c := r.surfaceColor
  ⟨r.objects.surface, (c.red.toByte, c.green.toByte, c.blue.toByte, c.alpha.toByte)⟩

/-- A change of the bindings. -/
def rebind (r : Recorder fe) (f : Objects RecordedProgram → Objects RecordedProgram) :
    Recorder fe :=
  { r with objects := f r.objects }

def perform : {a : Answer} → Call a → StateM (Recorder fe) a.Of
  | _, .createTexture format size => createTexture format size
  | _, .destroyTexture t => fun r => ((), r.destroyTexture t)
  | _, .createFramebuffer => fun r => (.ok r.createFramebuffer.1, r.createFramebuffer.2)
  | _, .destroyFramebuffer f => fun r => ((), r.destroyFramebuffer f)
  | _, .attachColor f slot t => attempt fun r => r.update fun o => o.attachColor f slot t
  | _, .setDrawBuffers f slots => attempt fun r => r.update fun o => o.setDrawBuffers f slots
  | _, .compileProgram source => compileProgram source
  | _, .deleteProgram p => fun r => ((), r.deleteProgram p)
  | _, .uniformLocation p name => fun r => (r.uniformLocation p name, r)
  | _, .useProgram p => attempt fun r => r.update fun o => o.useProgram p
  | _, .setUniform location value => attempt fun r => r.update (setUniform location value)
  | _, .bindTexture unit t => fun r => ((), r.rebind fun o => o.bindTexture unit t)
  | _, .bindFramebuffer f => fun r => ((), r.rebind fun o => { o with bound := f })
  | _, .setViewport size => fun r => ((), r.rebind fun o => { o with viewport := size })
  | _, .setBlend blend => fun r => ((), r.rebind fun o => { o with blend })
  | _, .drawFullscreen => attempt fun r => (currentDraw r.objects).map fun d => r.record (.draw d)
  | _, .clear color => fun r => ((), r.clear color)
  | _, .surfaceSize => fun r => (r.objects.surface, r)
  | _, .resizeSurface size => fun r => (.ok (), r.resizeSurface size)
  | _, .readSurface => fun r => (.ok r.picture, r)
  | _, .endFrame => fun r => ((), r.record .endFrame)

instance : Backend (Recorder fe) := ⟨perform⟩

/-- Nothing is padded: there are no buffers. -/
instance : Reckoning (Recorder fe) where
  compileOps source _ := Program.compileOps fe source
  readOps _ := []

end Recorder
end FrameGraph.Gpu
