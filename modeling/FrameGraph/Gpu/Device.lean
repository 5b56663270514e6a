import FrameGraph.Gpu.Objects
import FrameGraph.Gpu.Texel

/-!
# The device backend

What a real device is told, without the device: which calls it accepts, what its
uniform buffers hold, and what a draw submits. The device itself accepts
everything it is given, and everything read back from it is zero.

A draw writes the attached draw buffers that the program has an output for, or
the surface if the program writes location 0. It is rejected if there is nothing
to write, if a target is no longer live, and if a texture would be read and
written at once.
-/
namespace FrameGraph.Gpu

inductive Target where
  | surface
  | texture (t : TextureId)
  deriving DecidableEq, Repr

/-- What a draw hands to the device. -/
structure Submission where
  program : ProgramId
  /-- Colour location, target, and how the target blends, if it does. -/
  targets : List (UInt32 × Target × Option BlendState)
  viewport : Extent
  /-- The live texture each sampler reads; without one it reads transparent black. -/
  sampled : List (Option TextureId)
  /-- The uniform buffer. -/
  data : List UInt8
  deriving DecidableEq, Repr

structure DeviceProgram where
  layout : Program.Layout
  /-- The uniform buffer, zero at first. -/
  data : List UInt8
  /-- The texture unit of each sampler. -/
  units : List UInt32
  deriving DecidableEq, Repr

structure Device (frontEnd : Program.FrontEnd) where
  objects : Objects DeviceProgram := {}
  /-- Greatest width and height of a texture. -/
  limit : UInt32 := 8192
  submitted : List Submission := []

namespace DeviceProgram

def ofLayout (layout : Program.Layout) : DeviceProgram where
  layout := layout
  data := List.replicate (paddedBlock layout.blockSize).toNat 0
  units := List.replicate layout.samplers.length 0

/-- Overwrites bytes of the uniform buffer. -/
def write (p : DeviceProgram) (offset : Nat) (bytes : List UInt8) : DeviceProgram :=
  { p with data := p.data.take offset ++ bytes ++ p.data.drop (offset + bytes.length) }

/-- Negative numbers of texture units count as 0. -/
def setUnit (p : DeviceProgram) (index : Nat) (unit : Int32) : DeviceProgram :=
  { p with units := p.units.set index (UInt32.ofNat unit.toInt.toNat) }

end DeviceProgram

namespace Device

variable {fe : Program.FrontEnd}

def createTexture (format : PixelFormat) (size : Extent) (d : Device fe) :
    Except Error TextureId × Device fe :=
  if allocatable d.limit size then
    let (t, objects) := d.objects.addTexture ⟨format, size⟩
    (.ok t, { d with objects })
  else
    (.error (.allocation s!"{size.text} is empty or exceeds the {d.limit.toNat} texture limit"), d)

def compileProgram (source : String) (d : Device fe) :
    Except Program.ShaderError ProgramId × Device fe :=
  match Program.compile fe source with
  | .error e => (.error e, d)
  | .ok layout =>
    let (p, objects) := d.objects.addProgram (.ofLayout layout)
    (.ok p, { d with objects })

def uniformLocation (d : Device fe) (p : ProgramId) (name : String) : Option Program.Location :=
  (d.objects.programs.get? p).bind fun state => state.layout.location? name

/-- A change of the objects that may fail. -/
def update (d : Device fe) (step : Objects DeviceProgram → Except Error (Objects DeviceProgram)) :
    Except Error (Device fe) :=
  (step d.objects).map fun objects => { d with objects }

/-- Takes a value into the uniform buffer, or a unit for a sampler. -/
def assign (p : DeviceProgram) (location : Program.Location) (value : UniformValue) :
    Program.Slot → Except Error DeviceProgram
  | .uniform u =>
    if p.data.length < u.offset.toNat + value.bytes.length then
      .error (.draw s!"uniform at location {location.index} overruns the uniform block")
    else .ok (p.write u.offset.toNat value.bytes)
  | .sampler i _ =>
    match value with
    | .int n => .ok (p.setUnit i n)
    | _ => .error (.samplerValue location.index)

def setUniform (location : Program.Location) (value : UniformValue)
    (o : Objects DeviceProgram) : Except Error (Objects DeviceProgram) := do
  let (p, state) ← o.inUse
  let slot ← settable state.layout location value
  return o.setProgram p (← assign state location value slot)

/-! ## Drawing -/

/-- What a draw writes, restricted to the outputs of the program. -/
def targets (o : Objects DeviceProgram) (layout : Program.Layout) :
    Except Error (List (UInt32 × Target)) := do
  let found ← match o.bound with
    | some f => do
      let t ← o.framebuffer f
      pure ((t.drawn.filter fun a => layout.outputs.contains a.1).map fun a =>
        (a.1, Target.texture a.2))
    | none => pure (if layout.outputs.contains 0 then [(0, Target.surface)] else [])
  if found.isEmpty then throw (.draw "no color attachment matches an output of the program")
  return found

/-- Format and size of a target, which must be live. -/
def targetInfo (o : Objects DeviceProgram) : Target → Except Error TextureInfo
  | .surface => .ok ⟨.rgba8, o.surface⟩
  | .texture t => o.texture t

/-- Formats of full precision do not blend, nor does plain overwriting. -/
def targetBlend (blend : BlendState) (format : PixelFormat) : Option BlendState :=
  if blend = .replace || format.isFloat32 then none else some blend

/-- The texture bound to the unit of each sampler, live or not. -/
def samplerTextures (o : Objects DeviceProgram) (p : DeviceProgram) : List (Option TextureId) :=
  p.units.map fun unit => o.units.get? unit

/-- The first target that a sampler reads. -/
def feedback? (sampled : List (Option TextureId)) (targets : List (UInt32 × Target)) :
    Option TextureId :=
  targets.findSome? fun
    | (_, .texture t) => if sampled.contains (some t) then some t else none
    | (_, .surface) => none

/-- The viewport, cut to the size of the first target. -/
def clipped (viewport target : Extent) : Extent :=
  Extent.atLeastOne ⟨min viewport.width target.width, min viewport.height target.height⟩

/-- What the next draw submits, if it is accepted. -/
def submission (o : Objects DeviceProgram) : Except Error Submission := do
  let (program, state) ← o.inUse
  let targets ← targets o state.layout
  let infos ← targets.mapM fun t => targetInfo o t.2
  let sampled := samplerTextures o state
  match feedback? sampled targets with
  | some t => throw (.draw s!"texture {t.number} is both sampled and rendered to")
  | none => pure ()
  return {
    program
    targets := (targets.zip infos).map fun (t, info) => (t.1, t.2, targetBlend o.blend info.format)
    viewport := clipped o.viewport ((infos.head?.map TextureInfo.size).getD o.viewport)
    sampled := sampled.map fun t => t.filter o.textures.contains
    data := state.data }

/-- A surface of the same size is kept. -/
def resizeSurface (size : Extent) (d : Device fe) : Device fe :=
  { d with objects := { d.objects with surface := size.atLeastOne } }

/-- A change of the bindings. -/
def rebind (d : Device fe) (f : Objects DeviceProgram → Objects DeviceProgram) : Device fe :=
  { d with objects := f d.objects }

/-- The surface as it reads back. -/
def picture (d : Device fe) : Picture := ⟨d.objects.surface, (0, 0, 0, 0)⟩

/-- An image as it reads back: how many pixels, all of one colour. -/
def readTexture (d : Device fe) (t : TextureId) : Except Error (Nat × Color) :=
  (d.objects.texture t).map fun info =>
    (info.size.width.toNat * info.size.height.toNat, Texel.decode info.format [])

def perform : {a : Answer} → Call a → StateM (Device fe) a.Of
  | _, .createTexture format size => createTexture format size
  | _, .destroyTexture t => fun d => ((), d.rebind fun o => o.removeTexture t)
  | _, .createFramebuffer => fun d =>
    (.ok d.objects.addFramebuffer.1, { d with objects := d.objects.addFramebuffer.2 })
  | _, .destroyFramebuffer f => fun d => ((), d.rebind fun o => o.removeFramebuffer f)
  | _, .attachColor f slot t => attempt fun d => d.update fun o => o.attachColor f slot t
  | _, .setDrawBuffers f slots => attempt fun d => d.update fun o => o.setDrawBuffers f slots
  | _, .compileProgram source => compileProgram source
  | _, .deleteProgram p => fun d => ((), d.rebind fun o => o.removeProgram p)
  | _, .uniformLocation p name => fun d => (d.uniformLocation p name, d)
  | _, .useProgram p => attempt fun d => d.update fun o => o.useProgram p
  | _, .setUniform location value => attempt fun d => d.update (setUniform location value)
  | _, .bindTexture unit t => fun d => ((), d.rebind fun o => o.bindTexture unit t)
  | _, .bindFramebuffer f => fun d => ((), d.rebind fun o => { o with bound := f })
  | _, .setViewport size => fun d => ((), d.rebind fun o => { o with viewport := size })
  | _, .setBlend blend => fun d => ((), d.rebind fun o => { o with blend })
  | _, .drawFullscreen => attempt fun d =>
    (submission d.objects).map fun s => { d with submitted := d.submitted ++ [s] }
  | _, .clear _ => fun d => ((), d)
  | _, .surfaceSize => fun d => (d.objects.surface, d)
  | _, .resizeSurface size => fun d => (.ok (), d.resizeSurface size)
  | _, .readSurface => fun d => (.ok d.picture, d)
  | _, .endFrame => fun d => ((), d)

instance : Backend (Device fe) := ⟨perform⟩

/-- The product for the uniform buffer of a program that is accepted. -/
def bufferOps (fe : Program.FrontEnd) (source : String) : List WordOp :=
  match Program.compile fe source with
  | .ok layout => [paddedBlockOp layout.blockSize]
  | .error _ => []

/-- Uniform buffers are padded, and so are the rows of the surface. -/
instance : Reckoning (Device fe) where
  compileOps source _ := Program.compileOps fe source ++ bufferOps fe source
  readOps d := paddedRowOps d.objects.surface.width PixelFormat.rgba8.bytesPerPixel

end Device
end FrameGraph.Gpu
