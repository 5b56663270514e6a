import FrameGraph.Dict
import FrameGraph.Gpu.Backend

/-!
# Objects and bindings

What every backend keeps: live textures, framebuffers and programs, and what is
bound for the next draw. What a program carries besides its layout differs from
backend to backend and is a parameter.

A handle that is no longer live may still be bound or attached; it is found out
when it is used.
-/
namespace FrameGraph.Gpu

structure TextureInfo where
  format : PixelFormat
  size : Extent
  deriving DecidableEq, Repr

structure Targets where
  attachments : Dict UInt32 TextureId := .empty
  drawBuffers : List UInt32 := []
  deriving DecidableEq, Repr

structure Objects (π : Type) where
  /-- The number of the next object. It stands for a 32-bit word: no backend makes `2 ^ 32`
  objects. -/
  nextId : Nat := 1
  textures : Dict TextureId TextureInfo := .empty
  framebuffers : Dict FramebufferId Targets := .empty
  programs : Dict ProgramId π := .empty
  current : Option ProgramId := none
  /-- No framebuffer stands for the surface. -/
  bound : Option FramebufferId := none
  units : Dict UInt32 TextureId := .empty
  viewport : Extent := ⟨1, 1⟩
  blend : BlendState := .replace
  surface : Extent := ⟨1, 1⟩
  deriving Repr

namespace Targets

/-- The attached draw buffers, in the order of the draw buffers. -/
def drawn (t : Targets) : List (UInt32 × TextureId) :=
  t.drawBuffers.filterMap fun slot => (t.attachments.get? slot).map (slot, ·)

def attach (t : Targets) (slot : UInt32) : Option TextureId → Targets
  | some texture => { t with attachments := t.attachments.insert slot texture }
  | none => { t with attachments := t.attachments.erase slot }

end Targets

namespace Objects

variable {π : Type}

/-! ## Textures -/

def addTexture (o : Objects π) (info : TextureInfo) : TextureId × Objects π :=
  (⟨o.nextId⟩,
    { o with nextId := o.nextId + 1, textures := o.textures.insert ⟨o.nextId⟩ info })

def removeTexture (o : Objects π) (t : TextureId) : Objects π :=
  { o with textures := o.textures.erase t }

/-- A texture that should be live. -/
def texture (o : Objects π) (t : TextureId) : Except Error TextureInfo :=
  match o.textures.get? t with
  | some info => .ok info
  | none => .error (.invalidHandle .texture t.number)

def bindTexture (o : Objects π) (unit : UInt32) : Option TextureId → Objects π
  | some t => { o with units := o.units.insert unit t }
  | none => { o with units := o.units.erase unit }

/-! ## Framebuffers -/

def addFramebuffer (o : Objects π) : FramebufferId × Objects π :=
  (⟨o.nextId⟩,
    { o with nextId := o.nextId + 1, framebuffers := o.framebuffers.insert ⟨o.nextId⟩ {} })

/-- A framebuffer that goes is no longer bound. -/
def removeFramebuffer (o : Objects π) (f : FramebufferId) : Objects π :=
  { o with
    framebuffers := o.framebuffers.erase f
    bound := if o.bound = some f then none else o.bound }

def framebuffer (o : Objects π) (f : FramebufferId) : Except Error Targets :=
  match o.framebuffers.get? f with
  | some t => .ok t
  | none => .error (.invalidHandle .framebuffer f.number)

def setTargets (o : Objects π) (f : FramebufferId) (t : Targets) : Objects π :=
  { o with framebuffers := o.framebuffers.insert f t }

/-- Only a live texture can be attached. -/
def attachColor (o : Objects π) (f : FramebufferId) (slot : UInt32) (texture : Option TextureId) :
    Except Error (Objects π) := do
  match texture with
  | some t => discard (o.texture t)
  | none => pure ()
  let t ← o.framebuffer f
  return o.setTargets f (t.attach slot texture)

def setDrawBuffers (o : Objects π) (f : FramebufferId) (slots : List UInt32) :
    Except Error (Objects π) := do
  let t ← o.framebuffer f
  return o.setTargets f { t with drawBuffers := slots }

/-! ## Programs -/

def addProgram (o : Objects π) (p : π) : ProgramId × Objects π :=
  (⟨o.nextId⟩,
    { o with nextId := o.nextId + 1, programs := o.programs.insert ⟨o.nextId⟩ p })

/-- A program that goes is no longer in use. -/
def removeProgram (o : Objects π) (p : ProgramId) : Objects π :=
  { o with
    programs := o.programs.erase p
    current := if o.current = some p then none else o.current }

def program (o : Objects π) (p : ProgramId) : Except Error π :=
  match o.programs.get? p with
  | some state => .ok state
  | none => .error (.invalidHandle .program p.number)

def useProgram (o : Objects π) (p : ProgramId) : Except Error (Objects π) := do
  discard (o.program p)
  return { o with current := some p }

/-- The program in use. -/
def inUse (o : Objects π) : Except Error (ProgramId × π) :=
  match o.current with
  | none => .error .noProgram
  | some p => (o.program p).map (p, ·)

def setProgram (o : Objects π) (p : ProgramId) (state : π) : Objects π :=
  { o with programs := o.programs.insert p state }

end Objects

/-- What a location stands for, if it can take the value: a sampler takes the
number of a texture unit. -/
def settable (layout : Program.Layout) (location : Program.Location) (value : UniformValue) :
    Except Error Program.Slot :=
  match layout.slot? location, value with
  | some (.sampler i s), .int _ => .ok (.sampler i s)
  | some (.sampler _ _), _ => .error (.samplerValue location.index)
  | some (.uniform u), _ => .ok (.uniform u)
  | none, _ => .error (.invalidHandle .location location.index)

/-- Whether a texture of this size can be had. -/
def allocatable (limit : UInt32) (size : Extent) : Bool :=
  !size.isEmpty && size.width ≤ limit && size.height ≤ limit

/-- Lets a step that may fail change a state, which stays as it was if it fails. -/
def attempt {σ ε : Type} (step : σ → Except ε σ) : StateM σ (Except ε Unit) := fun s =>
  match step s with
  | .ok s => (.ok (), s)
  | .error e => (.error e, s)

end FrameGraph.Gpu
