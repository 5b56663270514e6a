import FrameGraph.Frame.Report
import FrameGraph.Image.Cache
import FrameGraph.Script.Frame

/-!
# Running invocations

An invocation is first planned: its pass must exist, and the images it draws into
must be there and of one size. The plan needs no backend. It is then carried out
on the backend; what fails there fails this invocation alone.

A number of attachments that differs from that of the pass's outputs is noted,
and the slots both sides agree on are drawn. A missing sampler image is noted
too, and the sampler reads nothing.
-/
namespace FrameGraph

open Gpu

/-- What an invocation draws with and into. -/
structure DrawPlan where
  pass : Pass
  targets : List (UInt32 × TextureId)
  size : Extent
  deriving DecidableEq, Repr

/-- What came of an invocation: failures on the way, and how it ended. -/
structure Attempt where
  notes : List ResourceError
  result : Except ResourceError Unit

namespace DrawPlan

/-- What is attached where: the targets, and nothing at the slots left over. -/
def slots (p : DrawPlan) : List (UInt32 × Option TextureId) :=
  p.targets.map (fun t => (t.1, some t.2))
    ++ (p.pass.outputs.drop p.targets.length).map (·, none)

end DrawPlan

namespace Invocation

/-! ## Planning -/

/-- The textures of the attachments from number `index` on, and the size that all
of them have. -/
def resolveTargets (cache : ImageCache) (pass : String) :
    Nat → Option Extent → List (UInt32 × ImageBinding) →
      Except ResourceError (List (UInt32 × TextureId) × Option Extent)
  | _, size, [] => .ok ([], size)
  | index, size, (slot, binding) :: rest =>
    match cache.get? binding.id with
    | none => .error (.missingAttachmentImage pass index binding.id)
    | some image =>
      if (size.getD image.size) ≠ image.size then
        .error (.attachmentSizeMismatch pass (size.getD image.size) image.size)
      else do
        let (targets, size) ← resolveTargets cache pass (index + 1) (some image.size) rest
        return ((slot, image.texture) :: targets, size)

/-- A known pass that binds attachments, but not as many as it declares. -/
def countMismatch (passes : PassTable) (i : Invocation) : List ResourceError :=
  match passes.get? i.shader with
  | none => []
  | some pass =>
    if i.attachments = [] ∨ pass.outputs.length = i.attachments.length then []
    else [.attachmentCountMismatch i.shader pass.outputs.length i.attachments.length]

def plan (passes : PassTable) (cache : ImageCache) (i : Invocation) :
    Except ResourceError DrawPlan :=
  match passes.get? i.shader with
  | none => .error (.unknownPass i.shader)
  | some pass =>
    if i.attachments = [] then .error (.noAttachments i.shader)
    else
      match resolveTargets cache i.shader 0 none (pass.outputs.zip i.attachments) with
      | .error e => .error e
      | .ok (_, none) => .error (.noAttachments i.shader)
      | .ok (targets, some size) => .ok ⟨pass, targets, size⟩

/-- The texture for sampler `index`, if one is bound and cached. -/
def samplerTexture (cache : ImageCache) (i : Invocation) (index : Nat) : Option TextureId :=
  i.samplers[index]?.bind fun b => cache.texture? b.id

/-- The samplers from number `index` on that are bound to images that are not
there. -/
def missingSamplers (cache : ImageCache) (pass : Pass) (i : Invocation) : List ResourceError :=
  (List.range pass.samplers.length).filterMap fun index =>
    i.samplers[index]?.bind fun b =>
      if (cache.texture? b.id).isNone then some (.missingSamplerImage pass.name index b.id)
      else none

/-! ## Drawing -/

variable {σ : Type} [Backend σ]

/-- Sets the uniforms that both the program and the invocation have; one that is
refused keeps its value. -/
def setUniforms : List (Option Program.Location) → List (Option UniformValue) → StateM σ Unit
  | some l :: ls, some v :: vs => do
    discard (setUniform l v)
    setUniforms ls vs
  | _ :: ls, _ :: vs => setUniforms ls vs
  | _, _ => pure ()

/-- Gives the samplers from number `index` on a texture unit each, of the same
number. -/
def bindSamplers (cache : ImageCache) (i : Invocation) :
    Nat → List (Option Program.Location) → StateM σ Unit
  | _, [] => pure ()
  | index, l :: ls => do
    let unit := UInt32.ofNat index
    match l with
    | some l => discard (setUniform l (.int unit.toInt32))
    | none => pure ()
    bindTexture unit (samplerTexture cache i index)
    bindSamplers cache i (index + 1) ls

/-- Attaches textures slot by slot until one is refused. -/
def attachAll (f : FramebufferId) : List (UInt32 × Option TextureId) → StateM σ (Except Error Unit)
  | [] => return .ok ()
  | (slot, texture) :: rest => do
    match ← attachColor f slot texture with
    | .error e => return .error e
    | .ok () => attachAll f rest

/-- Draws into the pass's framebuffer, and binds the surface again. -/
def drawInto (p : DrawPlan) : StateM σ (Except Error Unit) := do
  bindFramebuffer (some p.pass.framebuffer)
  setViewport p.size
  setBlend p.pass.blendMode.state
  let drawn ← drawFullscreen
  bindFramebuffer none
  return drawn

def render (p : DrawPlan) : StateM σ (Except Error Unit) := do
  match ← attachAll p.pass.framebuffer p.slots with
  | .error e => return .error e
  | .ok () =>
    match ← setDrawBuffers p.pass.framebuffer (p.targets.map Prod.fst) with
    | .error e => return .error e
    | .ok () => drawInto p

def drawFailed (i : Invocation) (e : Error) : ResourceError := .drawFailed i.shader e.message

/-- Carries out a plan. -/
def carryOut (cache : ImageCache) (i : Invocation) (p : DrawPlan) : StateM σ Attempt := do
  match ← useProgram p.pass.program with
  | .error e => return ⟨[], .error (i.drawFailed e)⟩
  | .ok () =>
    setUniforms p.pass.uniforms i.uniforms
    bindSamplers cache i 0 p.pass.samplers
    let drawn ← render p
    return ⟨missingSamplers cache p.pass i, drawn.mapError i.drawFailed⟩

def invoke (passes : PassTable) (cache : ImageCache) (i : Invocation) : StateM σ Attempt := do
  let before := countMismatch passes i
  match plan passes cache i with
  | .error e => return ⟨before, .error e⟩
  | .ok p =>
    let a ← i.carryOut cache p
    return { a with notes := before ++ a.notes }

end Invocation

namespace FrameReport

/-- Counts an invocation, with its failures in order. -/
def count (r : FrameReport) (a : Attempt) : FrameReport :=
  let r := r.note a.notes
  match a.result with
  | .ok () => { r with executed := r.executed + 1 }
  | .error e => { r.note [e] with skipped := r.skipped + 1 }

end FrameReport

/-- Runs invocations in order. -/
def invokeAll {σ : Type} [Backend σ] (passes : PassTable) (cache : ImageCache) :
    List Invocation → FrameReport → StateM σ FrameReport
  | [], report => return report
  | i :: is, report => do
    let a ← i.invoke passes cache
    invokeAll passes cache is (report.count a)

end FrameGraph
