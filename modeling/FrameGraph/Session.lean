import FrameGraph.Compiler.Basic
import FrameGraph.Context
import FrameGraph.Frame.Invoke
import FrameGraph.Frame.Present
import FrameGraph.Inbox
import FrameGraph.Settings

/-!
# Sessions

A session plays a script on a backend. It owns the passes of the script, the pass
that shows the display image, the cached images, the script variables, and the
inputs that the last rendered frame left for the next one.

* Loading releases the passes that the script no longer has and builds the
  others. If the compiler rejects the script, nothing changes; if passes cannot
  be built, they stay as they were, and the session plays on.
* A frame is evaluated with the inputs of the last rendered frame, the size of
  the surface and the time. Then its requests are met in order, its invocations
  are run, and the display image is shown. If the evaluation fails, the last
  image is shown again and the inputs are kept for the next frame.
* A tick first loads the newest script that was sent, if one was, and may take a
  picture of it.

Before a script has been loaded, frames do nothing.
-/
namespace FrameGraph

open Gpu

inductive SessionState where
  | idle
  | ready
  deriving DecidableEq, Repr

namespace SessionState

def name : SessionState → String
  | idle => "Idle"
  | ready => "Ready"

end SessionState

structure Session (σ κ : Type) where
  backend : σ
  compiler : κ
  settings : Settings
  state : SessionState := .idle
  passes : PassTable := .empty
  /-- The pass that shows the display image. -/
  present : PassTable := .empty
  cache : ImageCache := .empty
  context : ContextStore := .empty
  /-- Inputs that the last rendered frame left for the next one. -/
  pending : List ContextInput := []
  /-- The size the surface was last set to. -/
  surfaceSize : Option Extent := none
  inbox : Option Channel := none
  thumbnail : Option Picture := none

namespace Session

variable {σ κ : Type}

/-- Lets the backend do something. -/
def onBackend {α : Type} (run : StateM σ α) : StateM (Session σ κ) α := fun s =>
  let (a, backend) := run s.backend
  (a, { s with backend })

/-- Lets the compiler do something. -/
def onCompiler {α : Type} (run : StateM κ α) : StateM (Session σ κ) α := fun s =>
  let (a, compiler) := run s.compiler
  (a, { s with compiler })

variable [Backend σ] [ScriptCompiler κ]

/-- Starts without a script. The pass that shows the display image is built at
once. -/
def start (backend : σ) (compiler : κ) (settings : Settings) :
    Except CompileError (Session σ κ) × σ :=
  let ((built, present), backend) := PassTable.empty.build Present.desc [] backend
  match built with
  | .ok _ => (.ok { backend, compiler, settings, present }, backend)
  | .error e => (.error e, backend)

/-! ## Scripts -/

/-- Attaches a new channel that scripts are taken from. -/
def attachInbox : StateM (Session σ κ) Unit :=
  modify fun s => { s with inbox := some .empty }

/-- Sends a script on the attached channel; without one there is nobody to
receive it. -/
def send (script : String) : StateM (Session σ κ) Bool := fun s =>
  match s.inbox with
  | some c => (true, { s with inbox := some (Channel.send script c).2 })
  | none => (false, s)

/-- Takes the newest script from the attached channel. -/
def takeScript : StateM (Session σ κ) (Option String) := fun s =>
  match s.inbox with
  | some c =>
    let (script, c) := Channel.takeLatest c
    (script, { s with inbox := some c })
  | none => (none, s)

/-- Releases the passes that a load result does not have, and builds those that
it has. -/
def rebuild (result : LoadResult) : StateM (Session σ κ) (List CompileError) := do
  let passes ← onBackend ((← get).passes.retain (result.shaders.map ShaderDesc.name))
  let (errors, passes) ← onBackend (passes.buildAll result.declarations result.shaders)
  modify fun s => { s with passes }
  return errors

def loadScript (script : String) : StateM (Session σ κ) (Except ScriptError Unit) := do
  let result ← onCompiler (ScriptCompiler.load script)
  match result.error with
  | some d => return .error (.load d)
  | none =>
    match ← rebuild result with
    | [] =>
      modify fun s => { s with state := .ready }
      return .ok ()
    | errors => return .error (.compile errors)

/-! ## Frames -/

/-- Sets the surface to a size, unless it was the last one it was set to. -/
def resize (size : Extent) : StateM (Session σ κ) Unit := do
  if (← get).surfaceSize = some size then return
  match ← onBackend (resizeSurface size) with
  | .ok () => modify fun s => { s with surfaceSize := some size }
  | .error _ => return

/-- Size and time, behind the inputs left by the last frame. -/
def frameInputs (s : Session σ κ) (size : Extent) (time : Single) : List ContextInput :=
  s.pending ++ [.uvec2 s.settings.sizeInput ⟨size.width, size.height⟩,
    .float s.settings.timeInput time]

/-- Requests an image. -/
def requestImage (r : ImageRequest) : StateM (Session σ κ) (List ResourceError) := do
  let (texture, cache) ← onBackend ((← get).cache.request r)
  modify fun s => { s with cache }
  match texture with
  | .ok _ => return []
  | .error e => return [e]

/-- Resolves a variable; its input is left for the next frame. -/
def resolveVariable (r : ContextRequest) : StateM (Session σ κ) (List ResourceError) := do
  modify fun s =>
    let (input, context) := s.context.resolve r
    { s with context, pending := s.pending ++ input.toList }
  return []

def meet (r : ContextRequest) : StateM (Session σ κ) (List ResourceError) :=
  match r.image? with
  | some image => requestImage image
  | none => resolveVariable r

def meetAll : List ContextRequest → StateM (Session σ κ) (List ResourceError)
  | [] => return []
  | r :: rs => do
    let es ← meet r
    let es' ← meetAll rs
    return es ++ es'

/-- The request for the image that is shown. -/
def displayRequest (s : Session σ κ) (size : Extent) : ImageRequest where
  id := ImageCache.displayId
  format := s.settings.displayFormat
  size := size

/-- Draws the display image over the surface, if there are an image and a pass to
show it. -/
def presentDisplay : StateM (Session σ κ) Unit := do
  let s ← get
  match s.cache.texture? ImageCache.displayId, s.present.get? Present.passName with
  | some display, some pass => discard (onBackend (Present.composite pass display))
  | _, _ => return

/-- Meets the requests of a frame, the display image first, and runs its
invocations. -/
def renderFrame (size : Extent) (frame : FrameResult) : StateM (Session σ κ) FrameReport := do
  modify fun s =>
    { s with context := s.context.beginFrame, cache := s.cache.startFrame, pending := [] }
  let display ← requestImage ((← get).displayRequest size)
  let others ← meetAll frame.requests
  let s ← get
  onBackend (invokeAll s.passes s.cache frame.invocations
    { outcome := .rendered, errors := display ++ others })

/-- Runs a frame on a surface that is at least one pixel wide and high. -/
def runReady (size : Extent) (time : Single) : StateM (Session σ κ) FrameReport := do
  resize size
  onBackend (bindFramebuffer none)
  onBackend (clear (← get).settings.clearColor)
  let frame ← onCompiler (ScriptCompiler.frame ((← get).frameInputs size time))
  match frame.error with
  | some d =>
    presentDisplay
    onBackend endFrame
    return { outcome := .evaluationFailed d }
  | none =>
    let report ← renderFrame size frame
    presentDisplay
    onBackend endFrame
    return report

def runFrame (size : Extent) (time : Single) : StateM (Session σ κ) FrameReport := do
  match (← get).state with
  | .idle => return { outcome := .idle }
  | .ready => runReady size.atLeastOne time

/-! ## Pictures and ticks -/

/-- Sets the surface back to an earlier size. -/
def restoreSize (previous : Option Extent) : StateM (Session σ κ) Unit :=
  match previous with
  | some size => resize size
  | none => return

/-- Runs a frame at a size, reads the surface, and sets it back to the size it
had. -/
def capture (size : Extent) (time : Single) : StateM (Session σ κ) (Except Error Picture) := do
  let previous := (← get).surfaceSize
  discard (runFrame size time)
  let picture ← onBackend readSurface
  restoreSize previous
  return picture

/-- A picture of the size in the settings. -/
def captureDefault (time : Single) : StateM (Session σ κ) (Except Error Picture) := do
  capture (← get).settings.thumbnailSize time

/-- Keeps a picture of a script that was just loaded, if the settings ask for it
and it can be read. -/
def pictureLoad (load : Option (Except ScriptError Unit)) (time : Single) :
    StateM (Session σ κ) Unit := do
  match load with
  | some (.ok ()) =>
    if (← get).settings.thumbnailOnLoad then
      match ← captureDefault time with
      | .ok picture => modify fun s => { s with thumbnail := some picture }
      | .error _ => return
  | _ => return

/-- Loads the newest script, if one was sent, and runs a frame. -/
def tick (size : Extent) (time : Single) : StateM (Session σ κ) FrameReport := do
  let load ← match ← takeScript with
    | some script => do pure (some (← loadScript script))
    | none => pure none
  pictureLoad load time
  let report ← runFrame size time
  return { report with load }

/-! ## The end -/

/-- Destroys everything on the backend; variables and inputs stay. -/
def release : StateM (Session σ κ) Unit := do
  let passes ← onBackend (← get).passes.releaseAll
  let present ← onBackend (← get).present.releaseAll
  let cache ← onBackend (← get).cache.releaseAll
  modify fun s => { s with passes, present, cache, state := .idle, surfaceSize := none }

/-- Sets a script variable. -/
def setValue (name : String) (value : ContextValue) : StateM (Session σ κ) Unit :=
  modify fun s => { s with context := s.context.set name value }

end Session
end FrameGraph
