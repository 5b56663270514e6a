import FrameGraph.Proofs.Gpu.Trail
import FrameGraph.Session

/-!
# Playing a session

What a host can do with a session is an `Act`; a host's whole life with it is a
list of acts. A frame is opened on the surface, evaluated, rendered unless that failed,
and closed again.

Results:
* `runReady_failed`, `runReady_rendered`: the two ways of a frame.
* `openFrame_fields`, `loadScript_fields` and the like: what an operation leaves as it
  was.
* `play_append`: a run is played part by part.
-/
namespace FrameGraph

open Gpu

theorem Extent.atLeastOne_atLeastOne (e : Extent) : e.atLeastOne.atLeastOne = e.atLeastOne := by
  have hmax : ∀ a : UInt32, max (max a 1) 1 = max a 1 := fun a => by
    have h (a : UInt32) : max a 1 = if a ≤ 1 then 1 else a := rfl
    rw [h (max a 1), h a]
    by_cases ha : a ≤ 1 <;> simp [ha]
  simp only [atLeastOne, hmax]

/-- Invocations that are skipped do not make a frame fail. -/
theorem invokeAll_outcome {σ : Type} [Backend σ] (passes : PassTable) (cache : ImageCache)
    (is : List Invocation) (report : FrameReport) (b : σ) :
    (invokeAll passes cache is report b).1.outcome = report.outcome := by
  have hcount : ∀ (r : FrameReport) (a : Attempt), (r.count a).outcome = r.outcome := fun r a => by
    unfold FrameReport.count
    split <;> rfl
  induction is generalizing report b with
  | nil => rfl
  | cons i is ih =>
    rw [invokeAll, run_bind, ih]
    exact hcount report _

namespace Session

variable {σ κ α : Type} (s : Session σ κ)

theorem run_onBackend (run : StateM σ α) :
    onBackend run s = ((run s.backend).1, { s with backend := (run s.backend).2 }) := rfl

theorem run_onCompiler (run : StateM κ α) :
    onCompiler run s = ((run s.compiler).1, { s with compiler := (run s.compiler).2 }) := rfl

theorem requestImage_snd [Backend σ] (r : ImageRequest) :
    (requestImage r s).2
      = { s with backend := (s.cache.request r s.backend).2,
                 cache := (s.cache.request r s.backend).1.2 } := by
  simp only [requestImage, run_bind, run_get, run_onBackend, run_modify]
  cases (s.cache.request r s.backend).1.1 <;> rfl

end Session

/-! ## A frame in parts -/

namespace Session

section
variable {σ κ : Type} [Backend σ]

/-- What a frame does before it is evaluated. -/
def openFrame (size : Extent) : StateM (Session σ κ) Unit := do
  resize size
  onBackend (bindFramebuffer none)
  onBackend (clear (← get).settings.clearColor)

/-- Shows the display image, and ends the frame. -/
def closeFrame : StateM (Session σ κ) Unit := do
  presentDisplay
  onBackend endFrame

/-- The session that starts on a backend, if the pass that shows the display image can be
built there. -/
def fresh (b : σ) (compiler : κ) (settings : Settings) : Session σ κ where
  backend := (PassTable.empty.build Present.desc [] b).2
  compiler := compiler
  settings := settings
  present := (PassTable.empty.build Present.desc [] b).1.2

theorem start_ok {b : σ} {compiler : κ} {settings : Settings} {s : Session σ κ}
    (h : (start b compiler settings).1 = .ok s) :
    s = fresh b compiler settings ∧
      ∃ outcome, (PassTable.empty.build Present.desc [] b).1.1 = .ok outcome := by
  unfold start at h
  unfold fresh
  generalize PassTable.empty.build Present.desc [] b = build at h ⊢
  obtain ⟨⟨built, table⟩, b'⟩ := build
  cases built with
  | error e => cases h
  | ok outcome =>
    cases h
    exact ⟨rfl, outcome, rfl⟩

theorem resize_same {size : Extent} {s : Session σ κ} (h : s.surfaceSize = some size) :
    resize size s = ((), s) := by
  show ite (s.surfaceSize = some size) (pure () : StateM (Session σ κ) Unit) _ s = _
  rw [if_pos h]
  rfl

theorem resize_new {size : Extent} {s : Session σ κ} (h : s.surfaceSize ≠ some size) :
    resize size s = ((), { s with
      backend := (resizeSurface size s.backend).2
      surfaceSize := match (resizeSurface size s.backend).1 with
        | .ok () => some size
        | .error _ => s.surfaceSize }) := by
  show (ite (s.surfaceSize = some size) _ _ : StateM (Session σ κ) Unit) s = _
  rw [if_neg h]
  simp only [run_bind, run_onBackend]
  cases (resizeSurface size s.backend).1 <;> rfl

theorem resize_fields (size : Extent) (s : Session σ κ) :
    (resize size s).2 = { s with
      backend := (resize size s).2.backend, surfaceSize := (resize size s).2.surfaceSize } := by
  by_cases h : s.surfaceSize = some size
  · rw [resize_same h]
  · rw [resize_new h]

/-- Opening a frame touches only the backend, and the size of the surface. -/
theorem openFrame_fields (size : Extent) (s : Session σ κ) :
    (openFrame size s).2 = { s with
      backend := (openFrame size s).2.backend
      surfaceSize := (openFrame size s).2.surfaceSize } := by
  have h := resize_fields size s
  simp only [openFrame, run_bind, run_onBackend, run_get]
  rw [h]

theorem restoreSize_fields (previous : Option Extent) (s : Session σ κ) :
    (restoreSize previous s).2 = { s with
      backend := (restoreSize previous s).2.backend
      surfaceSize := (restoreSize previous s).2.surfaceSize } := by
  cases previous with
  | none => rfl
  | some size => exact resize_fields size s

/-- Closing a frame touches only the backend. -/
theorem closeFrame_fields (s : Session σ κ) :
    (closeFrame s).2 = { s with backend := (closeFrame s).2.backend } := by
  simp only [closeFrame, presentDisplay, run_bind, run_get, run_onBackend]
  cases s.cache.texture? ImageCache.displayId <;> cases s.present.get? Present.passName <;> rfl

variable [ScriptCompiler κ]

theorem runReady_eq (size : Extent) (time : Single) :
    runReady (σ := σ) (κ := κ) size time = (do
      openFrame size
      let frame ← onCompiler (ScriptCompiler.frame ((← get).frameInputs size time))
      match frame.error with
      | some d =>
        closeFrame
        return { outcome := .evaluationFailed d }
      | none =>
        let report ← renderFrame size frame
        closeFrame
        return report) :=
  rfl

/-- What the compiler makes of a frame. -/
def evaluation (s : Session σ κ) (size : Extent) (time : Single) : FrameResult × κ :=
  ScriptCompiler.frame (s.frameInputs size time) s.compiler

/-- The session once a frame is evaluated. -/
def evaluated (s : Session σ κ) (size : Extent) (time : Single) : Session σ κ :=
  { (openFrame size s).2 with compiler := (s.evaluation size time).2 }

variable {s : Session σ κ} {size : Extent} {time : Single}

theorem run_evaluation :
    onCompiler (ScriptCompiler.frame ((openFrame size s).2.frameInputs size time))
      (openFrame size s).2 = ((s.evaluation size time).1, s.evaluated size time) := by
  have hinputs : (openFrame size s).2.frameInputs size time = s.frameInputs size time := by
    rw [openFrame_fields]
    rfl
  have hcompiler : (openFrame size s).2.compiler = s.compiler := by rw [openFrame_fields]
  rw [run_onCompiler, hinputs, hcompiler]
  rfl

theorem runReady_failed {d : Diagnostic} (h : (s.evaluation size time).1.error = some d) :
    runReady size time s
      = ({ outcome := .evaluationFailed d }, (closeFrame (s.evaluated size time)).2) := by
  simp only [runReady_eq, run_bind, run_get, run_evaluation, h, run_pure]

theorem runReady_rendered (h : (s.evaluation size time).1.error = none) :
    runReady size time s
      = ((renderFrame size (s.evaluation size time).1 (s.evaluated size time)).1,
        (closeFrame (renderFrame size (s.evaluation size time).1
          (s.evaluated size time)).2).2) := by
  simp only [runReady_eq, run_bind, run_get, run_evaluation, h, run_pure]

/-- Loading touches the backend, the compiler, the passes and the state. -/
theorem loadScript_fields (script : String) (s : Session σ κ) :
    (loadScript script s).2 = { s with
      backend := (loadScript script s).2.backend
      compiler := (ScriptCompiler.load script s.compiler).2
      state := (loadScript script s).2.state
      passes := (loadScript script s).2.passes } := by
  simp only [loadScript, run_bind, run_onCompiler]
  cases (ScriptCompiler.load script s.compiler).1.error with
  | some d => rfl
  | none =>
    simp only [run_bind]
    cases (rebuild (ScriptCompiler.load script s.compiler).1
      { s with compiler := (ScriptCompiler.load script s.compiler).2 }).1 <;> rfl

theorem loadScript_ready {script : String} {s : Session σ κ}
    (h : (loadScript script s).1 = .ok ()) :
    (loadScript script s).2.state = .ready := by
  simp only [Session.loadScript, run_bind, run_onCompiler] at h ⊢
  cases herror : (ScriptCompiler.load script s.compiler).1.error with
  | some d => simp only [herror, run_pure] at h; cases h
  | none =>
    simp only [herror, run_bind] at h ⊢
    cases herrors : (rebuild (ScriptCompiler.load script s.compiler).1
      { s with compiler := (ScriptCompiler.load script s.compiler).2 }).1 with
    | nil => rfl
    | cons e es => simp only [herrors, run_pure] at h; cases h

/-- The part of a tick before its pictures. -/
def loadNewest : StateM (Session σ κ) (Option (Except ScriptError Unit)) := do
  match ← takeScript with
  | some script => return some (← loadScript script)
  | none => return none

theorem tick_eq (size : Extent) (time : Single) :
    tick (σ := σ) (κ := κ) size time = (do
      let load ← loadNewest
      pictureLoad load time
      let report ← runFrame size time
      return { report with load }) := by
  funext s
  simp only [tick, loadNewest, run_bind]
  cases (takeScript s).1 <;> rfl

theorem runFrame_idle (h : s.state = .idle) :
    runFrame size time s = ({ outcome := .idle }, s) := by
  simp only [runFrame, run_bind, run_get, h, run_pure]

theorem runFrame_ready (h : s.state = .ready) :
    runFrame size time s = runReady size.atLeastOne time s := by
  simp only [runFrame, run_bind, run_get, h]

end

end Session

/-! ## Acts -/

inductive Act where
  | load (script : String)
  | frame (size : Extent) (time : Single)
  | tick (size : Extent) (time : Single)
  | capture (size : Extent) (time : Single)
  | captureDefault (time : Single)
  | setValue (name : String) (value : ContextValue)
  | attachInbox
  | send (script : String)
  | release
  deriving DecidableEq, Repr

/-- What a host gets back. -/
inductive Reply where
  | nothing
  | loaded (r : Except ScriptError Unit)
  | report (r : FrameReport)
  | picture (r : Except Error Picture)
  | sent (received : Bool)

namespace Act

variable {σ κ : Type} [Backend σ] [ScriptCompiler κ]

def perform : Act → StateM (Session σ κ) Reply
  | load script => Reply.loaded <$> Session.loadScript script
  | frame size time => Reply.report <$> Session.runFrame size time
  | tick size time => Reply.report <$> Session.tick size time
  | capture size time => Reply.picture <$> Session.capture size time
  | captureDefault time => Reply.picture <$> Session.captureDefault time
  | setValue name value => (fun _ => Reply.nothing) <$> Session.setValue name value
  | attachInbox => (fun _ => Reply.nothing) <$> Session.attachInbox
  | send script => Reply.sent <$> Session.send script
  | release => (fun _ => Reply.nothing) <$> Session.release

end Act

namespace Session

variable {σ κ : Type} [Backend σ] [ScriptCompiler κ]

/-- The session after a list of acts. -/
def play (s : Session σ κ) : List Act → Session σ κ
  | [] => s
  | act :: acts => play (act.perform s).2 acts

theorem play_append (s : Session σ κ) (acts acts' : List Act) :
    s.play (acts ++ acts') = (s.play acts).play acts' := by
  induction acts generalizing s with
  | nil => rfl
  | cons act acts ih => exact ih _

end Session
end FrameGraph
