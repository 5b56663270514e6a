import FrameGraph.Proofs.Session.Play

/-!
# Sessions with compilers that answer alike

A map from one compiler to another may go along with what they are asked: both give the
same answers, and stay related by the map. Then a session behaves the same with the one as
with the other, since nothing else is asked of a compiler: every operation on the one
mirrors that on the other.

Results:
* `mirrors_runFrame`, `mirrors_loadScript` and the like: one for each operation.
* `through_play`: mapping the compiler after a run is the run with the other compiler.
-/
namespace FrameGraph

open Gpu

/-- A map between compilers that goes along with what they are asked. -/
structure CompilerMap (κ κ' : Type) [ScriptCompiler κ] [ScriptCompiler κ'] where
  map : κ → κ'
  load : ∀ script k, ScriptCompiler.load script (map k)
    = ((ScriptCompiler.load script k).1, map (ScriptCompiler.load script k).2)
  frame : ∀ inputs k, ScriptCompiler.frame inputs (map k)
    = ((ScriptCompiler.frame inputs k).1, map (ScriptCompiler.frame inputs k).2)

namespace Session

variable {σ κ κ' α β : Type}

/-- The session with another compiler made of its own. -/
def through (f : κ → κ') (s : Session σ κ) : Session σ κ' :=
  { s with compiler := f s.compiler }

/-- Both do the same, but for the compiler. -/
def Mirrors (σ : Type) (f : κ → κ') (m : StateM (Session σ κ) α)
    (m' : StateM (Session σ κ') α) : Prop :=
  ∀ s, m' (s.through f) = ((m s).1, (m s).2.through f)

variable {f : κ → κ'}

namespace Mirrors

variable {m : StateM (Session σ κ) α} {m' : StateM (Session σ κ') α}

theorem pure (a : α) : Mirrors σ f (Pure.pure a) (Pure.pure a) := fun _ => rfl

theorem bind {k : α → StateM (Session σ κ) β} {k' : α → StateM (Session σ κ') β}
    (h : Mirrors σ f m m') (hk : ∀ a, Mirrors σ f (k a) (k' a)) :
    Mirrors σ f (m >>= k) (m' >>= k') := by
  intro s
  rw [run_bind, h s]
  exact hk _ _

/-- What is read of the session does not depend on the compiler. -/
theorem get {k : Session σ κ → StateM (Session σ κ) β}
    {k' : Session σ κ' → StateM (Session σ κ') β}
    (hk : ∀ s, Mirrors σ f (k s) (k' (s.through f))) :
    Mirrors σ f (MonadState.get >>= k) (MonadState.get >>= k') := fun s => hk s s

theorem map (g : α → β) (h : Mirrors σ f m m') : Mirrors σ f (g <$> m) (g <$> m') := fun s => by
  rw [run_map, h s]
  rfl

theorem discard (h : Mirrors σ f m m') :
    Mirrors σ f (Functor.discard m) (Functor.discard m') := fun s => by
  rw [run_discard, h s]
  rfl

end Mirrors

theorem mirrors_modify {g : Session σ κ → Session σ κ} {g' : Session σ κ' → Session σ κ'}
    (h : ∀ s, g' (s.through f) = (g s).through f) : Mirrors σ f (modify g) (modify g') :=
  fun s => congrArg (Prod.mk ()) (h s)

theorem mirrors_onBackend (run : StateM σ α) : Mirrors σ f (onBackend run) (onBackend run) :=
  fun _ => rfl

theorem mirrors_onCompiler {run : StateM κ α} {run' : StateM κ' α}
    (h : ∀ k, run' (f k) = ((run k).1, f (run k).2)) :
    Mirrors σ f (onCompiler run) (onCompiler run') := fun s => by
  rw [run_onCompiler, run_onCompiler, through, h]
  rfl

/-! ## The operations -/

theorem mirrors_takeScript : Mirrors σ f takeScript takeScript := fun s => by
  simp only [takeScript, through]
  split <;> rfl

theorem mirrors_send (script : String) : Mirrors σ f (send script) (send script) := fun s => by
  simp only [send, through]
  split <;> rfl

variable [Backend σ]

theorem mirrors_resize (size : Extent) : Mirrors σ f (resize size) (resize size) := by
  refine .get fun s => ?_
  show Mirrors σ f (ite (s.surfaceSize = some size) _ _) (ite (s.surfaceSize = some size) _ _)
  split
  · exact .pure ()
  · refine (mirrors_onBackend _).bind fun answer => ?_
    cases answer with
    | ok _ => exact mirrors_modify fun _ => by rfl
    | error e => exact .pure ()

theorem mirrors_restoreSize (previous : Option Extent) :
    Mirrors σ f (restoreSize previous) (restoreSize previous) := by
  cases previous with
  | none => exact .pure ()
  | some size => exact mirrors_resize size

theorem mirrors_openFrame (size : Extent) : Mirrors σ f (openFrame size) (openFrame size) :=
  (mirrors_resize size).bind fun _ => (mirrors_onBackend _).bind fun _ =>
    .get fun _ => mirrors_onBackend _

theorem mirrors_requestImage (r : ImageRequest) :
    Mirrors σ f (requestImage r) (requestImage r) := by
  refine .get fun s => (mirrors_onBackend _).bind fun (texture, cache) => ?_
  refine (mirrors_modify fun _ => by rfl).bind fun _ => ?_
  cases texture with
  | ok _ => exact .pure []
  | error e => exact .pure [e]

theorem mirrors_meet (r : ContextRequest) : Mirrors σ f (meet r) (meet r) := by
  unfold meet
  split
  · exact mirrors_requestImage _
  · exact (mirrors_modify fun _ => by rfl).bind fun _ => .pure []

theorem mirrors_meetAll (rs : List ContextRequest) : Mirrors σ f (meetAll rs) (meetAll rs) := by
  induction rs with
  | nil => exact .pure []
  | cons r rs ih => exact (mirrors_meet r).bind fun _ => ih.bind fun _ => .pure _

theorem mirrors_renderFrame (size : Extent) (frame : FrameResult) :
    Mirrors σ f (renderFrame size frame) (renderFrame size frame) := by
  refine (mirrors_modify fun _ => by rfl).bind fun _ => .get fun s => ?_
  refine (mirrors_requestImage _).bind fun display => ?_
  refine (mirrors_meetAll frame.requests).bind fun others => ?_
  exact .get fun s => mirrors_onBackend _

theorem mirrors_presentDisplay : Mirrors σ f presentDisplay presentDisplay := by
  refine .get fun s => ?_
  simp only [through]
  split
  · exact (mirrors_onBackend _).discard
  · exact .pure ()

theorem mirrors_closeFrame : Mirrors σ f closeFrame closeFrame :=
  mirrors_presentDisplay.bind fun _ => mirrors_onBackend _

theorem mirrors_rebuild (result : LoadResult) : Mirrors σ f (rebuild result) (rebuild result) :=
  .get fun _ => (mirrors_onBackend _).bind fun _ => (mirrors_onBackend _).bind fun _ =>
    (mirrors_modify fun _ => by rfl).bind fun _ => .pure _

theorem mirrors_release : Mirrors σ f release release := fun _ => rfl

variable [ScriptCompiler κ] [ScriptCompiler κ'] (F : CompilerMap κ κ')

theorem mirrors_loadScript (script : String) :
    Mirrors σ F.map (loadScript script) (loadScript script) := by
  refine (mirrors_onCompiler (F.load script)).bind fun result => ?_
  split
  · exact .pure _
  · refine (mirrors_rebuild result).bind fun errors => ?_
    split
    · exact (mirrors_modify fun _ => by rfl).bind fun _ => .pure _
    · exact .pure _

theorem mirrors_loadNewest : Mirrors σ F.map loadNewest loadNewest := by
  refine mirrors_takeScript.bind fun script => ?_
  cases script with
  | none => exact .pure none
  | some script => exact (mirrors_loadScript F script).bind fun r => .pure (some r)

theorem mirrors_runFrame (size : Extent) (time : Single) :
    Mirrors σ F.map (runFrame size time) (runFrame size time) := by
  refine .get fun s => ?_
  simp only [through]
  split
  · exact .pure _
  · rw [runReady_eq, runReady_eq]
    refine (mirrors_openFrame size.atLeastOne).bind fun _ => .get fun s => ?_
    refine (mirrors_onCompiler (F.frame (s.frameInputs size.atLeastOne time))).bind fun frame => ?_
    split
    · exact mirrors_closeFrame.bind fun _ => .pure _
    · refine (mirrors_renderFrame size.atLeastOne frame).bind fun report => ?_
      exact mirrors_closeFrame.bind fun _ => .pure report

theorem mirrors_capture (size : Extent) (time : Single) :
    Mirrors σ F.map (capture size time) (capture size time) :=
  .get fun s => (mirrors_runFrame F size time).discard.bind fun _ =>
    (mirrors_onBackend readSurface).bind fun picture =>
      (mirrors_restoreSize s.surfaceSize).bind fun _ => .pure picture

theorem mirrors_captureDefault (time : Single) :
    Mirrors σ F.map (captureDefault time) (captureDefault time) :=
  .get fun s => mirrors_capture F s.settings.thumbnailSize time

theorem mirrors_pictureLoad (load : Option (Except ScriptError Unit)) (time : Single) :
    Mirrors σ F.map (pictureLoad load time) (pictureLoad load time) := by
  unfold pictureLoad
  split
  · refine .get fun s => ?_
    by_cases hthumbnail : s.settings.thumbnailOnLoad
    · simp only [through, hthumbnail, if_true]
      refine (mirrors_captureDefault F time).bind fun picture => ?_
      cases picture with
      | ok picture => exact mirrors_modify fun _ => by rfl
      | error e => exact .pure ()
    · simp only [through, hthumbnail]
      exact .pure ()
  · exact .pure ()

theorem mirrors_tick (size : Extent) (time : Single) :
    Mirrors σ F.map (tick size time) (tick size time) := by
  rw [tick_eq, tick_eq]
  refine (mirrors_loadNewest F).bind fun load => (mirrors_pictureLoad F load time).bind fun _ => ?_
  exact (mirrors_runFrame F size time).bind fun report => .pure _

theorem mirrors_perform (act : Act) : Mirrors σ F.map act.perform act.perform := by
  cases act with
  | load script => exact (mirrors_loadScript F script).map _
  | frame size time => exact (mirrors_runFrame F size time).map _
  | tick size time => exact (mirrors_tick F size time).map _
  | capture size time => exact (mirrors_capture F size time).map _
  | captureDefault time => exact (mirrors_captureDefault F time).map _
  | setValue name value => exact (mirrors_modify fun _ => by rfl).map _
  | attachInbox => exact (mirrors_modify fun _ => by rfl).map _
  | send script => exact (mirrors_send script).map _
  | release => exact mirrors_release.map _

/-- A run goes with the one compiler as with the other. -/
theorem through_play (s : Session σ κ) (acts : List Act) :
    (s.through F.map).play acts = (s.play acts).through F.map := by
  induction acts generalizing s with
  | nil => rfl
  | cons act acts ih =>
    rw [play, play, mirrors_perform F act s, ih]

end Session
end FrameGraph
