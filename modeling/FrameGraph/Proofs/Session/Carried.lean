import FrameGraph.Compiler.Scripted
import FrameGraph.Gpu.Recorder
import FrameGraph.Proofs.Context.Registers
import FrameGraph.Proofs.Session.Listening

/-!
# Inputs lag one frame

What a script reads in a frame was requested in the frame before. The calls of a compiler
that is listened to, together with the variables that the host set, are the moments of a
run, and a chronicle lists them. `carried` says, from the chronicle alone, what the last
rendered frame left for the next one.

Results:
* `Recounted.perform`: what the registers hold and what is left for the next frame are
  what the chronicle says, act by act.
* `runFrame_rendered_iff`: which frames are rendered.
* `inputs_lag_one_frame`: every frame of every run was asked with what the last rendered
  frame before it had resolved, then its size and its time.
-/
namespace FrameGraph

open Gpu

/-! ## Chronicles -/

/-- What matters for the inputs: the host sets a variable, or the compiler is asked for a
frame of a size at a time. -/
inductive Moment where
  | set (name : String) (value : ContextValue)
  | asked (size : Extent) (time : Single) (inputs : List ContextInput) (result : FrameResult)
  deriving DecidableEq, Repr

namespace Moment

/-- A call of the compiler, for a frame. -/
def ofCall (frame : Extent × Single) (call : List ContextInput × FrameResult) : Moment :=
  asked frame.1 frame.2 call.1 call.2

/-- The call of a moment in which the compiler is asked. -/
def call? : Moment → Option (List ContextInput × FrameResult)
  | set .. => none
  | asked _ _ inputs result => some (inputs, result)

theorem calls_ofCall {frames : List (Extent × Single)}
    {calls : List (List ContextInput × FrameResult)} (h : calls.length ≤ frames.length) :
    (List.zipWith ofCall frames calls).filterMap call? = calls := by
  induction calls generalizing frames with
  | nil => simp
  | cons call calls ih =>
    cases frames with
    | nil => cases h
    | cons frame frames => exact congrArg (call :: ·) (ih (Nat.le_of_succ_le_succ h))

/-- The registers after the moments, the latest of which comes first. -/
def registers : List Moment → Registers
  | [] => fun _ => none
  | .set name value :: earlier => (registers earlier).write name value
  | .asked _ _ _ result :: earlier =>
    if result.error = none then result.requests.foldl Registers.meet (registers earlier)
    else registers earlier

/-- What the last rendered frame resolved, the latest moment being the first; nothing, if
there was none. -/
def carried : List Moment → List ContextInput
  | [] => []
  | .set .. :: earlier => carried earlier
  | .asked _ _ _ result :: earlier =>
    if result.error = none then (registers earlier).answers result.requests
    else carried earlier

/-- Every frame was asked with what the last rendered frame before it resolved, its size
and its time. -/
def Lagging (settings : Settings) (moments : List Moment) : Prop :=
  ∀ before size time inputs result after,
    moments = before ++ .asked size time inputs result :: after →
    inputs = carried before.reverse ++
      [.uvec2 settings.sizeInput ⟨max size.width 1, max size.height 1⟩,
        .float settings.timeInput time]

theorem Lagging.concat {config : Settings} {ms : List Moment} (h : Lagging config ms) {m : Moment}
    (hm : ∀ size time inputs result, m = .asked size time inputs result →
      inputs = carried ms.reverse ++
        [.uvec2 config.sizeInput ⟨max size.width 1, max size.height 1⟩,
          .float config.timeInput time]) : Lagging config (ms ++ [m]) := by
  intro before size time inputs result after heq
  -- the moment is the last one, or one of those before it
  rcases List.eq_nil_or_concat after with rfl | ⟨after, last, rfl⟩
  · obtain ⟨hbefore, hlast⟩ := List.append_inj' heq rfl
    subst hbefore
    exact hm size time inputs result (List.singleton_inj.1 hlast)
  · have hinit : ms ++ [m] = (before ++ .asked size time inputs result :: after) ++ [last] := by
      rw [heq]
      simp
    exact h before size time inputs result after (List.append_inj' hinit rfl).1

end Moment

namespace Session

variable {σ κ : Type} [Backend σ] [ScriptCompiler κ]

/-- The size and the time of the frame that a load is pictured in. -/
def pictureFrames (settings : Settings) (load : Option (Except ScriptError Unit))
    (time : Single) : List (Extent × Single) :=
  match load with
  | some (.ok ()) => if settings.thumbnailOnLoad then [(settings.thumbnailSize, time)] else []
  | _ => []

/-- The sizes and times of the frames that an act with this reply may run. -/
def framesOf (settings : Settings) : Act → Reply → List (Extent × Single)
  | .frame size time, _ | .capture size time, _ => [(size, time)]
  | .captureDefault time, _ => [(settings.thumbnailSize, time)]
  | .tick size time, .report r => pictureFrames settings r.load time ++ [(size, time)]
  | _, _ => []

/-- The moments of an act: what it set, or what the compiler was asked meanwhile. -/
def moments (s : Session σ (Listening κ)) (act : Act) : List Moment :=
  match act with
  | .setValue name value => [.set name value]
  | act =>
    let (reply, s') := act.perform s
    List.zipWith Moment.ofCall (framesOf s.settings act reply)
      (s'.compiler.calls.drop s.compiler.calls.length)

/-- The moments of a run. -/
def chronicle (s : Session σ (Listening κ)) : List Act → List Moment
  | [] => []
  | act :: acts => s.moments act ++ chronicle (act.perform s).2 acts

/-- The session is where the moments lead. -/
structure Recounted (config : Settings) (ms : List Moment) (s : Session σ (Listening κ)) :
    Prop where
  settings : s.settings = config
  registers : s.context.value? = Moment.registers ms.reverse
  pending : s.pending = Moment.carried ms.reverse
  calls : s.compiler.calls = ms.filterMap Moment.call?
  lagging : Moment.Lagging config ms

/-! ## Meeting requests -/

section
variable {κ : Type}

/-- From one session to the other, these requests were met: registers have changed, and
answers are left for the next frame. -/
structure Met (rs : List ContextRequest) (s s' : Session σ κ) : Prop where
  registers : s'.context.value? = rs.foldl Registers.meet s.context.value?
  pending : s'.pending = s.pending ++ Registers.answers s.context.value? rs
  compiler : s'.compiler = s.compiler
  settings : s'.settings = s.settings

omit [Backend σ] in
theorem Met.cons {r : ContextRequest} {rs : List ContextRequest} {s s' s'' : Session σ κ}
    (h : Met [r] s s') (hrest : Met rs s' s'') : Met (r :: rs) s s'' := by
  refine ⟨?_, ?_, hrest.compiler.trans h.compiler, hrest.settings.trans h.settings⟩
  · rw [hrest.registers, h.registers]
    rfl
  · rw [hrest.pending, h.pending, h.registers, List.append_assoc]
    simp only [Registers.answers, List.append_nil, List.foldl_cons, List.foldl_nil]

theorem met_meet (r : ContextRequest) (s : Session σ κ) : Met [r] s (meet r s).2 := by
  cases himage : r.image? with
  | some image =>
    have hr : r.variable? = none := by cases r <;> first | rfl | cases himage
    have hmeet : Registers.meet s.context.value? r = s.context.value? := by
      simp only [Registers.meet, hr]
    have hanswer : Registers.answer s.context.value? r = [] := by
      simp only [Registers.answer, hr]
    simp only [meet, himage, requestImage_snd]
    refine ⟨hmeet.symm, ?_, rfl, rfl⟩
    rw [Registers.answers, hanswer]
    exact (List.append_nil _).symm
  | none =>
    obtain ⟨hanswer, hregs⟩ := ContextStore.resolve_spec s.context r
    simp only [meet, himage]
    refine ⟨hregs, ?_, rfl, rfl⟩
    rw [Registers.answers, ← hanswer, Registers.answers, List.append_nil]
    rfl

theorem met_meetAll (rs : List ContextRequest) (s : Session σ κ) :
    Met rs s (meetAll rs s).2 := by
  induction rs generalizing s with
  | nil => exact ⟨rfl, (List.append_nil _).symm, rfl, rfl⟩
  | cons r rs ih => exact (met_meet r s).cons (ih (meet r s).2)

/-- A rendered frame leaves nothing for the next one but what it resolved. -/
theorem met_renderFrame (size : Extent) (frame : FrameResult) (s : Session σ κ) :
    Met frame.requests { s with pending := [] } (renderFrame size frame s).2 := by
  let s₁ : Session σ κ :=
    { s with context := s.context.beginFrame, cache := s.cache.startFrame, pending := [] }
  have h := met_meetAll frame.requests (requestImage (s₁.displayRequest size) s₁).2
  rw [requestImage_snd] at h
  simp only [renderFrame, run_bind, run_modify, run_get, run_onBackend, requestImage_snd]
  exact ⟨h.registers, h.pending, h.compiler, h.settings⟩

end

/-! ## Act by act -/

variable {config : Settings} {ms : List Moment} {s s' : Session σ (Listening κ)}

omit [Backend σ] [ScriptCompiler κ] in
theorem Recounted.congr (h : Recounted config ms s) (hsettings : s'.settings = s.settings)
    (hcontext : s'.context = s.context) (hpending : s'.pending = s.pending)
    (hcalls : s'.compiler.calls = s.compiler.calls) : Recounted config ms s' :=
  ⟨hsettings.trans h.settings, hcontext ▸ h.registers, hpending.trans h.pending,
    hcalls.trans h.calls, h.lagging⟩

/-- The calls in a frame: the compiler is asked, if a script was loaded. -/
def asks (s : Session σ (Listening κ)) (size : Extent) (time : Single) :
    List (List ContextInput × FrameResult) :=
  match s.state with
  | .idle => []
  | .ready => [(s.frameInputs size.atLeastOne time, (s.evaluation size.atLeastOne time).1)]

omit [Backend σ] in
theorem asks_length (s : Session σ (Listening κ)) (size : Extent) (time : Single) :
    (s.asks size time).length ≤ 1 := by
  unfold asks
  split <;> simp

/-- The session is where the moments lead, and then some calls for these frames. -/
def Asked (config : Settings) (ms : List Moment) (frames : List (Extent × Single))
    (s : Session σ (Listening κ)) : Prop :=
  ∃ calls, calls.length ≤ frames.length ∧
    Recounted config (ms ++ List.zipWith Moment.ofCall frames calls) s

omit [Backend σ] [ScriptCompiler κ] in
theorem Recounted.set (h : Recounted config ms s) (name : String) (value : ContextValue) :
    Recounted config (ms ++ [.set name value]) (setValue name value s).2 := by
  refine ⟨h.settings, ?_, ?_, ?_, h.lagging.concat fun _ _ _ _ hm => by cases hm⟩
  · rw [List.reverse_append]
    show (s.context.set name value).value? = _
    rw [ContextStore.value?_set, h.registers]
    rfl
  · rw [List.reverse_append]
    exact h.pending
  · rw [List.filterMap_append]
    exact h.calls.trans (List.append_nil _).symm

omit [Backend σ] [ScriptCompiler κ] in
/-- The compiler is asked with the inputs that are left, and its answer is taken up unless
it is an error. -/
theorem Recounted.ask (h : Recounted config ms s) {size : Extent} {time : Single}
    {result : FrameResult} (hsettings : s'.settings = s.settings)
    (hregs : s'.context.value? = if result.error = none
      then result.requests.foldl Registers.meet s.context.value? else s.context.value?)
    (hpending : s'.pending = if result.error = none
      then Registers.answers s.context.value? result.requests else s.pending)
    (hcalls : s'.compiler.calls
      = s.compiler.calls ++ [(s.frameInputs size.atLeastOne time, result)]) :
    Recounted config (ms ++ [.asked size time (s.frameInputs size.atLeastOne time) result]) s' := by
  refine ⟨hsettings.trans h.settings, ?_, ?_, ?_, h.lagging.concat fun _ _ _ _ hm => ?_⟩
  · rw [hregs, h.registers, List.reverse_append]
    rfl
  · rw [hpending, h.registers, h.pending, List.reverse_append]
    rfl
  · rw [hcalls, h.calls, List.filterMap_append]
    rfl
  · cases hm
    rw [frameInputs, h.pending, h.settings]
    rfl

theorem Recounted.frame (h : Recounted config ms s) (size : Extent) (time : Single) :
    Recounted config (ms ++ List.zipWith Moment.ofCall [(size, time)] (s.asks size time))
      (runFrame size time s).2 := by
  unfold asks
  cases hstate : s.state with
  | idle =>
    rw [runFrame_idle hstate]
    show Recounted config (ms ++ []) s
    rw [List.append_nil]
    exact h
  | ready =>
    rw [runFrame_ready hstate]
    let t := s.evaluated size.atLeastOne time
    have ht : t.settings = s.settings ∧ t.context = s.context ∧ t.pending = s.pending := by
      simp only [t, evaluated]
      rw [openFrame_fields]
      exact ⟨rfl, rfl, rfl⟩
    obtain ⟨hsettings, hcontext, hpending⟩ := ht
    have hcalls : t.compiler.calls = s.compiler.calls ++
        [(s.frameInputs size.atLeastOne time, (s.evaluation size.atLeastOne time).1)] := rfl
    cases herror : (s.evaluation size.atLeastOne time).1.error with
    | some d =>
      rw [runReady_failed herror, closeFrame_fields]
      exact h.ask hsettings (by rw [if_neg (by rw [herror]; simp)]; exact congrArg _ hcontext)
        (by rw [if_neg (by rw [herror]; simp)]; exact hpending) hcalls
    | none =>
      have hmet := met_renderFrame size.atLeastOne (s.evaluation size.atLeastOne time).1 t
      rw [runReady_rendered herror, closeFrame_fields]
      refine h.ask (hmet.settings.trans hsettings) ?_ ?_ ?_
      · rw [if_pos herror, ← hcontext]
        exact hmet.registers
      · rw [if_pos herror, ← hcontext]
        exact hmet.pending
      · exact (congrArg Listening.calls hmet.compiler).trans hcalls

theorem Recounted.capture (h : Recounted config ms s) (size : Extent) (time : Single) :
    Recounted config (ms ++ List.zipWith Moment.ofCall [(size, time)] (s.asks size time))
      (capture size time s).2 := by
  let t : Session σ (Listening κ) := (onBackend readSurface (runFrame size time s).2).2
  have ht : (Session.capture size time s).2 = (restoreSize s.surfaceSize t).2 := rfl
  rw [ht, restoreSize_fields]
  exact (h.frame size time).congr rfl rfl rfl rfl

theorem Recounted.loadScript (h : Recounted config ms s) (script : String) :
    Recounted config ms (loadScript script s).2 := by
  rw [loadScript_fields]
  exact h.congr rfl rfl rfl rfl

theorem Recounted.loadNewest (h : Recounted config ms s) :
    Recounted config ms (loadNewest s).2 ∧
      ((loadNewest s).1 = some (.ok ()) → (loadNewest s).2.state = .ready) := by
  have htake : Recounted config ms (takeScript s).2 := by
    unfold takeScript
    split
    · exact h.congr rfl rfl rfl rfl
    · exact h
  simp only [Session.loadNewest, run_bind]
  cases (takeScript s).1 with
  | none => exact ⟨htake, fun h => by cases h⟩
  | some script => exact ⟨htake.loadScript script, fun h => loadScript_ready (Option.some.inj h)⟩

/-- Once a script is loaded, the frame that pictures it is run. -/
theorem Recounted.pictureLoad (h : Recounted config ms s)
    {load : Option (Except ScriptError Unit)} (hload : load = some (.ok ()) → s.state = .ready)
    (time : Single) :
    ∃ calls, calls.length = (pictureFrames s.settings load time).length ∧
      Recounted config (ms ++ List.zipWith Moment.ofCall (pictureFrames s.settings load time) calls)
        (pictureLoad load time s).2 := by
  have hnone : Recounted config (ms ++ List.zipWith Moment.ofCall [] []) s := by
    rw [List.zipWith_nil_left, List.append_nil]
    exact h
  match load with
  | none | some (.error _) => exact ⟨[], rfl, hnone⟩
  | some (.ok ()) =>
    by_cases hthumbnail : s.settings.thumbnailOnLoad
    · have hcapture := h.capture s.settings.thumbnailSize time
      have hasks : (s.asks s.settings.thumbnailSize time).length = 1 := by
        simp only [asks, hload rfl, List.length_singleton]
      simp only [pictureFrames, hthumbnail, if_true]
      refine ⟨_, hasks, ?_⟩
      simp only [Session.pictureLoad, run_bind, run_get, hthumbnail, if_true, captureDefault]
      cases (Session.capture s.settings.thumbnailSize time s).1 with
      | ok picture => exact hcapture.congr rfl rfl rfl rfl
      | error e => exact hcapture
    · simp only [pictureFrames, hthumbnail, Session.pictureLoad, run_bind, run_get]
      exact ⟨[], rfl, hnone⟩

theorem Recounted.tick (h : Recounted config ms s) (size : Extent) (time : Single) :
    Asked config ms (framesOf s.settings (.tick size time) (.report (tick size time s).1))
      (tick size time s).2 := by
  obtain ⟨hnewest, hready⟩ := h.loadNewest
  obtain ⟨calls, hcalls, hpicture⟩ := hnewest.pictureLoad hready time
  have hframe := hpicture.frame size time
  have hsettings : (Session.loadNewest s).2.settings = s.settings :=
    hnewest.settings.trans h.settings.symm
  rw [List.append_assoc, hsettings] at hframe
  rw [hsettings] at hcalls
  rw [← List.zipWith_append hcalls.symm] at hframe
  rw [tick_eq]
  refine ⟨_, ?_, hframe⟩
  simp only [framesOf, run_bind, run_pure, List.length_append]
  exact Nat.add_le_add hcalls.le (asks_length _ size time)

omit [Backend σ] [ScriptCompiler κ] in
/-- The moments of frames can be told from what the compiler was asked since. -/
theorem Asked.recounted {frames : List (Extent × Single)} (hasked : Asked config ms frames s')
    (h : Recounted config ms s) :
    Recounted config (ms ++ List.zipWith Moment.ofCall frames
      (s'.compiler.calls.drop s.compiler.calls.length)) s' := by
  obtain ⟨calls, hlength, h'⟩ := hasked
  have hcalls := h'.calls
  rw [List.filterMap_append, Moment.calls_ofCall hlength, ← h.calls] at hcalls
  rw [hcalls, List.drop_left]
  exact h'

omit [Backend σ] [ScriptCompiler κ] in
theorem Recounted.silent (h : Recounted config ms s) : Asked config ms [] s :=
  ⟨[], le_rfl, by rwa [List.zipWith_nil_left, List.append_nil]⟩

theorem Recounted.perform (h : Recounted config ms s) (act : Act) :
    Recounted config (ms ++ s.moments act) (act.perform s).2 := by
  cases act with
  | load script => exact (h.loadScript script).silent.recounted h
  | frame size time =>
    exact Asked.recounted ⟨_, s.asks_length size time, h.frame size time⟩ h
  | tick size time => exact (h.tick size time).recounted h
  | capture size time =>
    exact Asked.recounted ⟨_, s.asks_length size time, h.capture size time⟩ h
  | captureDefault time =>
    exact Asked.recounted ⟨_, s.asks_length _ time, h.capture s.settings.thumbnailSize time⟩ h
  | setValue name value => exact h.set name value
  | attachInbox =>
    have h' : Recounted config ms (Session.attachInbox s).2 := h.congr rfl rfl rfl rfl
    exact h'.silent.recounted h
  | send script =>
    have h' : Recounted config ms (Session.send script s).2 := by
      unfold Session.send
      split
      · exact h.congr rfl rfl rfl rfl
      · exact h
    exact h'.silent.recounted h
  | release =>
    have h' : Recounted config ms (Session.release s).2 := h.congr rfl rfl rfl rfl
    exact h'.silent.recounted h

theorem Recounted.play (h : Recounted config ms s) (acts : List Act) :
    Recounted config (ms ++ s.chronicle acts) (s.play acts) := by
  induction acts generalizing ms s with
  | nil =>
    rw [chronicle, List.append_nil]
    exact h
  | cons act acts ih =>
    rw [chronicle, ← List.append_assoc]
    exact ih (h.perform act)

omit [ScriptCompiler κ] in
theorem recounted_start {backend : σ} {compiler : κ} {s : Session σ κ}
    (h : (start backend compiler config).1 = .ok s) : Recounted config [] s.listen := by
  obtain ⟨rfl, -⟩ := start_ok h
  exact ⟨rfl, rfl, rfl, rfl, fun _ _ _ _ _ _ h => by simp at h⟩

/-- A frame is rendered if a script was loaded and its evaluation does not fail. -/
theorem runFrame_rendered_iff (s : Session σ κ) (size : Extent) (time : Single) :
    (runFrame size time s).1.outcome = .rendered ↔
      s.state = .ready ∧ (s.evaluation size.atLeastOne time).1.error = none := by
  cases hstate : s.state with
  | idle => simp [runFrame_idle hstate]
  | ready =>
    rw [runFrame_ready hstate]
    cases herror : (s.evaluation size.atLeastOne time).1.error with
    | some d => simp [runReady_failed herror]
    | none =>
      rw [runReady_rendered herror]
      simp only [and_self, iff_true]
      exact invokeAll_outcome ..

/-- However loads, frames, pictures and variables that are set follow each other: the
compiler was asked with what the last rendered frame resolved, each variable as it was
then, and with the size and the time of the frame. A listened session is the session
itself, its moments leave out no call, and a frame is rendered unless its answer is an
error. -/
theorem inputs_lag_one_frame {backend : σ} {compiler : κ} {settings : Settings}
    {s₀ : Session σ κ} (h : (start backend compiler settings).1 = .ok s₀) (acts : List Act) :
    let s := s₀.listen.play acts
    let moments := s₀.listen.chronicle acts
    Moment.Lagging settings moments ∧ s.forget = s₀.play acts ∧
      s.compiler.calls = moments.filterMap Moment.call? ∧
      s.context.value? = Moment.registers moments.reverse ∧
      ∀ (t : Session σ κ) (size : Extent) (time : Single),
        (runFrame size time t).1.outcome = .rendered ↔ t.state = .ready ∧
          (ScriptCompiler.frame (t.frameInputs size.atLeastOne time) t.compiler).1.error
            = none := by
  intro s moments
  have hplay : Recounted settings moments s := (recounted_start h).play acts
  exact ⟨hplay.lagging, forget_play s₀.listen acts, hplay.calls, hplay.registers,
    runFrame_rendered_iff⟩

/-- What a script with two variables asks for. -/
def twoVariables : FrameResult where
  requests := [.int ⟨"count", 3, 0, 9⟩, .bool ⟨"on", true⟩]
  invocations := []
  error := none

/-- A script with two variables, whose every other frame cannot be evaluated. -/
def hesitant : Scripted LoadResult FrameResult (List ContextInput) where
  loads := .ofList [("a", ⟨[], [], none⟩)]
  frames := [twoVariables, .failed ⟨1, 1, "unbound"⟩]

def unasked : Session (Recorder fun _ => .ok ⟨[], []⟩)
    (Scripted LoadResult FrameResult (List ContextInput)) :=
  fresh {} hesitant {}

/-- A frame with variables, and two more after another value was set. -/
def threeFrames : List Act :=
  [.load "a", .setValue "count" (.int 5), .frame ⟨4, 4⟩ .zero, .setValue "count" (.int 6),
    .frame ⟨4, 4⟩ .zero, .frame ⟨4, 0⟩ .zero]

/-- The third frame gets what the first one resolved. -/
theorem inputs_lag_one_frame_sample :
    ∃ before inputs, unasked.listen.chronicle threeFrames
        = before ++ [.asked ⟨4, 0⟩ .zero inputs twoVariables] ∧
      inputs = [.int "count" 5, .int "on" 1, .uvec2 "@swapchain_size" ⟨4, 1⟩,
        .float "@time" .zero] := by
  have hstart : (start ({} : Recorder fun _ => .ok ⟨[], []⟩) hesitant {}).1 = .ok unasked := rfl
  obtain ⟨hlag, -⟩ := inputs_lag_one_frame hstart threeFrames
  obtain ⟨before, inputs, hmoments, hcarried⟩ : ∃ before inputs,
      unasked.listen.chronicle threeFrames
        = before ++ [.asked ⟨4, 0⟩ .zero inputs twoVariables] ∧
      Moment.carried before.reverse = [.int "count" 5, .int "on" 1] := by
    refine ⟨(unasked.listen.chronicle threeFrames).dropLast,
      ((unasked.listen.play threeFrames).compiler.calls.getLastD ([], .empty)).1, ?_⟩
    decide +kernel
  refine ⟨before, inputs, hmoments, ?_⟩
  rw [hlag before _ _ inputs _ [] hmoments, hcarried]
  decide +kernel

end Session
end FrameGraph
