import FrameGraph.Proofs.Context.Registers
import FrameGraph.Proofs.Frame.Shared
import FrameGraph.Proofs.Session.FrameShape

/-!
# Sessions that go on after a release

A release leaves a session without a script, as a new one is. But it takes away the pass
that shows the display image, which only the start builds, and leaves the inputs for the
next frame. So if a script is loaded again, the session has the same replies as a new one
with its settings and variables, and puts the same on record, except that nothing is ever
shown; and until a frame is rendered, the compiler also gets what was left over.

As handles are numbers, the new session starts on a recorder that has given all numbers but
those of its own pass.

Results:
* `Resumed`: what the two sessions have in common.
* `Resumed.loadScript`, `Resumed.runFrame`, `Resumed.runFrames`: what keeps it.
* `rerun_after_release`: all that a released session does otherwise than a new one.
* `released_session_shows_nothing`: a session that is released and used again.
-/
namespace FrameGraph.Session

open Gpu
open Program (Layout)

section
variable {σ κ : Type} [Backend σ] [ScriptCompiler κ]

/-- Runs frames, one after the other. -/
def runFrames : List (Extent × Single) → StateM (Session σ κ) (List FrameReport)
  | [] => return []
  | (size, time) :: frames => do
    let report ← runFrame size time
    let reports ← runFrames frames
    return report :: reports

/-- Loads a script and runs frames. -/
def rerun (script : String) (frames : List (Extent × Single)) :
    StateM (Session σ κ) (Except ScriptError Unit × List FrameReport) := do
  let loaded ← loadScript script
  let reports ← runFrames frames
  return (loaded, reports)

end

variable {fe : Program.FrontEnd} {κ κ' : Type}

/-- An empty recorder, whose objects are numbered from here on. -/
def numberedFrom (fe : Program.FrontEnd) (limit : UInt32) (nextId : Nat) : Recorder fe where
  limit := limit
  objects := { nextId }

/-- The first session goes on after a release, and the second one is new: the pass `shown`
shows the display image on the second one alone. Their backends are related by `R`, both
have the compiled `passes`, and the inputs `left` were left over in the first one. -/
structure Resumed (shown : Pass) (R : Recorder fe → Recorder fe → Prop) (passes : PassTable)
    (left : List ContextInput) (u : Session (Recorder fe) κ) (v : Session (Recorder fe) κ') :
    Prop where
  backend : R u.backend v.backend
  settings : u.settings = v.settings
  state : u.state = v.state
  passes : u.passes = passes ∧ v.passes = passes
  hidden : u.present.get? Present.passName = none
  shown : v.present.get? Present.passName = some shown
  cache : u.cache = v.cache
  values : u.context.value? = v.context.value?
  pending : u.pending = left ++ v.pending
  surfaceSize : u.surfaceSize = v.surfaceSize

variable {shown : Pass} {R : Recorder fe → Recorder fe → Prop} {passes : PassTable}
  {left : List ContextInput} {cs cs' : List Command} {L : ProgramId → Option Layout}
  {u : Session (Recorder fe) κ} {v : Session (Recorder fe) κ'} {size : Extent} {time : Single}

/-! ## Requests -/

theorem Resumed.requestImage (h : Resumed shown (Framed shown L cs cs') passes left u v)
    (r : ImageRequest) : (requestImage r u).1 = (requestImage r v).1 ∧
      Resumed shown (Framed shown L cs cs') passes left (requestImage r u).2
        (requestImage r v).2 := by
  obtain ⟨hsame, hframed⟩ := framed_request v.cache r _ _ h.backend
  rw [requestImage_fst, requestImage_fst, requestImage_snd, requestImage_snd, h.cache, hsame]
  exact ⟨rfl, { h with backend := hframed, cache := rfl }⟩

theorem Resumed.meet (h : Resumed shown (Framed shown L cs cs') passes left u v)
    (r : ContextRequest) : (meet r u).1 = (meet r v).1 ∧
      Resumed shown (Framed shown L cs cs') passes left (meet r u).2 (meet r v).2 := by
  cases himage : r.image? with
  | some image =>
    rw [meet_image himage, meet_image himage]
    exact h.requestImage image
  | none =>
    rw [Session.meet, Session.meet, himage]
    obtain ⟨hinput, hvalues⟩ := ContextStore.resolve_spec u.context r
    obtain ⟨hinput', hvalues'⟩ := ContextStore.resolve_spec v.context r
    refine ⟨rfl, { h with values := ?_, pending := ?_ }⟩
    · show (u.context.resolve r).2.value? = (v.context.resolve r).2.value?
      rw [hvalues, hvalues', h.values]
    · show u.pending ++ (u.context.resolve r).1.toList
        = left ++ (v.pending ++ (v.context.resolve r).1.toList)
      rw [hinput, hinput', h.values, h.pending, List.append_assoc]

theorem Resumed.meetAll (h : Resumed shown (Framed shown L cs cs') passes left u v)
    (rs : List ContextRequest) : (meetAll rs u).1 = (meetAll rs v).1 ∧
      Resumed shown (Framed shown L cs cs') passes left (meetAll rs u).2 (meetAll rs v).2 := by
  induction rs generalizing u v with
  | nil => exact ⟨rfl, h⟩
  | cons r rs ih =>
    obtain ⟨hfirst, hmet⟩ := h.meet r
    obtain ⟨hrest, hall⟩ := ih hmet
    exact ⟨congrArg₂ (· ++ ·) hfirst hrest, hall⟩

/-! ## Frames -/

theorem framed_clear (color : Color) :
    Agrees (σ := Recorder fe) (Framed shown L cs cs') (do bindFramebuffer none; clear color)
      fun _ => Framed shown L cs cs' := by
  intro r r' h
  obtain ⟨-, hbound⟩ := h.perform (.bindFramebuffer none) trivial trivial
  have hclear := hbound.toAlongside.clear rfl rfl color
  exact ⟨rfl, hclear, (Recorder.perform_layouts (.clear color) trivial).trans
    hbound.layouts⟩

theorem Resumed.resize (h : Resumed shown (Framed shown L cs cs') passes left u v)
    (size : Extent) : Resumed shown (Framed shown L cs cs') passes left (resize size u).2
      (resize size v).2 := by
  by_cases hsize : v.surfaceSize = some size
  · rw [resize_same hsize, resize_same (h.surfaceSize.trans hsize)]
    exact h
  · obtain ⟨-, hframed⟩ := h.backend.perform (.resizeSurface size) trivial trivial
    rw [resize_new hsize, resize_new (h.surfaceSize ▸ hsize)]
    exact { h with backend := hframed, surfaceSize := rfl }

theorem Resumed.openFrame (h : Resumed shown (Framed shown L cs cs') passes left u v)
    (size : Extent) : Resumed shown (Framed shown L cs cs') passes left (openFrame size u).2
      (openFrame size v).2 := by
  have hresized := h.resize size
  obtain ⟨-, hclear⟩ := framed_clear (Session.resize size v).2.settings.clearColor _ _
    hresized.backend
  simp only [Session.openFrame, run_bind, run_onBackend, run_get, hresized.settings]
  exact { hresized with backend := hclear, settings := rfl }

variable [ScriptCompiler κ] [ScriptCompiler κ']

theorem Resumed.evaluated (h : Resumed shown (Framed shown L cs cs') passes left u v)
    (size : Extent) (time : Single) :
    Resumed shown (Framed shown L cs cs') passes left (u.evaluated size time)
      (v.evaluated size time) :=
  { h.openFrame size with }

/-- A frame that is rendered leaves nothing over. -/
theorem Resumed.drawn (havoids : passes.Avoids shown) (hbinds : passes.BindsLayouts L)
    (h : Resumed shown (Framed shown L cs cs') passes left u v)
    (hresult : (u.evaluation size time).1 = (v.evaluation size time).1) :
    (u.drawn size time).1 = (v.drawn size time).1 ∧
      Resumed shown (Framed shown L cs cs') passes []
        { (u.fetched size time).2 with backend := (u.drawn size time).2 }
        { (v.fetched size time).2 with backend := (v.drawn size time).2 } := by
  have hevaluated := h.evaluated size time
  have hbegun : Resumed shown (Framed shown L cs cs') passes [] (u.begun size time)
      (v.begun size time) :=
    { hevaluated with
      cache := congrArg ImageCache.startFrame hevaluated.cache
      values := hevaluated.values
      pending := rfl }
  have hrequests : u.frameRequests size (u.evaluation size time).1
      = v.frameRequests size (v.evaluation size time).1 := by
    simp only [frameRequests, displayRequest, h.settings]
    rw [hresult]
  obtain ⟨herrors, hfetched⟩ :
      (u.fetched size time).1 = (v.fetched size time).1 ∧
        Resumed shown (Framed shown L cs cs') passes [] (u.fetched size time).2
          (v.fetched size time).2 := by
    rw [fetched, fetched, hrequests]
    exact hbegun.meetAll _
  obtain ⟨hreport, hbackend⟩ := framed_invokeAll havoids hbinds (v.fetched size time).2.cache
    (v.evaluation size time).1.invocations
    { outcome := .rendered, errors := (v.fetched size time).1 } _ _ hfetched.backend
  have hrun : u.drawn size time = invokeAll passes (v.fetched size time).2.cache
      (v.evaluation size time).1.invocations
      { outcome := .rendered, errors := (v.fetched size time).1 }
      (u.fetched size time).2.backend := by
    rw [Session.drawn, hfetched.passes.1, hfetched.cache, hresult, herrors]
  have hrun' : v.drawn size time = invokeAll passes (v.fetched size time).2.cache
      (v.evaluation size time).1.invocations
      { outcome := .rendered, errors := (v.fetched size time).1 }
      (v.fetched size time).2.backend := by
    rw [Session.drawn, hfetched.passes.2]
  rw [hrun, hrun']
  exact ⟨hreport, { hfetched with backend := hbackend }⟩

omit [ScriptCompiler κ] [ScriptCompiler κ'] in
theorem presentDisplay_hidden (h : u.present.get? Present.passName = none) :
    presentDisplay u = ((), u) := by
  simp only [presentDisplay, run_bind, run_get, h]
  cases u.cache.texture? ImageCache.displayId <;> rfl

omit [ScriptCompiler κ] [ScriptCompiler κ'] in
/-- The new session shows the display image, and the other one does not. -/
theorem Resumed.presentDisplay (h : Resumed shown (Framed shown L cs cs') passes left u v)
    (hsound : Sound v.backend) :
    Resumed shown (Framed shown L cs cs') passes left (presentDisplay u).2
      (presentDisplay v).2 := by
  rw [presentDisplay_hidden h.hidden]
  simp only [Session.presentDisplay, run_bind, run_get, h.shown]
  cases v.cache.texture? ImageCache.displayId with
  | none => exact h
  | some display =>
    obtain ⟨⟨es, hes⟩, -⟩ := Present.runs_composite shown display v.backend hsound
    have halong : Alongside shown cs cs' u.backend (Present.composite shown display v.backend).2 :=
      hes.keeps (I := Alongside shown cs cs' u.backend)
        (fun _ _ _ hcall halong => halong.showing hcall) h.backend.toAlongside
    exact { h with backend := ⟨halong, h.backend.layouts⟩ }

omit [ScriptCompiler κ] [ScriptCompiler κ'] in
theorem Resumed.closeFrame (h : Resumed shown (Framed shown L cs cs') passes left u v)
    (hsound : Sound v.backend) :
    Resumed shown (Framed shown L cs cs') passes left (closeFrame u).2 (closeFrame v).2 := by
  have hpresented := h.presentDisplay hsound
  obtain ⟨-, hended⟩ := hpresented.backend.perform .endFrame trivial trivial
  exact { hpresented with backend := hended }

theorem Resumed.runFrame (havoids : passes.Avoids shown) (hbinds : passes.BindsLayouts L)
    (h : Resumed shown (Framed shown L cs cs') passes left u v) (howned : v.Owned)
    (hresult : v.state = .ready → (u.evaluation size.atLeastOne time).1
      = (v.evaluation size.atLeastOne time).1) :
    (runFrame size time u).1 = (runFrame size time v).1 ∧
      Resumed shown (Framed shown L cs cs') passes
        (if (runFrame size time v).1.outcome = .rendered then [] else left)
        (runFrame size time u).2 (runFrame size time v).2 := by
  cases hstate : v.state with
  | idle =>
    rw [runFrame_idle hstate, runFrame_idle (h.state.trans hstate)]
    exact ⟨rfl, h⟩
  | ready =>
    have hresult := hresult hstate
    have hholding : Holding v.present (v.evaluated size.atLeastOne time) :=
      (runs_openFrame size.atLeastOne v ⟨howned, rfl⟩).2.congr rfl rfl rfl rfl
    rw [runFrame_ready hstate, runFrame_ready (h.state.trans hstate)]
    cases herror : (v.evaluation size.atLeastOne time).1.error with
    | some d =>
      rw [runReady_failed herror, runReady_failed (hresult ▸ herror)]
      exact ⟨rfl, (h.evaluated size.atLeastOne time).closeFrame hholding.1.balanced.sound⟩
    | none =>
      obtain ⟨hreport, hdrawn⟩ := h.drawn havoids hbinds hresult
      have hrendered :=
        (runs_renderFrame size.atLeastOne (v.evaluation size.atLeastOne time).1 _ hholding).2
      rw [renderFrame_drawn] at hrendered
      rw [runReady_drawn herror, runReady_drawn (hresult ▸ herror)]
      have houtcome : (v.drawn size.atLeastOne time).1.outcome = .rendered :=
        invokeAll_outcome ..
      refine ⟨hreport, ?_⟩
      rw [if_pos houtcome]
      exact hdrawn.closeFrame hrendered.1.balanced.sound

/-- The compilers make the same of every frame. -/
def SameResults (u : Session (Recorder fe) κ) (v : Session (Recorder fe) κ') :
    List (Extent × Single) → Prop
  | [] => True
  | (size, time) :: frames =>
    (v.state = .ready → (u.evaluation size.atLeastOne time).1
      = (v.evaluation size.atLeastOne time).1) ∧
    SameResults (Session.runFrame size time u).2 (Session.runFrame size time v).2 frames

/-- Until a frame is rendered, what was left over still is. -/
theorem Resumed.runFrames (havoids : passes.Avoids shown) (hbinds : passes.BindsLayouts L)
    (h : Resumed shown (Framed shown L cs cs') passes left u v) (howned : v.Owned)
    {frames : List (Extent × Single)} (hresults : SameResults u v frames) :
    (runFrames frames u).1 = (runFrames frames v).1 ∧
      Resumed shown (Framed shown L cs cs') passes
        (if ∃ report ∈ (runFrames frames v).1, report.outcome = .rendered then [] else left)
        (runFrames frames u).2 (runFrames frames v).2 := by
  induction frames generalizing left u v with
  | nil =>
    have hnone : ¬ ∃ report ∈ ([] : List FrameReport), report.outcome = .rendered := by simp
    refine ⟨rfl, ?_⟩
    rw [Session.runFrames, run_pure, if_neg hnone]
    exact h
  | cons frame frames ih =>
    obtain ⟨size, time⟩ := frame
    obtain ⟨hresult, hresults⟩ := hresults
    obtain ⟨hreport, hrun⟩ := h.runFrame havoids hbinds howned hresult
    obtain ⟨hreports, hruns⟩ := ih hrun (runs_runFrame size time v ⟨howned, rfl⟩).2.1 hresults
    refine ⟨congrArg₂ List.cons hreport hreports, ?_⟩
    simp only [Session.runFrames, run_bind, run_pure, List.exists_mem_cons_iff]
    by_cases hrendered : (Session.runFrame size time v).1.outcome = .rendered
    · simpa [hrendered] using hruns
    · simpa [hrendered] using hruns

/-! ## Loading -/

omit [ScriptCompiler κ] [ScriptCompiler κ'] in
/-- Without passes there is nothing to release, and the same is built on both sides. -/
theorem Resumed.rebuild (h : Resumed shown (Alongside shown cs cs') .empty left u v)
    (result : LoadResult) : (rebuild result u).1 = (rebuild result v).1 ∧
      ∃ passes, passes.Avoids shown ∧ Resumed shown (Alongside shown cs cs') passes left
        (rebuild result u).2 (rebuild result v).2 := by
  obtain ⟨hbuilt, halong, havoids⟩ := PassTable.agrees_buildAll PassTable.avoids_empty
    result.declarations result.shaders _ _ h.backend
  have hretain : ∀ (keep : List String) (r : Recorder fe),
      PassTable.empty.retain keep r = (.empty, r) := fun _ _ => rfl
  simp only [Session.rebuild, run_bind, run_get, run_onBackend, h.passes.1, h.passes.2, hretain,
    ← hbuilt]
  exact ⟨rfl, _, havoids, { h with backend := halong, passes := ⟨rfl, rfl⟩ }⟩

/-- Both sessions load a script with the same result. -/
theorem Resumed.loadScript (h : Resumed shown (Alongside shown cs cs') .empty left u v)
    {script : String} (hload : (ScriptCompiler.load script u.compiler).1
      = (ScriptCompiler.load script v.compiler).1) :
    (loadScript script u).1 = (loadScript script v).1 ∧
      ∃ passes, passes.Avoids shown ∧ Resumed shown (Alongside shown cs cs') passes left
        (loadScript script u).2 (loadScript script v).2 := by
  simp only [Session.loadScript, run_bind, run_onCompiler, hload]
  cases (ScriptCompiler.load script v.compiler).1.error with
  | some d => exact ⟨rfl, .empty, PassTable.avoids_empty, { h with }⟩
  | none =>
    have hcompiled : Resumed shown (Alongside shown cs cs') .empty left
        { u with compiler := (ScriptCompiler.load script u.compiler).2 }
        { v with compiler := (ScriptCompiler.load script v.compiler).2 } := { h with }
    obtain ⟨herrors, passes, havoids, hbuilt⟩ :=
      hcompiled.rebuild (ScriptCompiler.load script v.compiler).1
    simp only [run_bind, herrors]
    cases (Session.rebuild (ScriptCompiler.load script v.compiler).1
      { v with compiler := (ScriptCompiler.load script v.compiler).2 }).1 with
    | nil => exact ⟨rfl, passes, havoids, { hbuilt with state := rfl }⟩
    | cons e es => exact ⟨rfl, passes, havoids, hbuilt⟩

/-! ## Releasing and starting -/

omit [ScriptCompiler κ] [ScriptCompiler κ'] in
/-- A session after a release, and a new one on a recorder that has given the numbers before
those of its pass. -/
theorem resumed_start {s : Session (Recorder fe) κ} (howned : s.Owned)
    (hnumber : 2 ≤ (release s).2.backend.objects.nextId) {compiler : κ'} {context : ContextStore}
    (hvalues : s.context.value? = context.value?)
    (hstart : (start (numberedFrom fe (release s).2.backend.limit
      ((release s).2.backend.objects.nextId - 2)) compiler s.settings).1 = .ok v) :
    ∃ shown, Resumed shown (Alongside shown (release s).2.backend.commands v.backend.commands)
      .empty s.pending (release s).2 { v with context } := by
  obtain ⟨-, hend, ht, hf, hp⟩ := runs_release s howned
  have hleft := hend.balanced
  rw [ht, hf, hp] at hleft
  obtain ⟨rfl, outcome, hbuild⟩ := start_ok hstart
  obtain ⟨layout, shown, -, hshown, hmade⟩ := Present.build_made hbuild
  have hlacking : Lacking shown (release s).2.backend.objects
      (PassTable.empty.build Present.desc [] (numberedFrom fe (release s).2.backend.limit
        ((release s).2.backend.objects.nextId - 2))).2.objects := by
    rw [hmade.objects]
    refine ⟨(Nat.sub_add_cancel hnumber).symm, ⟨?_, ?_⟩, fun t => ?_, fun f hne => ?_,
      fun p hne => ?_⟩
    · rw [hmade.program]
      exact Nat.sub_lt (by omega) (by omega)
    · rw [hmade.framebuffer]
      show (release s).2.backend.objects.nextId - 2 + 1 < _
      omega
    · exact Option.not_isSome_iff_eq_none.1 (hleft.textures.not_mem t)
    · rw [Dict.get?_insert, if_neg hne]
      exact Option.not_isSome_iff_eq_none.1 (hleft.framebuffers.not_mem f)
    · rw [Dict.get?_insert, if_neg hne]
      exact Option.not_isSome_iff_eq_none.1 (hleft.programs.not_mem p)
  have hnothing : ∀ {α : Type} (xs : List α), xs = xs ++ [] := fun xs => (List.append_nil xs).symm
  exact ⟨shown, ⟨hlacking, hmade.limit.symm, [], hnothing _, hnothing _⟩, rfl, rfl, ⟨rfl, rfl⟩,
    rfl, hshown, rfl, hvalues, hnothing _, rfl⟩

/-- A released session, whatever its life was, has given the numbers of its own pass. -/
theorem released_nextId {limit : UInt32} {compiler : κ} {settings : Settings}
    {s₀ : Session (Recorder fe) κ}
    (h₀ : (start ({ limit } : Recorder fe) compiler settings).1 = .ok s₀) (acts : List Act) :
    (s₀.play acts).Owned ∧ 2 ≤ (release (s₀.play acts)).2.backend.objects.nextId := by
  obtain ⟨-, howned₀⟩ :=
    runs_start (balanced_fresh Objects.numbered_empty Objects.account_empty) h₀
  obtain ⟨⟨es, hes⟩, howned⟩ := runs_play s₀ howned₀ acts
  obtain ⟨⟨es', hes'⟩, -⟩ := runs_release (s₀.play acts) howned
  have hnumbered : 2 ≤ s₀.backend.objects.nextId := by
    obtain ⟨rfl, outcome, hbuild⟩ := start_ok h₀
    obtain ⟨layout, shown, -, -, hmade⟩ := Present.build_made hbuild
    show 2 ≤ (PassTable.empty.build Present.desc [] ({ limit } : Recorder fe)).2.objects.nextId
    rw [hmade.objects]
    exact Nat.le_add_left 2 1
  exact ⟨howned, Nat.le_trans hnumbered (Nat.le_trans hes.nextId_le hes'.nextId_le)⟩

/-! ## Used again -/

/-- A session that is released and used again has the same replies as a new one with its
settings and values, if their compilers have the same results and every pass binds the
samplers of its program. It puts the same on record, but for what is drawn to the surface:
it never shows an image. And until a frame was rendered, the next frame is evaluated with
what the release left over as well. -/
theorem rerun_after_release {limit : UInt32} {compiler : κ} {compiler' : κ'} {settings : Settings}
    {s₀ : Session (Recorder fe) κ} {t₀ : Session (Recorder fe) κ'}
    (h₀ : (start ({ limit } : Recorder fe) compiler settings).1 = .ok s₀) (acts : List Act)
    {r : Session (Recorder fe) κ} (hr : r = (release (s₀.play acts)).2)
    (hnew : (start (numberedFrom fe r.backend.limit (r.backend.objects.nextId - 2))
      compiler' r.settings).1 = .ok t₀) {context : ContextStore}
    (hvalues : context.value? = r.context.value?) {t : Session (Recorder fe) κ'}
    (ht : t = { t₀ with context }) {script : String}
    (hload : (ScriptCompiler.load script r.compiler).1 = (ScriptCompiler.load script compiler').1)
    (hbinds : (loadScript script r).2.passes.BindsSamplers (loadScript script r).2.backend.objects)
    {frames : List (Extent × Single)}
    (hresults : SameResults (loadScript script r).2 (loadScript script t).2 frames) :
    let replayed := rerun script frames r
    let played := rerun script frames t
    replayed.1 = played.1 ∧
      (∃ cs, played.2.backend.commands = t.backend.commands ++ cs ∧
        replayed.2.backend.commands = r.backend.commands ++ unshown cs) ∧
      surfaceDraws replayed.2.backend.commands = surfaceDraws r.backend.commands ∧
      ∀ size time, replayed.2.frameInputs size time
        = (if ∃ report ∈ replayed.1.2, report.outcome = .rendered then [] else r.pending)
          ++ played.2.frameInputs size time := by
  subst hr ht
  intro replayed played
  obtain ⟨howned, hnumber⟩ := released_nextId h₀ acts
  obtain ⟨shown, hresumed⟩ := resumed_start howned hnumber hvalues.symm hnew
  have hholding : Holding t₀.present { t₀ with context } := by
    obtain ⟨-, howned₀⟩ :=
      runs_start (balanced_fresh Objects.numbered_empty Objects.account_empty) hnew
    exact Holding.congr ⟨howned₀, rfl⟩ rfl rfl rfl rfl
  obtain ⟨rfl, -⟩ := start_ok hnew
  obtain ⟨hloaded, passes, havoids, hbuilt⟩ := hresumed.loadScript hload
  have hframed : Resumed shown (Framed shown _ _ _) passes _ _ _ :=
    { hbuilt with backend := ⟨hbuilt.backend, rfl⟩ }
  obtain ⟨hreports, hruns⟩ := hframed.runFrames havoids (hbuilt.passes.1 ▸ hbinds.layouts)
    (runs_loadScript script _ hholding).2.1 hresults
  obtain ⟨cs, hcs, hcs'⟩ : ∃ cs,
      replayed.2.backend.commands = (release (s₀.play acts)).2.backend.commands ++ unshown cs ∧
        played.2.backend.commands = _ ++ cs := hruns.backend.record
  refine ⟨Prod.ext hloaded hreports, ⟨cs, hcs', hcs⟩, ?_, fun size time => ?_⟩
  · rw [hcs, surfaceDraws_append, surfaceDraws_unshown, List.append_nil]
  · have hreports' : replayed.1.2 = played.1.2 := hreports
    have hpending : replayed.2.pending
        = (if ∃ report ∈ played.1.2, report.outcome = .rendered then []
          else (release (s₀.play acts)).2.pending) ++ played.2.pending := hruns.pending
    have hsettings : replayed.2.settings = played.2.settings := hruns.settings
    rw [frameInputs, frameInputs, hpending, hsettings, hreports', List.append_assoc]

/-- A script with one pass, whose frames read a number and draw into the display image. -/
def counting : Scripted LoadResult FrameResult (List ContextInput) where
  loads := .ofList [("a", ⟨[], [{ Present.desc with name := "wave" }], none⟩)]
  frames := [⟨[.int ⟨"count", 3, 0, 9⟩], [⟨"wave", [], [⟨0⟩], [⟨0⟩]⟩], none⟩]

def uncounted : Session (Recorder oneSampler)
    (Scripted LoadResult FrameResult (List ContextInput)) :=
  fresh {} counting {}

/-- Released after a frame. -/
def released : Session (Recorder oneSampler)
    (Scripted LoadResult FrameResult (List ContextInput)) :=
  (release (uncounted.play oneWave)).2

/-- A new session that starts where it ended. -/
def started : Session (Recorder oneSampler)
    (Scripted LoadResult FrameResult (List ContextInput)) :=
  fresh (numberedFrom oneSampler released.backend.limit (released.backend.objects.nextId - 2))
    counting released.settings

omit [ScriptCompiler κ] in
/-- A front end that accepts everything lets every session start. -/
theorem start_oneSampler (limit : UInt32) (nextId : Nat) (compiler : κ) (settings : Settings) :
    (start (numberedFrom oneSampler limit nextId) compiler settings).1
      = .ok (fresh (numberedFrom oneSampler limit nextId) compiler settings) := rfl

/-- With its values. -/
def renewed : Session (Recorder oneSampler)
    (Scripted LoadResult FrameResult (List ContextInput)) :=
  { started with context := released.context }

theorem released_session_shows_nothing :
    let replayed := rerun "a" [(⟨4, 4⟩, .zero)] released
    let played := rerun "a" [(⟨4, 4⟩, .zero)] renewed
    (start ({} : Recorder oneSampler) counting {}).1 = .ok uncounted ∧
      (start (numberedFrom oneSampler released.backend.limit
        (released.backend.objects.nextId - 2)) counting released.settings).1 = .ok started ∧
      replayed.1.2.map FrameReport.outcome = [.rendered] ∧
      played.1.2.map FrameReport.outcome = [.rendered] ∧
      replayed.2.cache.texture? ImageCache.displayId = some ⟨8⟩ ∧
      played.2.cache.texture? ImageCache.displayId = some ⟨8⟩ ∧
      surfaceDraws (replayed.2.backend.commands.drop released.backend.commands.length) = [] ∧
      (surfaceDraws (played.2.backend.commands.drop renewed.backend.commands.length)).map
        Draw.samplers = [[some ⟨8⟩]] ∧
      released.frameInputs ⟨4, 4⟩ .zero = .int "count" 3 :: renewed.frameInputs ⟨4, 4⟩ .zero := by
  refine ⟨rfl, start_oneSampler .., ?_⟩
  decide +kernel

/-- Its pass has one sampler, which it binds. -/
theorem counting_binds : (loadScript "a" released).2.passes.BindsSamplers
    (loadScript "a" released).2.backend.objects := by
  have hlength : (loadScript "a" released).2.passes.passes.entries.length = 1 := by
    decide +kernel
  have hpasses : ∀ e ∈ (loadScript "a" released).2.passes.passes.entries,
      e.2.program = ⟨6⟩ ∧ e.2.samplers = [some ⟨0⟩] := by decide +kernel
  have hlayout : ((loadScript "a" released).2.backend.objects.programs.get? ⟨6⟩).map
      (fun m => (m.layout.uniforms.length, m.layout.samplers.length)) = some (0, 1) := by
    decide +kernel
  intro name pass hpass m hm k hk
  obtain ⟨e, he⟩ := List.length_eq_one_iff.1 hlength
  obtain ⟨hprogram, hsamplers⟩ := hpasses e (he ▸ List.mem_singleton_self e)
  simp only [PassTable.get?, Dict.get?, he, Dict.find?] at hpass
  split at hpass
  · cases hpass
    rw [hprogram] at hm
    rw [hm] at hlayout
    obtain ⟨huniforms, hone⟩ := Prod.mk.inj (Option.some.inj hlayout)
    have hk' : k < m.layout.samplers.length := hk
    have hzero : k = 0 := by omega
    have hlocation : (⟨0⟩ : Program.Location) = ⟨m.layout.uniforms.length + k⟩ := by
      rw [huniforms, hzero]
    exact ⟨⟨0⟩, by simp [hsamplers], hk, hk', hlocation⟩
  · cases hpass

theorem rerun_after_release_sample :
    (rerun "a" [(⟨4, 4⟩, .zero)] released).1 = (rerun "a" [(⟨4, 4⟩, .zero)] renewed).1 ∧
      (∃ cs, (rerun "a" [(⟨4, 4⟩, .zero)] renewed).2.backend.commands
          = renewed.backend.commands ++ cs ∧
        (rerun "a" [(⟨4, 4⟩, .zero)] released).2.backend.commands
          = released.backend.commands ++ unshown cs) ∧
      (rerun "a" [(⟨4, 4⟩, .zero)] released).2.frameInputs ⟨4, 4⟩ .zero
        = (rerun "a" [(⟨4, 4⟩, .zero)] renewed).2.frameInputs ⟨4, 4⟩ .zero := by
  have hstart : (start ({ limit := 16384 } : Recorder oneSampler) counting {}).1
      = .ok uncounted := rfl
  have hnew : (start (numberedFrom oneSampler released.backend.limit
      (released.backend.objects.nextId - 2)) counting released.settings).1 = .ok started :=
    start_oneSampler ..
  have hload : (ScriptCompiler.load "a" released.compiler).1
      = (ScriptCompiler.load "a" counting).1 := by decide +kernel
  have hframe : ((loadScript "a" released).2.evaluation (Extent.atLeastOne ⟨4, 4⟩) .zero).1
      = ((loadScript "a" renewed).2.evaluation (Extent.atLeastOne ⟨4, 4⟩) .zero).1 := by
    decide +kernel
  have hresults : SameResults (loadScript "a" released).2 (loadScript "a" renewed).2
      [(⟨4, 4⟩, .zero)] := ⟨fun _ => hframe, trivial⟩
  have hrendered : ∃ report ∈ (rerun "a" [(⟨4, 4⟩, .zero)] released).1.2,
      report.outcome = .rendered := by decide +kernel
  obtain ⟨hreplies, hrecord, -, hinputs⟩ := rerun_after_release hstart oneWave (r := released)
    rfl hnew rfl (t := renewed) rfl hload counting_binds hresults
  refine ⟨hreplies, hrecord, (hinputs _ _).trans ?_⟩
  rw [if_pos hrendered, List.nil_append]

end FrameGraph.Session
