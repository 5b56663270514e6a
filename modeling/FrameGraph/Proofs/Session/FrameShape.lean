import FrameGraph.Proofs.Frame.OnRecord
import FrameGraph.Proofs.Image.Fetching
import FrameGraph.Proofs.Session.Churn
import FrameGraph.Proofs.Session.FailedFrame

/-!
# What a frame puts on record

On a recording backend that refuses nothing, and before a release, every frame records the
same kinds of commands in the same order, whatever the frames before it left behind. The
surface is set to its size, unless it was last set to that size, and cleared. The requests
destroy and create textures, the executed invocations draw into the framebuffers of their
passes, the display image is drawn over the surface, and the frame ends.

Results:
* `Measured`: a session knows which size the surface has. Whatever does not concern the
  surface keeps it (`Measured.of_trail`), and so does every act but a release
  (`lasting_measured`).
* `meetAll_fetched`: what the requests of a frame put on record.
* `frame_on_record`: all that a frame puts on record.
-/
namespace FrameGraph.Session

open Gpu

variable {fe : Program.FrontEnd} {κ : Type} {present : PassTable} {config : Settings}
  {s s' : Session (Recorder fe) κ} {size : Extent} {time : Single}

/-! ## The size of the surface -/

/-- The settings are these, and the session knows the size that the surface was last set to. -/
structure Measured (config : Settings) (s : Session (Recorder fe) κ) : Prop where
  settings : s.settings = config
  noted : s.surfaceSize = lastResize s.backend.commands
  proper : ∀ size, s.surfaceSize = some size → size.atLeastOne = size
  sized : s.backend.Sized

theorem Measured.surface (h : Measured config s) (hsize : s.surfaceSize = some size) :
    s.backend.objects.surface = size := by
  rw [h.sized, ← h.noted, hsize]
  rfl

theorem Measured.of_trail (h : Measured config s) {C : Discipline (Recorder fe)} {es : List Event}
    (htrail : Trail C s.backend es s'.backend)
    (hC : ∀ (b : Recorder fe) {a : Answer} (call : Call a), C b call → call.keepsSurface)
    (hsettings : s'.settings = s.settings) (hsize : s'.surfaceSize = s.surfaceSize) :
    Measured config s' := by
  refine ⟨hsettings.trans h.settings, ?_, fun size hs => ?_, htrail.sized h.sized⟩
  · rw [hsize, h.noted, htrail.lastResize hC]
  · exact h.proper size (hsize ▸ hs)

theorem Measured.inside {α : Type} {m : StateM (Session (Recorder fe) κ) α}
    (hm : Upholds (Recorder fe) κ (Inside present.programs) present m)
    (hfields : ∀ s, (m s).2.settings = s.settings ∧ (m s).2.surfaceSize = s.surfaceSize)
    (hholding : Holding present s) (h : Measured config s) : Measured config (m s).2 := by
  obtain ⟨⟨es, hes⟩, -⟩ := hm s hholding
  exact h.of_trail hes (fun _ _ _ => And.right) (hfields s).1 (hfields s).2

theorem Measured.resize (h : Measured config s) (hproper : size.atLeastOne = size) :
    Measured config (resize size s).2 ∧ (resize size s).2.surfaceSize = some size := by
  by_cases hsame : s.surfaceSize = some size
  · rw [resize_same hsame]
    exact ⟨h, hsame⟩
  · have hrun : Session.resize size s = ((), { s with
        backend := (resizeSurface size s.backend).2, surfaceSize := some size }) :=
      resize_new hsame
    have hcommands : (resizeSurface size s.backend).2.commands
        = s.backend.commands ++ [.resizeSurface size.atLeastOne] := rfl
    rw [hrun]
    refine ⟨⟨h.settings, ?_, ?_, Recorder.perform_sized h.sized (.resizeSurface size)⟩, rfl⟩
    · rw [hcommands, lastResize_append, hproper]
      rfl
    · rintro size' ⟨⟩
      exact hproper

theorem Measured.opened (h : Measured config s) (hproper : size.atLeastOne = size) :
    Measured config (openFrame size s).2 ∧ (openFrame size s).2.surfaceSize = some size := by
  obtain ⟨hresized, hsize⟩ := h.resize hproper
  have hcolor : Trail (fun _ {_} call => call.keepsSurface) (Session.resize size s).2.backend _
      (openFrame size s).2.backend :=
    (Trail.single (.bindFramebuffer none) trivial).append
      (.single (.clear (Session.resize size s).2.settings.clearColor) trivial)
  exact ⟨hresized.of_trail hcolor (fun _ _ _ h => h) rfl rfl, hsize⟩

theorem Measured.closed (h : Measured config s) (hholding : Holding present s) :
    Measured config (closeFrame s).2 := by
  obtain ⟨⟨es, hes⟩, -⟩ := runs_closeFrame s hholding
  rw [closeFrame_fields]
  exact h.of_trail hes (fun _ _ _ => And.right) rfl rfl

section
variable [ScriptCompiler κ]

theorem Measured.evaluated (h : Measured config s) (hproper : size.atLeastOne = size)
    (time : Single) : Measured config (s.evaluated size time) ∧
      (s.evaluated size time).surfaceSize = some size := by
  obtain ⟨hopened, hsize⟩ := h.opened hproper
  exact ⟨⟨hopened.settings, hopened.noted, hopened.proper, hopened.sized⟩, hsize⟩

omit [ScriptCompiler κ] in
theorem renderFrame_fields (frame : FrameResult) (s : Session (Recorder fe) κ) :
    (renderFrame size frame s).2.settings = s.settings ∧
      (renderFrame size frame s).2.surfaceSize = s.surfaceSize := by
  simp only [renderFrame, run_bind, run_modify, run_get, run_onBackend]
  rw [meetAll_fields, requestImage_snd]
  exact ⟨rfl, rfl⟩

theorem Measured.runFrame (hpoised : Poised present s) (h : Measured config s) (size : Extent)
    (time : Single) : Measured config (runFrame size time s).2 := by
  cases hstate : s.state with
  | idle =>
    rw [runFrame_idle hstate]
    exact h
  | ready =>
    rw [runFrame_ready hstate]
    obtain ⟨hevaluated, -⟩ := h.evaluated size.atLeastOne_atLeastOne time
    have hholding := (hpoised.evaluated size.atLeastOne time).holding
    cases herror : (s.evaluation size.atLeastOne time).1.error with
    | some d =>
      rw [runReady_failed herror]
      exact hevaluated.closed hholding
    | none =>
      rw [runReady_rendered herror]
      have hrender : Upholds (Recorder fe) κ (Inside present.programs) present
          (renderFrame size.atLeastOne (s.evaluation size.atLeastOne time).1) :=
        runs_renderFrame _ _
      exact (hevaluated.inside hrender (renderFrame_fields _) hholding).closed
        (hrender _ hholding).2

/-- A session that can show what it has, and knows the size of the surface. -/
def Attuned (present : PassTable) (config : Settings) (s : Session (Recorder fe) κ) : Prop :=
  Steady present s ∧ Measured config s

theorem lasting_attuned : Lasting (@Attuned fe κ present config) where
  load script s h := by
    refine ⟨keeps_loadScript script s h.1, h.2.inside (runs_loadScript script) (fun s => ?_)
      h.1.poised.holding⟩
    rw [loadScript_fields]
    exact ⟨rfl, rfl⟩
  frame size time s h := ⟨keeps_runFrame size time s h.1, h.2.runFrame h.1.poised size time⟩
  read s h := ⟨lasting_steady.read s h.1,
    h.2.of_trail (.single (C := fun _ {_} call => call.keepsSurface) .readSurface trivial)
      (fun _ _ _ h => h) rfl rfl⟩
  restore t ht s h := by
    refine ⟨lasting_steady.restore t ht.1 s h.1, ?_⟩
    cases hsize : t.surfaceSize with
    | none => exact h.2
    | some size => exact (h.2.resize (ht.2.proper size hsize)).1
  notes s context inbox thumbnail h :=
    ⟨lasting_steady.notes s context inbox thumbnail h.1, h.2.settings, h.2.noted, h.2.proper,
      h.2.sized⟩

end

/-! ## Requests -/

/-- The textures of the images in the cache are live. -/
theorem Holding.live (h : Holding present s) {id : UInt32} {image : CachedImage}
    (hi : s.cache.get? id = some image) : s.backend.objects.textures.contains image.texture := by
  refine (h.1.balanced.textures.2 image.texture).2 ?_
  rw [heldTextures, ImageCache.textures_of_get? h.1.images hi]
  exact Multiset.mem_cons_self _ _

/-- Requests put on record what each of them fetches, in order. -/
theorem meetAll_fetched (h : Holding present s) (rs : List ContextRequest) :
    ∃ cs, ImageCache.FetchedAll s.cache (ContextRequest.images rs) cs (meetAll rs s).2.cache ∧
      (meetAll rs s).2.backend.commands = s.backend.commands ++ cs := by
  induction rs generalizing s with
  | nil => exact ⟨[], .nil _, (List.append_nil _).symm⟩
  | cons r rs ih =>
    obtain ⟨cs, hall, hcommands⟩ := ih (runs_meet r s h).2
    cases himage : r.image? with
    | none =>
      obtain ⟨-, hcache, hbackend⟩ := meet_variable himage s
      rw [hcache] at hall
      rw [hbackend] at hcommands
      rw [ContextRequest.images, List.filterMap_cons_none himage]
      exact ⟨cs, hall, hcommands⟩
    | some image =>
      have hreq := ImageCache.requested s.cache image s.backend
      obtain ⟨cs', hfirst, hcommands'⟩ := hreq.fetched fun _ hi => h.live hi
      have hmeet : (meet r s).2 = { s with
          backend := (s.cache.request image s.backend).2
          cache := (s.cache.request image s.backend).1.2 } := by
        rw [meet_image himage, requestImage_snd]
      have hcache : (meet r s).2.cache = (s.cache.request image s.backend).1.2 := by rw [hmeet]
      have hbackend : (meet r s).2.backend = (s.cache.request image s.backend).2 := by rw [hmeet]
      rw [← hcache] at hfirst
      rw [hbackend, hcommands', List.append_assoc] at hcommands
      rw [ContextRequest.images, List.filterMap_cons_some himage]
      exact ⟨cs' ++ cs, .cons hfirst hall, hcommands⟩

/-! ## Frames -/

section
variable [ScriptCompiler κ]

/-- What a rendered frame puts on record before the display image is shown: what its requests
fetch, and a draw for each invocation that is executed. -/
structure Rendered (s s' : Session (Recorder fe) κ) (size : Extent) (time : Single)
    (report : FrameReport) (fetches : List Command) (draws : List Draw) : Prop where
  outcome : report.outcome = .rendered
  fetched : ImageCache.FetchedAll s.cache.startFrame (s.frameImages size time) fetches s'.cache
  executed : report.executed = draws.length
  skipped : report.skipped + draws.length = (s.evaluation size time).1.invocations.length
  drawn : ∃ is, is.Sublist (s.evaluation size time).1.invocations ∧
    List.Forall₂ (fun (i : Invocation) d => ∃ pass, s.passes.get? i.shader = some pass ∧
      pass.Draws d) is draws

theorem Holding.rendered (h : Holding present (s.evaluated size time)) :
    ∃ fetches draws,
      Rendered s { (s.fetched size time).2 with backend := (s.drawn size time).2 } size time
        (s.drawn size time).1 fetches draws ∧
      (s.drawn size time).2.commands
        = (s.evaluated size time).backend.commands ++ fetches ++ draws.map .draw := by
  have hbegun : Holding present (s.begun size time) := h.congr rfl rfl rfl rfl
  obtain ⟨fetches, hfetched, hcommands⟩ :=
    meetAll_fetched hbegun (s.frameRequests size (s.evaluation size time).1)
  have hcache : (s.begun size time).cache = s.cache.startFrame := by
    simp only [begun, Session.evaluated]
    rw [openFrame_fields]
  have hpasses : (s.fetched size time).2.passes = s.passes := by
    rw [fetched, meetAll_fields]
    simp only [begun, Session.evaluated]
    rw [openFrame_fields]
  rw [hcache] at hfetched
  obtain ⟨is, draws, hsub, hdraws, hexecuted, hskipped, hdrawn⟩ :=
    invokeAll_records (s.fetched size time).2.passes (s.fetched size time).2.cache
      (s.evaluation size time).1.invocations
      { outcome := .rendered, errors := (s.fetched size time).1 } (s.fetched size time).2.backend
  have hlength : is.length = draws.length := hdraws.length_eq
  rw [hpasses] at hdraws
  refine ⟨fetches, draws, ⟨invokeAll_outcome .., hfetched, ?_, ?_, is, hsub, hdraws⟩, ?_⟩
  · rw [← hlength, drawn, hexecuted]
    exact Nat.zero_add _
  · rw [← hlength, drawn, hskipped]
    exact Nat.zero_add _
  · rw [drawn, hdrawn, fetched, hcommands]
    rfl

/-- What a frame puts on record, and the session that then shows what it has. -/
theorem Attuned.frame (h : Attuned present config s) (hready : s.state = .ready) (size : Extent)
    (time : Single) :
    ∃ (fetches : List Command) (draws : List Draw) (shown : List Command),
      (runFrame size time s).2.backend.commands = s.backend.commands
        ++ (if lastResize s.backend.commands = some size.atLeastOne then []
          else [.resizeSurface size.atLeastOne])
        ++ [.clear none config.clearColor] ++ fetches ++ draws.map .draw ++ shown ++ [.endFrame] ∧
      (∀ d, (s.evaluation size.atLeastOne time).1.error = some d →
        (runFrame size time s).1 = { outcome := .evaluationFailed d } ∧
          fetches = [] ∧ draws = [] ∧ (runFrame size time s).2.cache = s.cache) ∧
      ((s.evaluation size.atLeastOne time).1.error = none →
        Rendered s (runFrame size time s).2 size.atLeastOne time (runFrame size time s).1
          fetches draws) ∧
      (runFrame size time s).2.Shown shown ∧
      ∀ d, .draw d ∈ shown → d.viewport = size.atLeastOne := by
  obtain ⟨hsteady, hmeasured⟩ := h
  have hpoised := hsteady.poised.evaluated size.atLeastOne time
  obtain ⟨hevaluated, hsize⟩ := hmeasured.evaluated size.atLeastOne_atLeastOne time
  have hopening : (s.evaluated size.atLeastOne time).backend.commands = s.backend.commands
      ++ (if lastResize s.backend.commands = some size.atLeastOne then []
        else [.resizeSurface size.atLeastOne]) ++ [.clear none config.clearColor] := by
    rw [Session.evaluated, openFrame_clears, opening, hmeasured.noted, hmeasured.settings,
      Extent.atLeastOne_atLeastOne, List.append_assoc]
  rw [runFrame_ready hready, ← hopening]
  cases herror : (s.evaluation size.atLeastOne time).1.error with
  | some d =>
    obtain ⟨shown, r, hclose, hshown, hview, hr, -⟩ := closeFrame_shows hpoised
    have hcache : (s.evaluated size.atLeastOne time).cache = s.cache := by rw [evaluated_fields]
    rw [runReady_failed herror, hclose]
    refine ⟨[], [], shown, ?_, fun d' hd' => ⟨?_, rfl, rfl, hcache⟩, fun hnone => ?_, hshown,
      fun d hd => ?_⟩
    · rw [hr, List.map_nil, List.append_nil, List.append_nil]
    · cases hd'
      rfl
    · cases hnone
    · rw [hview d hd, hevaluated.surface hsize]
  | none =>
    have hrender : Upholds (Recorder fe) κ (Inside present.programs) present
        (renderFrame size.atLeastOne (s.evaluation size.atLeastOne time).1) :=
      runs_renderFrame _ _
    have hmeasured' := hevaluated.inside hrender (renderFrame_fields _) hpoised.holding
    have hsize' : (renderFrame size.atLeastOne (s.evaluation size.atLeastOne time).1
        (s.evaluated size.atLeastOne time)).2.surfaceSize = some size.atLeastOne :=
      (renderFrame_fields _ _).2.trans hsize
    obtain ⟨hpoised', -⟩ := hpoised.behind (hrender.mono fun _ _ _ => And.left)
    rw [renderFrame_drawn] at hmeasured' hsize' hpoised'
    obtain ⟨fetches, draws, hrendered, hcommands⟩ := hpoised.holding.rendered
    obtain ⟨shown, r, hclose, hshown, hview, hr, -⟩ := closeFrame_shows hpoised'
    rw [runReady_drawn herror, hclose]
    refine ⟨fetches, draws, shown, ?_, fun d hd => ?_, fun _ => ?_, hshown, fun d hd => ?_⟩
    · rw [hr, hcommands]
    · cases hd
    · exact ⟨hrendered.outcome, hrendered.fetched, hrendered.executed, hrendered.skipped,
        hrendered.drawn⟩
    · rw [hview d hd, hmeasured'.surface hsize']

/-! ## Runs -/

omit [ScriptCompiler κ] in
theorem measured_start {limit : UInt32} {compiler : κ}
    (h : (start ({ limit } : Recorder fe) compiler config).1 = .ok s) : Measured config s := by
  obtain ⟨rfl, -⟩ := start_ok h
  have hbalanced : Balanced 0 (PassTable.empty.framebuffers + 0) (PassTable.empty.programs + 0)
      ({ limit } : Recorder fe) := by
    simpa using balanced_fresh Objects.numbered_empty Objects.account_empty
  obtain ⟨⟨es, hes⟩, -⟩ :=
    PassTable.runs_build PassTable.filed_empty Present.desc [] _ hbalanced
  have hblank : Measured config
      ({ backend := { limit }, compiler, settings := config } : Session (Recorder fe) κ) :=
    ⟨rfl, rfl, fun _ hsize => (by cases hsize), rfl⟩
  exact hblank.of_trail hes (fun _ _ _ hcall => hcall.inside.2) rfl rfl

/-- A frame of a session with a script, however it got there, puts these commands on record
and no others: the surface is set to its size if it was not last set to that size, and
cleared; a frame that is rendered fetches what it requests and draws once for each executed
invocation, into the framebuffer of its pass; the display image, if there is one, is drawn
opaque over the whole surface; and the frame ends. -/
theorem frame_on_record {limit : UInt32} {compiler : κ} {s₀ : Session (Recorder fe) κ}
    (hfe : ∀ layout, Program.compile fe (Source.assemble Present.desc []).text = .ok layout →
      layout.samplers.length = 1)
    (h₀ : (start ({ limit } : Recorder fe) compiler config).1 = .ok s₀) {acts : List Act}
    (hacts : .release ∉ acts) (hs : Frames (s₀.play acts) s) (hready : s.state = .ready)
    (size : Extent) (time : Single) :
    let surface := size.atLeastOne
    let report := (runFrame size time s).1
    let s' := (runFrame size time s).2
    ∃ (pass : Pass) (fetches : List Command) (draws : List Draw) (shown : List Command),
      s₀.present.get? Present.passName = some pass ∧
      s'.backend.commands = s.backend.commands
        ++ (if lastResize s.backend.commands = some surface then [] else [.resizeSurface surface])
        ++ [.clear none config.clearColor] ++ fetches ++ draws.map .draw ++ shown ++ [.endFrame] ∧
      (∀ d, (s.evaluation surface time).1.error = some d →
        report = { outcome := .evaluationFailed d } ∧ fetches = [] ∧ draws = [] ∧
          s'.cache = s.cache) ∧
      ((s.evaluation surface time).1.error = none →
        Rendered s s' surface time report fetches draws) ∧
      (s'.cache.texture? ImageCache.displayId = none → shown = []) ∧
      ∀ display, s'.cache.texture? ImageCache.displayId = some display →
        ∃ d, shown = [.draw d] ∧ Present.Composite pass display d ∧ d.viewport = surface ∧
          d.blend = .replace := by
  intro surface report s'
  obtain ⟨hsteady₀, -⟩ := steady_start hfe h₀
  have hattuned : Attuned s₀.present config s :=
    lasting_attuned.frames (lasting_attuned.play ⟨hsteady₀, measured_start h₀⟩ hacts) hs
  obtain ⟨fetches, draws, shown, hcommands, hfailed, hrendered, hshown, hview⟩ :=
    hattuned.frame hready size time
  obtain ⟨pass, hpass, hopaque⟩ : ∃ pass, s₀.present.get? Present.passName = some pass ∧
      pass.blendMode = .overwrite := by
    obtain ⟨rfl, outcome, hbuild⟩ := start_ok h₀
    obtain ⟨pass, hpass, hopaque, -⟩ := Present.build_displays hfe hbuild
    exact ⟨pass, hpass, hopaque⟩
  have hpresent : s'.present = s₀.present :=
    (keeps_runFrame size time s hattuned.1).poised.holding.2
  refine ⟨pass, fetches, draws, shown, hpass, hcommands, hfailed, hrendered, fun hnone => ?_,
    fun display hdisplay => ?_⟩
  · exact hshown.eq_nil (.inl hnone)
  · obtain ⟨d, hd, hcomposite⟩ := hshown.eq_draw hdisplay (hpresent ▸ hpass)
    refine ⟨d, hd, hcomposite, hview d (hd ▸ List.mem_singleton_self _), ?_⟩
    rw [hcomposite.blend, hopaque]
    rfl

end

/-- A script with one pass, which draws into the display image. -/
def waving : Scripted LoadResult FrameResult (List ContextInput) where
  loads := .ofList [("a", ⟨[], [{ Present.desc with name := "wave" }], none⟩)]
  frames := [⟨[], [⟨"wave", [], [⟨0⟩], [⟨0⟩]⟩], none⟩]

def unwaved : Session (Recorder oneSampler)
    (Scripted LoadResult FrameResult (List ContextInput)) :=
  fresh {} waving {}

/-- A load and a frame. -/
def oneWave : List Act := [.load "a", .frame ⟨4, 4⟩ .zero]

/-- The second frame is less high than the first one. -/
theorem frame_on_record_sample :
    ∃ (fetches : List Command) (draw shown : Draw),
      (runFrame ⟨4, 0⟩ .zero (unwaved.play oneWave)).2.backend.commands
        = (unwaved.play oneWave).backend.commands ++ [.resizeSurface ⟨4, 1⟩]
          ++ [.clear none Settings.default.clearColor] ++ fetches ++ [.draw draw]
          ++ [.draw shown] ++ [.endFrame] ∧
      draw.framebuffer ≠ none ∧ shown.framebuffer = none ∧ shown.viewport = ⟨4, 1⟩ := by
  have hfe : ∀ layout,
      Program.compile oneSampler (Source.assemble Present.desc []).text = .ok layout →
      layout.samplers.length = 1 := by
    intro layout h
    cases h
    decide +kernel
  have hstart : (start ({ limit := 16384 } : Recorder oneSampler) waving {}).1
      = .ok unwaved := rfl
  have hready : (unwaved.play oneWave).state = .ready := by decide +kernel
  have hrelease : Act.release ∉ oneWave := by decide
  have hresize : lastResize (unwaved.play oneWave).backend.commands
      ≠ some (Extent.atLeastOne ⟨4, 0⟩) := by decide +kernel
  have herror : ((unwaved.play oneWave).evaluation (Extent.atLeastOne ⟨4, 0⟩) .zero).1.error
      = none := by decide +kernel
  have hexecuted : (runFrame ⟨4, 0⟩ .zero (unwaved.play oneWave)).1.executed = 1 := by
    decide +kernel
  have hdisplay : (runFrame ⟨4, 0⟩ .zero (unwaved.play oneWave)).2.cache.texture?
      ImageCache.displayId = some ⟨6⟩ := by decide +kernel
  obtain ⟨pass, fetches, draws, shown, -, hcommands, -, hrendered, -, hshown⟩ :=
    frame_on_record hfe hstart hrelease .act hready ⟨4, 0⟩ .zero
  rw [if_neg hresize] at hcommands
  obtain ⟨d, rfl, hcomposite, hview, -⟩ := hshown ⟨6⟩ hdisplay
  obtain ⟨is, -, hdraws⟩ := (hrendered herror).drawn
  have hone : draws.length = 1 := (hrendered herror).executed.symm.trans hexecuted
  obtain ⟨draw, rfl⟩ := List.length_eq_one_iff.1 hone
  obtain ⟨i, -, ⟨q, -, hdraw⟩, -, -⟩ := List.forall₂_cons_right_iff.1 hdraws
  refine ⟨fetches, draw, d, hcommands, ?_, hcomposite.framebuffer, hview⟩
  rw [hdraw.framebuffer]
  exact Option.some_ne_none _

end FrameGraph.Session
