import FrameGraph.Proofs.Frame.Showing
import FrameGraph.Proofs.Session.Invariant
import FrameGraph.Proofs.Session.Ownership

/-!
# Frames that cannot be evaluated

On a recording backend that refuses nothing, a frame whose evaluation fails changes
nothing but the surface: it is cleared, and the display image is shown again. That is
the image the frame before it showed, since nothing between two frames touches the
display image or the pass that shows it.

Results:
* `Poised`, `Steady`: a session that can show an image at any time, and one whose
  last frame showed the image that it still has. Every act keeps a session steady
  (`steady_play`).
* `failed_evaluation_shows_last_image`: what such a frame does.
-/
namespace FrameGraph.Session

open Gpu

variable {fe : Program.FrontEnd} {κ α : Type} {present : PassTable}
  {s : Session (Recorder fe) κ}

/-- The pass that shows the display image can do so, and since the last frame nothing
was shown. -/
structure Poised (present : PassTable) (s : Session (Recorder fe) κ) : Prop where
  holding : Holding present s
  displays : ∀ {pass}, present.get? Present.passName = some pass →
    Present.Displays pass s.backend
  quiet : surfaceDraws (sinceEnd s.backend.commands) = []

/-- What the last frame showed is still the display image, unless the pass that shows it
is gone. -/
structure Steady (present : PassTable) (s : Session (Recorder fe) κ) : Prop where
  poised : Poised present s
  last : (present.get? Present.passName).isSome →
    ∀ d ∈ surfaceDraws (lastFrame s.backend.commands),
      d.samplers = [s.cache.texture? ImageCache.displayId]

/-! ## Between two frames -/

theorem Poised.behind (h : Poised present s) {m : StateM (Session (Recorder fe) κ) α}
    (hm : Runs backend (Behind present.programs) (Holding present) m fun _ => Holding present) :
    Poised present (m s).2 ∧
      lastFrame (m s).2.backend.commands = lastFrame s.backend.commands := by
  obtain ⟨⟨es, hes⟩, hholding⟩ := hm s h.holding
  obtain ⟨cs, hcs, hbehind⟩ := hes.recorded
  have hend : .endFrame ∉ cs := fun hc => hbehind _ hc
  refine ⟨⟨hholding, fun {pass} hpass => ?_, ?_⟩, ?_⟩
  · obtain ⟨state, hstate, hshows⟩ := h.displays hpass
    have hfiled : present.Filed := h.holding.2 ▸ h.holding.1.present
    exact ⟨state, hes.program_kept h.holding.1.balanced.sound
      (PassTable.mem_programs hfiled hpass) hstate, hshows⟩
  · rw [hcs, sinceEnd_append _ hend, surfaceDraws_append, h.quiet, surfaceDraws_behind hbehind,
      List.append_nil]
  · rw [hcs, lastFrame_append _ hend]

theorem keeps_behind {m : StateM (Session (Recorder fe) κ) α}
    (hm : Runs backend (Behind present.programs) (Holding present) m fun _ => Holding present)
    (hcache : ∀ s, (m s).2.cache = s.cache) : Keeps (Steady present) m := by
  intro s h
  obtain ⟨hpoised, hlast⟩ := h.poised.behind hm
  refine ⟨hpoised, fun hpass d hd => ?_⟩
  rw [hlast] at hd
  rw [hcache]
  exact h.last hpass d hd

/-! ## The end of a frame -/

/-- What a frame shows in the end: the display image, if there are an image and a pass to
show it. -/
def Shown (s : Session (Recorder fe) κ) (cs : List Command) : Prop :=
  match s.cache.texture? ImageCache.displayId, s.present.get? Present.passName with
  | some display, some pass => ∃ d, cs = [.draw d] ∧ Present.Composite pass display d
  | _, _ => cs = []

theorem Shown.eq_nil {cs : List Command} (h : s.Shown cs)
    (hnone : s.cache.texture? ImageCache.displayId = none ∨
      s.present.get? Present.passName = none) : cs = [] := by
  unfold Shown at h
  split at h
  · next display pass hdisplay hpass =>
    rw [hdisplay, hpass] at hnone
    rcases hnone with hnone | hnone <;> cases hnone
  · exact h

theorem Shown.eq_draw {cs : List Command} (h : s.Shown cs) {display : TextureId} {pass : Pass}
    (hdisplay : s.cache.texture? ImageCache.displayId = some display)
    (hpass : s.present.get? Present.passName = some pass) :
    ∃ d, cs = [.draw d] ∧ Present.Composite pass display d := by
  simpa only [Shown, hdisplay, hpass] using h

theorem presentDisplay_shows (h : Poised present s) :
    ∃ cs r, presentDisplay s = ((), { s with backend := r }) ∧
      s.Shown cs ∧ (∀ d, .draw d ∈ cs → d.viewport = s.backend.objects.surface) ∧
      r.commands = s.backend.commands ++ cs ∧
      ∀ {pass}, present.get? Present.passName = some pass → Present.Displays pass r := by
  have hnone : ∀ d, Command.draw d ∈ ([] : List Command) → d.viewport = s.backend.objects.surface :=
    fun _ hd => by cases hd
  simp only [presentDisplay, run_bind, run_get, Shown]
  cases hdisplay : s.cache.texture? ImageCache.displayId with
  | none => exact ⟨[], s.backend, rfl, rfl, hnone, by simp, h.displays⟩
  | some display =>
    cases hpass : s.present.get? Present.passName with
    | none => exact ⟨[], s.backend, rfl, rfl, hnone, by simp, h.displays⟩
    | some pass =>
      have hget : present.get? Present.passName = some pass := h.holding.2 ▸ hpass
      obtain ⟨d, hd, hview, hcs, hdisplays⟩ := Present.composite_shows (h.displays hget) display
      refine ⟨[.draw d], _, rfl, ⟨d, rfl, hd⟩, fun d' hd' => ?_, hcs, fun {pass'} hpass' => ?_⟩
      · cases List.mem_singleton.1 hd'
        exact hview
      cases hget.symm.trans hpass'
      exact hdisplays

theorem Shown.noEnd {cs : List Command} (h : s.Shown cs) : .endFrame ∉ cs := by
  unfold Shown at h
  split at h
  · obtain ⟨d, rfl, -⟩ := h
    simp
  · simp [h]

theorem Shown.samplers {cs : List Command} (h : s.Shown cs) {d : Draw}
    (hd : d ∈ surfaceDraws cs) : d.samplers = [s.cache.texture? ImageCache.displayId] := by
  unfold Shown at h
  split at h
  · next display pass hdisplay _ =>
    obtain ⟨d', rfl, hd'⟩ := h
    have : d = d' := by simpa [surfaceDraws, hd'.framebuffer] using hd
    rw [this, hd'.samplers, hdisplay]
  · rw [h] at hd
    cases hd

/-- A frame that ends shows the display image over the whole surface, and leaves a steady
session. -/
theorem closeFrame_shows (h : Poised present s) :
    ∃ cs r, closeFrame s = ((), { s with backend := r }) ∧ s.Shown cs ∧
      (∀ d, .draw d ∈ cs → d.viewport = s.backend.objects.surface) ∧
      r.commands = s.backend.commands ++ cs ++ [.endFrame] ∧
      Steady present { s with backend := r } := by
  obtain ⟨cs, r, hshow, hcs, hview, hr, hdisplays⟩ := presentDisplay_shows h
  have hrun : closeFrame s = ((), { s with backend := r.record .endFrame }) := by
    simp only [closeFrame, run_bind, hshow]
    rfl
  have hholding : Holding present (closeFrame s).2 := (runs_closeFrame s h.holding).2
  rw [hrun] at hholding
  have hcommands : (r.record .endFrame).commands = s.backend.commands ++ cs ++ [.endFrame] := by
    rw [Recorder.record, hr]
  refine ⟨cs, r.record .endFrame, hrun, hcs, hview, hcommands, ⟨hholding, hdisplays, ?_⟩, ?_⟩
  · rw [hcommands, sinceEnd_endFrame]
    rfl
  · intro _ d hd
    rw [hcommands, lastFrame_endFrame, sinceEnd_append _ hcs.noEnd, surfaceDraws_append,
      h.quiet, List.nil_append] at hd
    exact hcs.samplers hd

/-! ## The start of a frame -/

/-- The commands of `openFrame`. -/
def opening (s : Session (Recorder fe) κ) (size : Extent) : List Command :=
  (if s.surfaceSize = some size then [] else [.resizeSurface size.atLeastOne]) ++
    [.clear none s.settings.clearColor]

/-- The surface is set to its size, if it had another, and cleared. -/
theorem openFrame_clears (s : Session (Recorder fe) κ) (size : Extent) :
    (openFrame size s).2.backend.commands = s.backend.commands ++ s.opening size := by
  have hclear : ∀ r : Recorder fe, ∀ color, (clear color (bindFramebuffer none r).2).2.commands
      = r.commands ++ [.clear none color] := fun r color => rfl
  simp only [openFrame, run_bind, run_get, run_onBackend, hclear, opening]
  by_cases hsize : s.surfaceSize = some size
  · rw [resize_same hsize, if_pos hsize, List.nil_append]
  · rw [resize_new hsize, if_neg hsize, ← List.append_assoc]
    rfl

/-! ## Starting -/

/-- A session that starts on an empty record is steady. -/
theorem steady_start {limit : UInt32} {compiler : κ} {settings : Settings}
    (hfe : ∀ layout, Program.compile fe (Source.assemble Present.desc []).text = .ok layout →
      layout.samplers.length = 1)
    (h : (start ({ limit } : Recorder fe) compiler settings).1 = .ok s) :
    Steady s.present s ∧ (s.present.get? Present.passName).isSome := by
  obtain ⟨⟨es, hes⟩, howned⟩ :=
    runs_start (balanced_fresh Objects.numbered_empty Objects.account_empty) h
  obtain ⟨cs, hcs, hbehind⟩ := hes.recorded
  have hend : .endFrame ∉ cs := fun hc => hbehind _ hc
  obtain ⟨rfl, outcome, hbuild⟩ := start_ok h
  let s := fresh ({ limit } : Recorder fe) compiler settings
  obtain ⟨pass, hpass, -, hdisplays⟩ : ∃ pass, s.present.get? Present.passName = some pass ∧
      pass.blendMode = .overwrite ∧ Present.Displays pass s.backend :=
    Present.build_displays hfe hbuild
  refine ⟨⟨⟨⟨howned, rfl⟩, fun {pass'} hpass' => ?_, ?_⟩, fun _ d hd => ?_⟩, by rw [hpass]; rfl⟩
  · cases hpass.symm.trans hpass'
    exact hdisplays
  · rw [hcs, sinceEnd_append _ hend, surfaceDraws_append, surfaceDraws_behind hbehind]
    rfl
  · rw [hcs, lastFrame_append _ hend] at hd
    cases hd

/-! ## Frames -/

variable [ScriptCompiler κ]

theorem evaluated_fields (s : Session (Recorder fe) κ) (size : Extent) (time : Single) :
    s.evaluated size time = { s with
      backend := (openFrame size s).2.backend
      compiler := (s.evaluation size time).2
      surfaceSize := (openFrame size s).2.surfaceSize } := by
  rw [evaluated, openFrame_fields]

theorem Poised.evaluated (h : Poised present s) (size : Extent) (time : Single) :
    Poised present (s.evaluated size time) := by
  obtain ⟨hopen, -⟩ := h.behind (runs_openFrame size)
  exact ⟨hopen.holding.congr rfl rfl rfl rfl, hopen.displays, hopen.quiet⟩

theorem keeps_runFrame (size : Extent) (time : Single) :
    Keeps (@Steady fe κ present) (runFrame size time) := by
  intro s h
  cases hstate : s.state with
  | idle =>
    rw [runFrame_idle hstate]
    exact h
  | ready =>
    rw [runFrame_ready hstate]
    have hpoised := h.poised.evaluated size.atLeastOne time
    cases herror : (s.evaluation size.atLeastOne time).1.error with
    | some d =>
      rw [runReady_failed herror]
      obtain ⟨cs, r, hclose, -, -, -, hsteady⟩ := closeFrame_shows hpoised
      rw [hclose]
      exact hsteady
    | none =>
      rw [runReady_rendered herror]
      obtain ⟨hrendered, -⟩ := hpoised.behind
        ((runs_renderFrame size.atLeastOne _).mono fun _ _ _ => And.left)
      obtain ⟨cs, r, hclose, -, -, -, hsteady⟩ := closeFrame_shows hrendered
      rw [hclose]
      exact hsteady

/-! ## Runs -/

theorem keeps_loadScript (script : String) :
    Keeps (@Steady fe κ present) (loadScript script) :=
  keeps_behind ((runs_loadScript script).mono fun _ _ _ => And.left) fun s => by
    rw [loadScript_fields]

omit [ScriptCompiler κ] in
theorem keeps_restoreSize (previous : Option Extent) :
    Keeps (@Steady fe κ present) (restoreSize previous) := by
  cases previous with
  | none => exact .pure ()
  | some size => exact keeps_behind (runs_resize size) fun s => by rw [restoreSize_fields]

theorem lasting_steady : Lasting (@Steady fe κ present) where
  load := keeps_loadScript
  frame := keeps_runFrame
  read := keeps_behind (runs_call .readSurface trivial fun _ => trivial) fun _ => rfl
  restore s _ := keeps_restoreSize s.surfaceSize
  notes _ _ _ _ h :=
    ⟨⟨h.poised.holding.congr rfl rfl rfl rfl, h.poised.displays, h.poised.quiet⟩, h.last⟩

omit [ScriptCompiler κ] in
/-- A release takes away the pass that shows the display image. -/
theorem Steady.release (h : Steady present s) : Steady .empty (release s).2 := by
  obtain ⟨⟨es, hes⟩, howned, -⟩ := runs_release s h.poised.holding.1
  obtain ⟨cs, hcs, hbehind⟩ := hes.recorded
  have hend : .endFrame ∉ cs := fun hc => hbehind _ hc
  refine ⟨⟨⟨howned, rfl⟩, fun {_} hpass => ?_, ?_⟩, fun hpass => ?_⟩
  · cases hpass
  · rw [hcs, sinceEnd_append _ hend, surfaceDraws_append, h.poised.quiet,
      surfaceDraws_behind hbehind, List.append_nil]
  · cases hpass

theorem Steady.perform (h : Steady present s) (act : Act) :
    Steady (if act = .release then .empty else present) (act.perform s).2 := by
  by_cases hact : act = .release
  · subst hact
    exact h.release
  · rw [if_neg hact]
    exact lasting_steady.perform hact s h

theorem steady_play (h : Steady present s) (acts : List Act) :
    Steady (if .release ∈ acts then .empty else present) (s.play acts) := by
  induction acts generalizing present s with
  | nil => exact h
  | cons act acts ih =>
    have hrest := ih (h.perform act)
    by_cases hact : act = .release
    · subst hact
      simpa [play] using hrest
    · have hmem : .release ∈ act :: acts ↔ .release ∈ acts := by
        simp [List.mem_cons, eq_comm, hact]
      simpa only [hact, if_false, hmem, play] using hrest

/-- A frame whose evaluation fails clears the surface and shows the display image. -/
theorem Poised.failed_frame (h : Poised present s) (hready : s.state = .ready) {size : Extent}
    {time : Single} {d : Diagnostic}
    (hd : (s.evaluation size.atLeastOne time).1.error = some d) :
    ∃ shown r, runFrame size time s = ({ outcome := .evaluationFailed d }, { s with
        backend := r
        compiler := (s.evaluation size.atLeastOne time).2
        surfaceSize := (openFrame size.atLeastOne s).2.surfaceSize }) ∧
      s.Shown shown ∧
      r.commands = s.backend.commands ++ s.opening size.atLeastOne ++ shown ++ [.endFrame] := by
  obtain ⟨shown, r, hclose, hshown, -, hr, -⟩ :=
    closeFrame_shows (h.evaluated size.atLeastOne time)
  refine ⟨shown, r, ?_, ?_, ?_⟩
  · rw [runFrame_ready hready, runReady_failed hd, hclose, evaluated_fields]
  · rw [evaluated_fields] at hshown
    exact hshown
  · rw [hr, Session.evaluated, openFrame_clears]

/-- A frame whose evaluation fails is reported, and leaves everything but the surface as
it was: the surface is cleared, and the display image is shown again, if there is one and
nothing was released. It is the image that the frame before showed, if that showed one. -/
theorem failed_evaluation_shows_last_image {limit : UInt32} {compiler : κ} {settings : Settings}
    {s₀ : Session (Recorder fe) κ}
    (hfe : ∀ layout, Program.compile fe (Source.assemble Present.desc []).text = .ok layout →
      layout.samplers.length = 1)
    (h₀ : (start ({ limit } : Recorder fe) compiler settings).1 = .ok s₀) (acts : List Act)
    (hready : (s₀.play acts).state = .ready) (size : Extent) (time : Single) {d : Diagnostic}
    (hd : (ScriptCompiler.frame ((s₀.play acts).frameInputs size.atLeastOne time)
      (s₀.play acts).compiler).1.error = some d) :
    let s := s₀.play acts
    let s' := (runFrame size time s).2
    (runFrame size time s).1 = { outcome := .evaluationFailed d } ∧
    (s'.passes = s.passes ∧ s'.present = s.present ∧ s'.cache = s.cache ∧
      s'.context = s.context ∧ s'.state = s.state ∧ s'.pending = s.pending) ∧
    ((account s'.backend).textures = (account s.backend).textures ∧
      (account s'.backend).programs = (account s.backend).programs ∧
      (account s'.backend).framebuffers = (account s.backend).framebuffers) ∧
    ∃ resized shown,
      s'.backend.commands = s.backend.commands ++ resized
        ++ [.clear none s.settings.clearColor] ++ shown ++ [.endFrame] ∧
      resized = (if s.surfaceSize = some size.atLeastOne then []
        else [.resizeSurface size.atLeastOne]) ∧
      (s.cache.texture? ImageCache.displayId = none ∨ .release ∈ acts → shown = []) ∧
      ∀ display, s.cache.texture? ImageCache.displayId = some display → .release ∉ acts →
        ∃ pass draw, s.present.get? Present.passName = some pass ∧ shown = [.draw draw] ∧
          Present.Composite pass display draw ∧
          ∀ earlier ∈ surfaceDraws (lastFrame s.backend.commands),
            earlier.samplers = draw.samplers := by
  intro s s'
  obtain ⟨hsteady₀, hpass₀⟩ := steady_start hfe h₀
  have hsteady := steady_play hsteady₀ acts
  obtain ⟨shown, r, hrun, hshown, hr⟩ := hsteady.poised.failed_frame hready hd
  have hpresent : s.present = if .release ∈ acts then .empty else s₀.present :=
    hsteady.poised.holding.2
  have hs' : s' = { s with
      backend := r
      compiler := (s.evaluation size.atLeastOne time).2
      surfaceSize := (openFrame size.atLeastOne s).2.surfaceSize } := by
    show (runFrame size time s).2 = _
    rw [hrun]
  have howned' : s'.Owned := (keeps_runFrame size time s hsteady).poised.holding.1
  refine ⟨by rw [hrun], by rw [hs']; exact ⟨rfl, rfl, rfl, rfl, rfl, rfl⟩, ?_, _, shown, ?_, rfl,
    ?_, ?_⟩
  · exact hsteady.poised.holding.1.live_eq howned' (by rw [hs']) (by rw [hs']) (by rw [hs'])
  · rw [hs', hr, opening, Extent.atLeastOne_atLeastOne, ← List.append_assoc]
  · rintro (hnone | hreleased)
    · exact hshown.eq_nil (.inl hnone)
    · rw [if_pos hreleased] at hpresent
      exact hshown.eq_nil (.inr (by rw [hpresent]; rfl))
  · intro display hdisplay hreleased
    rw [if_neg hreleased] at hpresent hsteady
    obtain ⟨pass, hpass⟩ := Option.isSome_iff_exists.1 hpass₀
    have hget : s.present.get? Present.passName = some pass := by rw [hpresent, hpass]
    obtain ⟨draw, hdraw, hcomposite⟩ := hshown.eq_draw hdisplay hget
    refine ⟨pass, draw, hget, hdraw, hcomposite, fun earlier hearlier => ?_⟩
    rw [hsteady.last hpass₀ earlier hearlier, hcomposite.samplers]
    exact congrArg (fun t => [t]) hdisplay

/-- Accepts every program, and finds one sampler in it. -/
def oneSampler : Program.FrontEnd := fun _ =>
  .ok ⟨[⟨some "tex_texture", .handle, some ⟨1, 0⟩, .image⟩], []⟩

/-- A script without passes whose every other evaluation fails. -/
def faltering : Scripted LoadResult FrameResult (List ContextInput) where
  loads := .ofList [("a", ⟨[], [], none⟩)]
  frames := [.empty, .failed ⟨1, 1, "unbound"⟩]

def unplayed : Session (Recorder oneSampler)
    (Scripted LoadResult FrameResult (List ContextInput)) :=
  fresh {} faltering {}

/-- A load and a frame that can be evaluated. -/
def oneFrame : List Act := [.load "a", .frame ⟨4, 4⟩ .zero]

theorem failed_evaluation_shows_last_image_sample :
    ∃ draw, (runFrame ⟨4, 4⟩ .zero (unplayed.play oneFrame)).2.backend.commands
        = (unplayed.play oneFrame).backend.commands ++ []
          ++ [.clear none Settings.default.clearColor] ++ [.draw draw] ++ [.endFrame] ∧
      draw.samplers = [some ⟨3⟩] := by
  have hfe : ∀ layout,
      Program.compile oneSampler (Source.assemble Present.desc []).text = .ok layout →
      layout.samplers.length = 1 := by
    intro layout h
    cases h
    decide +kernel
  have hstart : (start ({ limit := 16384 } : Recorder oneSampler) faltering {}).1
      = .ok unplayed := rfl
  have hready : (unplayed.play oneFrame).state = .ready := by decide +kernel
  have hd : (ScriptCompiler.frame
      ((unplayed.play oneFrame).frameInputs (Extent.atLeastOne ⟨4, 4⟩) .zero)
      (unplayed.play oneFrame).compiler).1.error = some ⟨1, 1, "unbound"⟩ := by decide +kernel
  have hdisplay : (unplayed.play oneFrame).cache.texture? ImageCache.displayId = some ⟨3⟩ := by
    decide +kernel
  have hsize : (unplayed.play oneFrame).surfaceSize = some (Extent.atLeastOne ⟨4, 4⟩) := by
    decide +kernel
  have hrelease : Act.release ∉ oneFrame := by decide
  have hcolor : (unplayed.play oneFrame).settings.clearColor = Settings.default.clearColor := by
    decide +kernel
  have h := failed_evaluation_shows_last_image hfe hstart oneFrame hready ⟨4, 4⟩ .zero hd
  obtain ⟨-, -, -, resized, shown, hcommands, hresized, -, hshown⟩ := h
  obtain ⟨pass, draw, -, hdraw, hcomposite, -⟩ := hshown ⟨3⟩ hdisplay hrelease
  rw [hresized, if_pos hsize, hdraw, hcolor] at hcommands
  exact ⟨draw, hcommands, hcomposite.samplers⟩

end FrameGraph.Session
