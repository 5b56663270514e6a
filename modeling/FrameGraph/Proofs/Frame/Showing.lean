import FrameGraph.Proofs.Frame.Drawing
import FrameGraph.Proofs.Gpu.Recording
import FrameGraph.Proofs.Pass.Building
import FrameGraph.Proofs.Program.Locations

/-!
# How the display image is shown

The pass that shows the display image needs a live program with one sampler that
reads the first texture unit. On a recording backend it then never fails: showing an
image records one draw of that image over the whole surface, and the pass can show
the next one as well.

Results:
* `Layout.slot?_of_location?`: a location that was found stands for something.
* `composite_shows`: what showing an image records and what it leaves.
* `build_made`, `build_displays`: the pass, as it is built.
-/
namespace FrameGraph

open Gpu

/-- A location that was found by its name stands for a uniform or a sampler. -/
theorem Program.Layout.slot?_of_location? {l : Layout} {name : String} {location : Location}
    (h : l.location? name = some location) : (l.slot? location).isSome := by
  obtain ⟨⟨slot, hslot, -⟩, -⟩ := location?_eq_some_iff.1 h
  exact Option.isSome_iff_exists.2 ⟨slot, hslot⟩

namespace Present

/-- The program has one sampler, which reads the first unit whatever was set. -/
structure Shows (pass : Pass) (state : RecordedProgram) : Prop where
  sampler : state.layout.samplers.length = 1
  located : pass.samplers = [state.layout.location? "tex"]
  zero : ∀ k v, state.uniforms.get? k = some v → v = .int 0

/-- The pass can show an image. -/
def Displays {fe : Program.FrontEnd} (pass : Pass) (r : Recorder fe) : Prop :=
  ∃ state, r.objects.programs.get? pass.program = some state ∧ Shows pass state

/-- The draw of an image over the surface. -/
structure Composite (pass : Pass) (image : TextureId) (d : Draw) : Prop where
  program : d.program = pass.program
  framebuffer : d.framebuffer = none
  attachments : d.attachments = []
  blend : d.blend = pass.blendMode.state
  samplers : d.samplers = [some image]

variable {fe : Program.FrontEnd} {r : Recorder fe} {pass : Pass} {state : RecordedProgram}

theorem Shows.unit (h : Shows pass state) (i : Nat) : state.unit i = 0 := by
  unfold RecordedProgram.unit
  split
  · next n hn => cases h.zero _ _ hn; rfl
  · rfl

/-- With zero at a location. -/
def zeroed (state : RecordedProgram) (location : Program.Location) : RecordedProgram :=
  { state with uniforms := state.uniforms.insert location.index (.int 0) }

/-- Setting the sampler to the first unit once more changes nothing. -/
theorem Shows.zeroed (h : Shows pass state) (location : Program.Location) :
    Shows pass (zeroed state location) := by
  refine ⟨h.sampler, h.located, fun j v hv => ?_⟩
  rw [Present.zeroed, Dict.get?_insert] at hv
  split at hv
  · exact (Option.some.inj hv).symm
  · exact h.zero j v hv

/-- With the program in use and the surface bound, drawing succeeds. -/
theorem draw_shows (hp : r.objects.programs.get? pass.program = some state)
    (hcurrent : r.objects.current = some pass.program) (hbound : r.objects.bound = none)
    (h : Shows pass state) (image : TextureId) :
    ∃ d r', draw pass image r = (.ok (), r') ∧ Composite pass image d ∧
      d.viewport = r.objects.surface ∧ r'.commands = r.commands ++ [.draw d] ∧
      r'.objects.programs.get? pass.program = some state := by
  have hunit : (List.range state.layout.samplers.length).map
      (fun i => (r.objects.units.insert 0 image).get? (state.unit i)) = [some image] := by
    rw [h.sampler]
    simp [h.unit]
  let d : Draw := ⟨pass.program, none, [], r.objects.surface, pass.blendMode.state, [some image],
    state.uniforms⟩
  let o : Objects RecordedProgram := { r.objects with
    units := r.objects.units.insert 0 image, viewport := r.objects.surface,
    blend := pass.blendMode.state }
  have hdraw : Recorder.currentDraw o = .ok d := by
    have hin : o.inUse = .ok (pass.program, state) := by
      simp [o, Objects.inUse, Objects.program, hcurrent, hp, Except.map]
    simp only [Recorder.currentDraw, hin, Recorder.attachments, bind, Except.bind]
    rw [show o.bound = none from hbound]
    simp only [pure, Except.pure, d, o, hunit]
  have hrun : draw pass image r = attempt
      (fun r => (Recorder.currentDraw r.objects).map fun d => r.record (.draw d))
      { r with objects := o } := rfl
  refine ⟨d, { r with objects := o }.record (.draw d), ?_, ⟨rfl, rfl, rfl, rfl, rfl⟩, rfl, rfl,
    hp⟩
  rw [hrun]
  simp only [attempt, hdraw, Except.map]

/-- Whatever was found in a program can be set to an integer. -/
theorem settable_int {layout : Program.Layout} {name : String} {location : Program.Location}
    (h : layout.location? name = some location) (n : Int32) :
    ∃ slot, settable layout location (.int n) = .ok slot := by
  obtain ⟨slot, hslot⟩ := Option.isSome_iff_exists.1 (Program.Layout.slot?_of_location? h)
  cases slot with
  | uniform u => exact ⟨.uniform u, by simp [settable, hslot]⟩
  | sampler i s => exact ⟨.sampler i s, by simp [settable, hslot]⟩

/-- With the program in use, its sampler can be set to the first unit. -/
theorem setUniform_shows (hp : r.objects.programs.get? pass.program = some state)
    (hcurrent : r.objects.current = some pass.program) {location : Program.Location}
    (hl : state.layout.location? "tex" = some location) :
    setUniform location (.int 0) r = (.ok (),
      { r with objects := r.objects.setProgram pass.program (zeroed state location) }) := by
  obtain ⟨slot, hslot⟩ := settable_int hl 0
  have hin : r.objects.inUse = .ok (pass.program, state) := by
    simp [Objects.inUse, Objects.program, hcurrent, hp, Except.map]
  have hset : Recorder.setUniform location (.int 0) r.objects
      = .ok (r.objects.setProgram pass.program (zeroed state location)) := by
    simp only [Recorder.setUniform, hin, bind, Except.bind]
    rw [hslot]
    rfl
  show attempt (fun r => r.update (Recorder.setUniform location (.int 0))) r = _
  simp only [attempt, Recorder.update, hset, Except.map]

/-- Showing an image records its draw over the whole surface, and the pass can show the next
one. -/
theorem composite_shows (h : Displays pass r) (image : TextureId) :
    ∃ d, Composite pass image d ∧ d.viewport = r.objects.surface ∧
      (composite pass image r).2.commands = r.commands ++ [.draw d] ∧
      Displays pass (composite pass image r).2 := by
  obtain ⟨state, hp, hshows⟩ := h
  let r₁ : Recorder fe :=
    { r with objects := { r.objects with bound := none, current := some pass.program } }
  have huse : useProgram pass.program (bindFramebuffer none r).2 = (.ok (), r₁) := by
    have hprogram : Objects.useProgram { r.objects with bound := none } pass.program
        = .ok r₁.objects := by
      simp only [Objects.useProgram, Objects.program, hp]
      rfl
    show attempt (fun r => r.update fun o => o.useProgram pass.program)
      { r with objects := { r.objects with bound := none } } = _
    simp only [attempt, Recorder.update, hprogram, Except.map]
    rfl
  have hhead : pass.samplers.head? = some (state.layout.location? "tex") := by
    rw [hshows.located]
    rfl
  unfold composite
  simp only [run_bind, huse, hhead]
  cases hl : state.layout.location? "tex" with
  | none =>
    obtain ⟨d, r', hdraw, hd, hview, hcs, hp'⟩ := draw_shows (r := r₁) hp rfl rfl hshows image
    show ∃ d, Composite pass image d ∧ d.viewport = r.objects.surface ∧
      (draw pass image r₁).2.commands = r.commands ++ [.draw d] ∧
      Displays pass (draw pass image r₁).2
    rw [hdraw]
    exact ⟨d, hd, hview, hcs, state, hp', hshows⟩
  | some location =>
    let r₂ : Recorder fe :=
      { r₁ with objects := r₁.objects.setProgram pass.program (zeroed state location) }
    have hp₂ : r₂.objects.programs.get? pass.program = some (zeroed state location) := by
      simp [r₂, Objects.setProgram]
    obtain ⟨d, r', hdraw, hd, hview, hcs, hp'⟩ :=
      draw_shows (r := r₂) hp₂ rfl rfl (hshows.zeroed location) image
    simp only [run_bind, setUniform_shows (r := r₁) hp rfl hl]
    show ∃ d, Composite pass image d ∧ d.viewport = r.objects.surface ∧
      (draw pass image r₂).2.commands = r.commands ++ [.draw d] ∧
      Displays pass (draw pass image r₂).2
    rw [hdraw]
    exact ⟨d, hd, hview, hcs, _, hp', hshows.zeroed location⟩

/-- What building the pass makes: a program, and a framebuffer of the next number. -/
structure Made (r : Recorder fe) (layout : Program.Layout) (pass : Pass) (r' : Recorder fe) :
    Prop where
  blend : pass.blendMode = .overwrite
  program : pass.program = ⟨r.objects.nextId⟩
  framebuffer : pass.framebuffer = ⟨r.objects.nextId + 1⟩
  located : pass.samplers = [layout.location? "tex"]
  objects : r'.objects = { r.objects with
    nextId := r.objects.nextId + 2
    programs := r.objects.programs.insert pass.program { layout }
    framebuffers := r.objects.framebuffers.insert pass.framebuffer {} }
  limit : r'.limit = r.limit

theorem build_made {outcome : BuildOutcome}
    (h : (PassTable.empty.build desc [] r).1.1 = .ok outcome) :
    ∃ layout pass, Program.compile fe (Source.assemble desc []).text = .ok layout ∧
      (PassTable.empty.build desc [] r).1.2.get? passName = some pass ∧
      Made r layout pass (PassTable.empty.build desc [] r).2 := by
  let text := (Source.assemble desc []).text
  have hcurrent : PassTable.empty.current? desc.name text = none := rfl
  cases hc : Program.compile fe text with
  | error e =>
    have hcompile : compileProgram text r = (.error e, r) := by
      show Recorder.compileProgram text r = _
      simp only [Recorder.compileProgram, hc]
    simp only [PassTable.build, hcurrent, run_bind, text, hcompile] at h
    cases h
  | ok layout =>
    let p : ProgramId := ⟨r.objects.nextId⟩
    let r₁ : Recorder fe := { r with
      objects := (r.objects.addProgram { layout }).2, compiled := r.compiled + 1 }.record
        (.compileProgram p)
    have hcompile : compileProgram text r = (.ok p, r₁) := by
      show Recorder.compileProgram text r = _
      simp only [Recorder.compileProgram, hc]
      rfl
    let pass : Pass := .make desc text p r₁.createFramebuffer.1 [] [r₁.uniformLocation p "tex"]
    have hbuild : PassTable.empty.build desc [] r
        = ((.ok .created, PassTable.empty.put pass), r₁.createFramebuffer.2) := by
      simp only [PassTable.build, hcurrent, run_bind, text, hcompile]
      rfl
    have hp : r₁.objects.programs.get? p = some { layout } := by
      simp [r₁, Recorder.record, Objects.addProgram, p]
    have hget : (PassTable.empty.put pass).get? passName = some pass :=
      (PassTable.get?_put _ pass passName).trans (if_pos rfl)
    rw [hbuild]
    refine ⟨layout, pass, rfl, hget, rfl, rfl, rfl, ?_, rfl, rfl⟩
    simp [pass, Pass.make, Recorder.uniformLocation, hp]

/-- The pass can show images once it is built, if its program has one sampler. What it draws
is opaque. -/
theorem build_displays
    (hfe : ∀ layout, Program.compile fe (Source.assemble desc []).text = .ok layout →
      layout.samplers.length = 1) {outcome : BuildOutcome}
    (h : (PassTable.empty.build desc [] r).1.1 = .ok outcome) :
    ∃ pass, (PassTable.empty.build desc [] r).1.2.get? passName = some pass ∧
      pass.blendMode = .overwrite ∧ Displays pass (PassTable.empty.build desc [] r).2 := by
  obtain ⟨layout, pass, hlayout, hget, hmade⟩ := build_made h
  have hp : (PassTable.empty.build desc [] r).2.objects.programs.get? pass.program
      = some { layout } := by
    simp [hmade.objects]
  refine ⟨pass, hget, hmade.blend, { layout }, hp, hfe layout hlayout, hmade.located, ?_⟩
  exact fun k v hv => by cases hv

end Present
end FrameGraph
