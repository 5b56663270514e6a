import FrameGraph.Proofs.Frame.Drawing
import FrameGraph.Proofs.Gpu.Recording
import FrameGraph.Proofs.Gpu.Staged
import FrameGraph.Proofs.Gpu.Surface

/-!
# Two recorders, one of which shows images

The pass that shows the display image has a program and a framebuffer of its own. If one
recorder lacks these two and has whatever else another one has, a call that spares them has
the same answer on both, and the same goes on record. What the pass shows goes on record on
one side alone.

Results:
* `Lacking`: objects without those of the pass, and what keeps them so.
* `Aligned.currentDraw`: when a draw is the same on both sides.
* `Alongside.perform`: the calls that spare the pass and read no binding.
* `Alongside.setUniform`, `Alongside.clear`, `Alongside.draw`: those that read bindings, if
  these are the same.
* `Alongside.showing`: what the pass shows.
-/
namespace FrameGraph.Gpu

/-- The commands without the draws to the surface. -/
def unshown (cs : List Command) : List Command :=
  cs.filter fun
    | .draw d => d.framebuffer.isSome
    | _ => true

theorem unshown_append (cs cs' : List Command) : unshown (cs ++ cs') = unshown cs ++ unshown cs' :=
  List.filter_append ..

theorem surfaceDraws_unshown (cs : List Command) : surfaceDraws (unshown cs) = [] := by
  refine List.filterMap_eq_nil_iff.2 fun c hc => ?_
  have hkept := (List.mem_filter.1 hc).2
  cases c with
  | draw d =>
    obtain ⟨f, hf⟩ := Option.isSome_iff_exists.1 hkept
    simp [hf]
  | _ => rfl

/-- The first objects are the second ones without the program and the framebuffer of a pass,
which are older than whatever comes next. Bindings do not count. -/
structure Lacking (shown : Pass) (o o' : Objects RecordedProgram) : Prop where
  nextId : o.nextId = o'.nextId
  older : shown.program.number < o.nextId ∧ shown.framebuffer.number < o.nextId
  textures : ∀ t, o.textures.get? t = o'.textures.get? t
  framebuffers : ∀ f, f ≠ shown.framebuffer → o.framebuffers.get? f = o'.framebuffers.get? f
  programs : ∀ p, p ≠ shown.program → o.programs.get? p = o'.programs.get? p

namespace Lacking

variable {shown : Pass} {o o' : Objects RecordedProgram}

theorem next_program (h : Lacking shown o o') : (⟨o.nextId⟩ : ProgramId) ≠ shown.program :=
  fun he => absurd h.older.1 (by rw [← he]; exact Nat.lt_irrefl _)

theorem next_framebuffer (h : Lacking shown o o') :
    (⟨o.nextId⟩ : FramebufferId) ≠ shown.framebuffer :=
  fun he => absurd h.older.2 (by rw [← he]; exact Nat.lt_irrefl _)

theorem addTexture (h : Lacking shown o o') (info : TextureInfo) :
    (o.addTexture info).1 = (o'.addTexture info).1 ∧
      Lacking shown (o.addTexture info).2 (o'.addTexture info).2 := by
  obtain ⟨hprogram, hframebuffer⟩ := h.older
  refine ⟨congrArg TextureId.mk h.nextId, ⟨congrArg (· + 1) h.nextId, ⟨?_, ?_⟩, fun t => ?_,
    h.framebuffers, h.programs⟩⟩
  · exact Nat.lt_succ_of_lt hprogram
  · exact Nat.lt_succ_of_lt hframebuffer
  · simp only [Objects.addTexture, Dict.get?_insert, h.nextId, h.textures t]

theorem addFramebuffer (h : Lacking shown o o') :
    o.addFramebuffer.1 = o'.addFramebuffer.1 ∧
      Lacking shown o.addFramebuffer.2 o'.addFramebuffer.2 := by
  obtain ⟨hprogram, hframebuffer⟩ := h.older
  refine ⟨congrArg FramebufferId.mk h.nextId, ⟨congrArg (· + 1) h.nextId, ⟨?_, ?_⟩, h.textures,
    fun f hf => ?_, h.programs⟩⟩
  · exact Nat.lt_succ_of_lt hprogram
  · exact Nat.lt_succ_of_lt hframebuffer
  · simp only [Objects.addFramebuffer, Dict.get?_insert, h.nextId, h.framebuffers f hf]

theorem addProgram (h : Lacking shown o o') (state : RecordedProgram) :
    (o.addProgram state).1 = (o'.addProgram state).1 ∧
      Lacking shown (o.addProgram state).2 (o'.addProgram state).2 := by
  obtain ⟨hprogram, hframebuffer⟩ := h.older
  refine ⟨congrArg ProgramId.mk h.nextId, ⟨congrArg (· + 1) h.nextId, ⟨?_, ?_⟩, h.textures,
    h.framebuffers, fun p hp => ?_⟩⟩
  · exact Nat.lt_succ_of_lt hprogram
  · exact Nat.lt_succ_of_lt hframebuffer
  · simp only [Objects.addProgram, Dict.get?_insert, h.nextId, h.programs p hp]

theorem removeTexture (h : Lacking shown o o') (t : TextureId) :
    Lacking shown (o.removeTexture t) (o'.removeTexture t) := by
  refine { h with textures := fun t' => ?_ }
  simp only [Objects.removeTexture, Dict.get?_erase, h.textures t']

theorem removeFramebuffer (h : Lacking shown o o') (f : FramebufferId) :
    Lacking shown (o.removeFramebuffer f) (o'.removeFramebuffer f) := by
  refine { h with framebuffers := fun f' hf' => ?_ }
  simp only [Objects.removeFramebuffer, Dict.get?_erase, h.framebuffers f' hf']

theorem removeProgram (h : Lacking shown o o') (p : ProgramId) :
    Lacking shown (o.removeProgram p) (o'.removeProgram p) := by
  refine { h with programs := fun p' hp' => ?_ }
  simp only [Objects.removeProgram, Dict.get?_erase, h.programs p' hp']

theorem setTargets (h : Lacking shown o o') (f : FramebufferId) (t : Targets) :
    Lacking shown (o.setTargets f t) (o'.setTargets f t) := by
  refine { h with framebuffers := fun f' hf' => ?_ }
  simp only [Objects.setTargets, Dict.get?_insert, h.framebuffers f' hf']

theorem setProgram (h : Lacking shown o o') (p : ProgramId) (state : RecordedProgram) :
    Lacking shown (o.setProgram p state) (o'.setProgram p state) := by
  refine { h with programs := fun p' hp' => ?_ }
  simp only [Objects.setProgram, Dict.get?_insert, h.programs p' hp']

/-- The program of the pass does not count. -/
theorem setProgram_right (h : Lacking shown o o') (state : RecordedProgram) :
    Lacking shown o (o'.setProgram shown.program state) := by
  refine { h with programs := fun p hp => ?_ }
  simp only [Objects.setProgram, Dict.get?_insert, if_neg hp, h.programs p hp]

theorem attachable (h : Lacking shown o o') (t : Option TextureId) :
    o.attachable t = o'.attachable t := by
  cases t with
  | none => rfl
  | some t => simp only [Objects.attachable, Objects.texture, h.textures t]

theorem framebuffer (h : Lacking shown o o') {f : FramebufferId} (hf : f ≠ shown.framebuffer) :
    o.framebuffer f = o'.framebuffer f := by
  simp only [Objects.framebuffer, h.framebuffers f hf]

theorem program (h : Lacking shown o o') {p : ProgramId} (hp : p ≠ shown.program) :
    o.program p = o'.program p := by
  simp only [Objects.program, h.programs p hp]

end Lacking

/-- What a draw into a framebuffer is made of is the same on both sides. -/
structure Aligned (shown : Pass) (o o' : Objects RecordedProgram) : Prop
    extends Lacking shown o o' where
  viewport : o.viewport = o'.viewport
  blend : o.blend = o'.blend
  target : ∃ f, f ≠ shown.framebuffer ∧ o.bound = some f ∧ o'.bound = some f
  program : ∃ p, p ≠ shown.program ∧ o.current = some p ∧ o'.current = some p ∧
    ∀ m, o.programs.get? p = some m → ∀ k < m.layout.samplers.length,
      o.units.get? (m.unit k) = o'.units.get? (m.unit k)

theorem Aligned.currentDraw {shown : Pass} {o o' : Objects RecordedProgram}
    (h : Aligned shown o o') :
    Recorder.currentDraw o = Recorder.currentDraw o' := by
  obtain ⟨f, hf, hbound, hbound'⟩ := h.target
  obtain ⟨p, hp, hcurrent, hcurrent', hunits⟩ := h.program
  have hprogram := h.toLacking.programs p hp
  have hattached : Recorder.attachments o = Recorder.attachments o' := by
    simp only [Recorder.attachments, hbound, hbound', h.toLacking.framebuffer hf]
  simp only [Recorder.currentDraw, Objects.inUse, hcurrent, hcurrent',
    h.toLacking.program hp, hattached, hbound, hbound', h.viewport, h.blend]
  cases hm : o'.programs.get? p with
  | none => simp only [Objects.program, hm, Except.map, bind, Except.bind]
  | some m =>
    have hsamplers : (List.range m.layout.samplers.length).map (fun i => o.units.get? (m.unit i))
        = (List.range m.layout.samplers.length).map fun i => o'.units.get? (m.unit i) :=
      List.map_congr_left fun k hk => hunits m (hprogram.trans hm) k (List.mem_range.1 hk)
    simp only [Objects.program, hm, Except.map, bind, Except.bind, hsamplers]

/-! ## Calls -/

/-- The call names neither the program nor the framebuffer of the pass, and its answer depends
on no binding. -/
def Call.spares (shown : Pass) : {a : Answer} → Call a → Prop
  | _, .destroyFramebuffer f | _, .attachColor f .. | _, .setDrawBuffers f _ =>
    f ≠ shown.framebuffer
  | _, .deleteProgram p | _, .uniformLocation p _ | _, .useProgram p => p ≠ shown.program
  | _, .setUniform .. | _, .clear _ | _, .drawFullscreen | _, .surfaceSize | _, .readSurface =>
    False
  | _, _ => True

variable {fe : Program.FrontEnd} {shown : Pass} {cs cs' : List Command} {r r' : Recorder fe}

/-- One recorder lacks the objects of the pass. From `cs` and `cs'` on, the same went on
record, but for draws to the surface. -/
structure Alongside (shown : Pass) (cs cs' : List Command) (r r' : Recorder fe) : Prop where
  lacking : Lacking shown r.objects r'.objects
  limit : r.limit = r'.limit
  record : ∃ new, r.commands = cs ++ unshown new ∧ r'.commands = cs' ++ new

namespace Alongside

theorem log (h : Alongside shown cs cs' r r') {q q' : Recorder fe}
    (hobjects : Lacking shown q.objects q'.objects) (hlimit : q.limit = r.limit)
    (hlimit' : q'.limit = r'.limit) {new : List Command}
    (hnew : q.commands = r.commands ++ unshown new) (hnew' : q'.commands = r'.commands ++ new) :
    Alongside shown cs cs' q q' := by
  obtain ⟨old, hold, hold'⟩ := h.record
  refine ⟨hobjects, by rw [hlimit, hlimit', h.limit], old ++ new, ?_, ?_⟩
  · rw [hnew, hold, unshown_append, List.append_assoc]
  · rw [hnew', hold', List.append_assoc]

/-- One command goes on record on both sides. -/
theorem log_same (h : Alongside shown cs cs' r r') {q q' : Recorder fe} {c : Command}
    (hobjects : Lacking shown q.objects q'.objects) (hlimit : q.limit = r.limit)
    (hlimit' : q'.limit = r'.limit) (hq : q.commands = r.commands ++ [c])
    (hq' : q'.commands = r'.commands ++ [c]) (hc : unshown [c] = [c]) :
    Alongside shown cs cs' q q' :=
  h.log hobjects hlimit hlimit' (hc.symm ▸ hq) hq'

theorem quiet (h : Alongside shown cs cs' r r') {o o' : Objects RecordedProgram}
    (hobjects : Lacking shown o o') :
    Alongside shown cs cs' ({ r with objects := o } : Recorder fe) { r' with objects := o' } :=
  ⟨hobjects, h.limit, h.record⟩

/-- A step that fails alike on both sides, or leads to objects that are so related again. -/
theorem update (h : Alongside shown cs cs' r r')
    {step : Objects RecordedProgram → Except Error (Objects RecordedProgram)}
    (hstep : (∃ e, step r.objects = .error e ∧ step r'.objects = .error e) ∨
      ∃ o o', step r.objects = .ok o ∧ step r'.objects = .ok o' ∧ Lacking shown o o') :
    (attempt (fun r : Recorder fe => r.update step) r).1
        = (attempt (fun r : Recorder fe => r.update step) r').1 ∧
      Alongside shown cs cs' (attempt (fun r : Recorder fe => r.update step) r).2
        (attempt (fun r : Recorder fe => r.update step) r').2 := by
  rcases hstep with ⟨e, he, he'⟩ | ⟨o, o', ho, ho', hobjects⟩
  · rw [Recorder.attempt_error he, Recorder.attempt_error he']
    exact ⟨rfl, h⟩
  · rw [Recorder.attempt_ok ho, Recorder.attempt_ok ho']
    exact ⟨rfl, h.quiet hobjects⟩

/-- A call that spares the pass has the same answer on both sides, and the same goes on
record. -/
theorem perform (h : Alongside shown cs cs' r r') {a : Answer} (call : Call a)
    (hcall : call.spares shown) :
    (Backend.perform call r).1 = (Backend.perform call r').1 ∧
      Alongside shown cs cs' (Backend.perform call r).2 (Backend.perform call r').2 := by
  have hl := h.lacking
  simp only [Backend.perform]
  cases call with
  | createTexture format size =>
    obtain ⟨hsame, hadded⟩ := hl.addTexture ⟨format, size⟩
    have hlimits : allocatable r.limit size = allocatable r'.limit size := by rw [h.limit]
    cases hfits : allocatable r'.limit size with
    | true =>
      rw [hfits] at hlimits
      simp only [Recorder.perform, Recorder.createTexture, hfits, hlimits, if_true]
      refine ⟨congrArg Except.ok hsame, h.log_same hadded rfl rfl rfl ?_ rfl⟩
      rw [hsame]
      rfl
    | false =>
      rw [hfits] at hlimits
      simp only [Recorder.perform, Recorder.createTexture, hfits, hlimits, Bool.false_eq_true,
        if_false]
      exact ⟨by rw [h.limit], h⟩
  | destroyTexture t =>
    have hlive : r.objects.textures.contains t = r'.objects.textures.contains t :=
      congrArg Option.isSome (hl.textures t)
    simp only [Recorder.perform, Recorder.destroyTexture, hlive]
    split
    · exact ⟨trivial, h.log_same (hl.removeTexture t) rfl rfl rfl rfl rfl⟩
    · exact ⟨trivial, h⟩
  | createFramebuffer =>
    obtain ⟨hsame, hadded⟩ := hl.addFramebuffer
    refine ⟨congrArg Except.ok hsame, h.log_same hadded rfl rfl rfl ?_ rfl⟩
    rw [hl.nextId]
    rfl
  | destroyFramebuffer f =>
    have hlive : r.objects.framebuffers.contains f = r'.objects.framebuffers.contains f :=
      congrArg Option.isSome (hl.framebuffers f hcall)
    simp only [Recorder.perform, Recorder.destroyFramebuffer, hlive]
    split
    · exact ⟨trivial, h.log_same (hl.removeFramebuffer f) rfl rfl rfl rfl rfl⟩
    · exact ⟨trivial, h.quiet (hl.removeFramebuffer f)⟩
  | attachColor f slot t =>
    refine h.update ?_
    rw [Objects.attachColor_eq, Objects.attachColor_eq, hl.attachable, hl.framebuffer hcall]
    cases r'.objects.attachable t with
    | error e => exact .inl ⟨e, rfl, rfl⟩
    | ok _ =>
      cases r'.objects.framebuffer f with
      | error e => exact .inl ⟨e, rfl, rfl⟩
      | ok targets => exact .inr ⟨_, _, rfl, rfl, hl.setTargets f _⟩
  | setDrawBuffers f slots =>
    refine h.update ?_
    simp only [Objects.setDrawBuffers, hl.framebuffer hcall]
    cases r'.objects.framebuffer f with
    | error e => exact .inl ⟨e, rfl, rfl⟩
    | ok targets => exact .inr ⟨_, _, rfl, rfl, hl.setTargets f _⟩
  | compileProgram source =>
    simp only [Recorder.perform, Recorder.compileProgram]
    cases Program.compile fe source with
    | error e => exact ⟨rfl, h⟩
    | ok layout =>
      obtain ⟨hsame, hadded⟩ := hl.addProgram { layout }
      refine ⟨congrArg Except.ok hsame, h.log_same hadded rfl rfl rfl ?_ rfl⟩
      rw [hsame]
      rfl
  | deleteProgram p =>
    have hlive : r.objects.programs.contains p = r'.objects.programs.contains p :=
      congrArg Option.isSome (hl.programs p hcall)
    simp only [Recorder.perform, Recorder.deleteProgram, hlive]
    split
    · exact ⟨trivial, h.log_same (hl.removeProgram p) rfl rfl rfl rfl rfl⟩
    · exact ⟨trivial, h.quiet (hl.removeProgram p)⟩
  | uniformLocation p name =>
    simp only [Recorder.perform, Recorder.uniformLocation, hl.programs p hcall]
    exact ⟨trivial, h⟩
  | useProgram p =>
    refine h.update ?_
    simp only [Objects.useProgram, hl.program hcall]
    cases r'.objects.program p with
    | error e => exact .inl ⟨e, rfl, rfl⟩
    | ok state => exact .inr ⟨_, _, rfl, rfl, { hl with }⟩
  | bindTexture unit t => cases t <;> exact ⟨rfl, h.quiet { hl with }⟩
  | bindFramebuffer | setViewport | setBlend => exact ⟨rfl, h.quiet { hl with }⟩
  | resizeSurface size => exact ⟨rfl, h.log_same { hl with } rfl rfl rfl rfl rfl⟩
  | endFrame => exact ⟨rfl, h.log_same hl rfl rfl rfl rfl rfl⟩
  | setUniform | clear | drawFullscreen | surfaceSize | readSurface => exact hcall.elim

/-! ### Calls that read bindings -/

/-- A uniform is set in the same program, which is not that of the pass. -/
theorem setUniform (h : Alongside shown cs cs' r r') {p : ProgramId} (hp : p ≠ shown.program)
    (hcurrent : r.objects.current = some p) (hcurrent' : r'.objects.current = some p)
    (l : Program.Location) (v : UniformValue) :
    (Gpu.setUniform l v r).1 = (Gpu.setUniform l v r').1 ∧
      Alongside shown cs cs' (Gpu.setUniform l v r).2 (Gpu.setUniform l v r').2 := by
  refine h.update ?_
  simp only [Recorder.setUniform, Objects.inUse, hcurrent, hcurrent', h.lacking.program hp]
  cases r'.objects.program p with
  | error e => exact .inl ⟨e, rfl, rfl⟩
  | ok state =>
    cases hset : settable state.layout l v with
    | error e =>
      refine .inl ⟨e, ?_, ?_⟩ <;>
      · simp only [Except.map, bind, Except.bind, hset]
        rfl
    | ok slot =>
      let state' : RecordedProgram :=
        { state with uniforms := state.uniforms.insert l.index v }
      refine .inr ⟨r.objects.setProgram p state', r'.objects.setProgram p state', ?_, ?_,
        h.lacking.setProgram p state'⟩ <;>
      · simp only [Except.map, bind, Except.bind, hset]
        rfl

/-- The surface is cleared. -/
theorem clear (h : Alongside shown cs cs' r r') (hbound : r.objects.bound = none)
    (hbound' : r'.objects.bound = none) (color : Color) :
    Alongside shown cs cs' (Gpu.clear color r).2 (Gpu.clear color r').2 := by
  have hclear : ∀ q : Recorder fe, q.objects.bound = none → (Gpu.clear color q).2
      = ({ q with surfaceColor := color } : Recorder fe).record (.clear none color) :=
    fun q hq => by
      show q.clear color = _
      simp only [Recorder.clear, hq, Option.isNone_none, if_true]
  rw [hclear r hbound, hclear r' hbound']
  exact h.log_same h.lacking rfl rfl rfl rfl rfl

/-- A draw into a framebuffer. -/
theorem draw (h : Alongside shown cs cs' r r') (haligned : Aligned shown r.objects r'.objects) :
    (drawFullscreen r).1 = (drawFullscreen r').1 ∧
      Alongside shown cs cs' (drawFullscreen r).2 (drawFullscreen r').2 := by
  have hrun : ∀ q : Recorder fe, drawFullscreen q = attempt (fun q : Recorder fe =>
      (Recorder.currentDraw q.objects).map fun d => q.record (.draw d)) q := fun _ => rfl
  obtain ⟨f, -, -, hbound'⟩ := haligned.target
  simp only [hrun, attempt, haligned.currentDraw]
  cases hd : Recorder.currentDraw r'.objects with
  | error e => exact ⟨rfl, h⟩
  | ok d =>
    have hframebuffer : d.framebuffer = some f := (Recorder.currentDraw_ok hd).trans hbound'
    refine ⟨rfl, h.log_same h.lacking rfl rfl rfl rfl ?_⟩
    simp only [unshown, hframebuffer, Option.isSome_some, List.filter_cons_of_pos,
      List.filter_nil]

/-! ### Showing -/

/-- What the pass does to show an image is a matter of one side alone. -/
theorem showing (h : Alongside shown cs cs' r r') {a : Answer} {call : Call a}
    (hcall : Showing shown.program r' call) :
    Alongside shown cs cs' r (Backend.perform call r').2 := by
  have hl := h.lacking
  -- the pass changes bindings, and what is set in its own program
  have hquiet : ∀ {o' : Objects RecordedProgram}, Lacking shown r.objects o' →
      Alongside shown cs cs' r { r' with objects := o' } :=
    fun ho => h.log ho rfl rfl (List.append_nil _).symm (List.append_nil _).symm
  simp only [Backend.perform]
  cases call with
  | useProgram p =>
    cases hstep : r'.objects.useProgram p with
    | error e =>
      simp only [Recorder.perform, Recorder.attempt_error (f := fun o => o.useProgram p) hstep]
      exact h
    | ok o =>
      simp only [Recorder.perform, Recorder.attempt_ok (f := fun o => o.useProgram p) hstep]
      rw [Objects.useProgram_ok hstep]
      exact hquiet { hl with }
  | setUniform l v =>
    cases hstep : Recorder.setUniform l v r'.objects with
    | error e =>
      simp only [Recorder.perform, Recorder.attempt_error hstep]
      exact h
    | ok o =>
      simp only [Recorder.perform, Recorder.attempt_ok hstep]
      obtain ⟨p, old, hin, rfl⟩ := Recorder.setUniform_ok hstep
      have hp : p = shown.program := by
        have hcurrent : r'.objects.current = some shown.program := hcall.1
        rw [(Objects.inUse_ok hin).1] at hcurrent
        exact Option.some.inj hcurrent
      rw [hp]
      exact hquiet (hl.setProgram_right _)
  | bindTexture unit t => cases t <;> exact hquiet { hl with }
  | bindFramebuffer | setViewport | setBlend => exact hquiet { hl with }
  | drawFullscreen =>
    simp only [Recorder.perform, attempt]
    cases hd : Recorder.currentDraw r'.objects with
    | error e => exact h
    | ok d =>
      have hframebuffer : d.framebuffer = none := (Recorder.currentDraw_ok hd).trans hcall.2
      have hhidden : unshown [.draw d] = [] := by
        simp only [unshown, hframebuffer, Option.isSome_none, Bool.false_eq_true,
          not_false_eq_true, List.filter_cons_of_neg, List.filter_nil]
      have hnew : r.commands = r.commands ++ unshown [.draw d] := by rw [hhidden, List.append_nil]
      exact h.log hl rfl rfl hnew rfl
  | surfaceSize => exact h
  | createTexture | destroyTexture | createFramebuffer | destroyFramebuffer | compileProgram
  | deleteProgram | attachColor | setDrawBuffers | uniformLocation | clear | resizeSurface
  | readSurface | endFrame => exact hcall.elim

end Alongside

end FrameGraph.Gpu
