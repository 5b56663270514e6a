import FrameGraph.Proofs.Gpu.Balance

/-!
# What goes on record

The commands of a recording backend tell what was shown, and when. `sinceEnd` are the
commands of the frame that is not yet ended, and `lastFrame` those of the last one that
was. Between two showings (`Behind`) nothing is drawn to the surface.

Results:
* `perform_records`, `perform_changed`: what a call adds to the record, and what it makes of
  the objects.
* `Trail.recorded`: what is then recorded are commands of that kind.
* `Trail.program_kept`: the programs that show the display image stay as they are.
* `lastFrame_append`, `sinceEnd_append`: how a record goes on.
-/
namespace FrameGraph.Gpu

namespace Command

/-- Neither a draw to the surface nor the end of a frame. -/
def Behind : Command → Prop
  | endFrame => False
  | draw d => d.framebuffer ≠ none
  | _ => True

end Command

/-- The draws to the surface. -/
def surfaceDraws (cs : List Command) : List Draw :=
  cs.filterMap fun
    | .draw d => if d.framebuffer = none then some d else none
    | _ => none

@[simp] theorem surfaceDraws_append (cs cs' : List Command) :
    surfaceDraws (cs ++ cs') = surfaceDraws cs ++ surfaceDraws cs' :=
  List.filterMap_append

theorem surfaceDraws_behind {cs : List Command} (h : ∀ c ∈ cs, c.Behind) :
    surfaceDraws cs = [] := by
  refine List.filterMap_eq_nil_iff.2 fun c hc => ?_
  cases c with
  | draw d => exact if_neg (h _ hc)
  | _ => rfl

/-- The commands since the last frame ended. -/
def sinceEnd (cs : List Command) : List Command := cs.rtakeWhile (· ≠ .endFrame)

/-- The commands of the last frame that ended, from the end of the one before. -/
def lastFrame (cs : List Command) : List Command :=
  sinceEnd (cs.rdropWhile (· ≠ .endFrame)).dropLast

theorem sinceEnd_append (cs : List Command) {cs' : List Command} (h : .endFrame ∉ cs') :
    sinceEnd (cs ++ cs') = sinceEnd cs ++ cs' := by
  induction cs' using List.reverseRecOn with
  | nil => simp
  | append_singleton cs' c ih =>
    have hc : c ≠ .endFrame := fun hc => h (by simp [hc])
    have hcs' : .endFrame ∉ cs' := fun hm => h (by simp [hm])
    rw [← List.append_assoc, sinceEnd, List.rtakeWhile_concat_pos _ _ _ (by simpa using hc),
      ← List.append_assoc]
    exact congrArg (· ++ [c]) (ih hcs')

theorem lastFrame_append (cs : List Command) {cs' : List Command} (h : .endFrame ∉ cs') :
    lastFrame (cs ++ cs') = lastFrame cs := by
  have hdrop : ∀ cs' : List Command, .endFrame ∉ cs' →
      (cs ++ cs').rdropWhile (· ≠ .endFrame) = cs.rdropWhile (· ≠ .endFrame) := by
    intro cs' h
    induction cs' using List.reverseRecOn with
    | nil => simp
    | append_singleton cs' c ih =>
      have hc : c ≠ .endFrame := fun hc => h (by simp [hc])
      rw [← List.append_assoc, List.rdropWhile_concat_pos _ _ _ (by simpa using hc)]
      exact ih fun hm => h (by simp [hm])
  rw [lastFrame, hdrop cs' h, lastFrame]

/-- The frame that ends is the last one that ended. -/
theorem lastFrame_endFrame (cs : List Command) : lastFrame (cs ++ [.endFrame]) = sinceEnd cs := by
  rw [lastFrame, List.rdropWhile_concat_neg _ _ _ (by simp), List.dropLast_concat]

@[simp] theorem sinceEnd_endFrame (cs : List Command) : sinceEnd (cs ++ [.endFrame]) = [] :=
  List.rtakeWhile_concat_neg _ _ _ (by simp)

/-! ## One call -/

/-- The command is one that the call may put on record. -/
def Call.Records : {a : Answer} → Call a → Command → Prop
  | _, .createTexture format size, c => ∃ t, c = .createTexture t format size
  | _, .destroyTexture t, c => c = .destroyTexture t
  | _, .createFramebuffer, c => ∃ f, c = .createFramebuffer f
  | _, .destroyFramebuffer f, c => c = .destroyFramebuffer f
  | _, .compileProgram _, c => ∃ p, c = .compileProgram p
  | _, .deleteProgram p, c => c = .deleteProgram p
  | _, .drawFullscreen, c => ∃ d, c = .draw d
  | _, .clear color, c => ∃ f, c = .clear f color
  | _, .resizeSurface size, c => c = .resizeSurface size.atLeastOne
  | _, .endFrame, c => c = .endFrame
  | _, _, _ => False

/-- What a call makes of the objects. It leaves them alone if it is refused. -/
inductive Objects.Changed (o : Objects RecordedProgram) :
    {a : Answer} → Call a → Objects RecordedProgram → Prop
  | same {a : Answer} (call : Call a) : Changed o call o
  | createTexture (format : PixelFormat) (size : Extent) :
    Changed o (.createTexture format size) (o.addTexture ⟨format, size⟩).2
  | destroyTexture (t : TextureId) : Changed o (.destroyTexture t) (o.removeTexture t)
  | createFramebuffer : Changed o .createFramebuffer o.addFramebuffer.2
  | destroyFramebuffer (f : FramebufferId) :
    Changed o (.destroyFramebuffer f) (o.removeFramebuffer f)
  | attachColor (f : FramebufferId) (slot : UInt32) (t : Option TextureId) (f' : FramebufferId)
    (targets : Targets) : Changed o (.attachColor f slot t) (o.setTargets f' targets)
  | setDrawBuffers (f : FramebufferId) (slots : List UInt32) (f' : FramebufferId)
    (targets : Targets) : Changed o (.setDrawBuffers f slots) (o.setTargets f' targets)
  | compileProgram (source : String) (layout : Program.Layout) :
    Changed o (.compileProgram source) (o.addProgram { layout }).2
  | deleteProgram (p : ProgramId) : Changed o (.deleteProgram p) (o.removeProgram p)
  | useProgram (p : ProgramId) : Changed o (.useProgram p) { o with current := some p }
  | setUniform (l : Program.Location) (v : UniformValue) (p : ProgramId) (old : RecordedProgram)
    (current : o.current = some p) (live : o.programs.get? p = some old)
    (uniforms : Dict Nat UniformValue) :
    Changed o (.setUniform l v) (o.setProgram p { old with uniforms })
  | bindTexture (unit : UInt32) (t : Option TextureId) :
    Changed o (.bindTexture unit t) (o.bindTexture unit t)
  | bindFramebuffer (f : Option FramebufferId) :
    Changed o (.bindFramebuffer f) { o with bound := f }
  | setViewport (size : Extent) : Changed o (.setViewport size) { o with viewport := size }
  | setBlend (blend : BlendState) : Changed o (.setBlend blend) { o with blend }
  | resizeSurface (size : Extent) :
    Changed o (.resizeSurface size) { o with surface := size.atLeastOne }

namespace Recorder

variable {fe : Program.FrontEnd} {r r' : Recorder fe} {shown : Multiset ProgramId}

/-- A draw that can be made is made of the bindings and of the program in use. -/
theorem currentDraw_eq {o : Objects RecordedProgram} {d : Draw} (h : currentDraw o = .ok d) :
    ∃ m, o.current = some d.program ∧ o.programs.get? d.program = some m ∧
      attachments o = .ok d.attachments ∧
      d = { d with
        framebuffer := o.bound
        viewport := o.viewport
        blend := o.blend
        samplers := (List.range m.layout.samplers.length).map fun k => o.units.get? (m.unit k)
        uniforms := m.uniforms } := by
  unfold currentDraw at h
  cases hu : o.inUse with
  | error e => rw [hu] at h; cases h
  | ok used =>
    rw [hu] at h
    cases ha : attachments o with
    | error e => simp only [bind, Except.bind, ha] at h; cases h
    | ok as =>
      simp only [bind, Except.bind, ha] at h
      cases h
      obtain ⟨hcurrent, hm⟩ := Objects.inUse_ok hu
      exact ⟨used.2, hcurrent, hm, rfl, rfl⟩

theorem currentDraw_ok {o : Objects RecordedProgram} {d : Draw} (h : currentDraw o = .ok d) :
    d.framebuffer = o.bound := by
  obtain ⟨m, -, -, -, hd⟩ := currentDraw_eq h
  rw [hd]

/-- The record after the one goes on with commands of this kind. -/
def GoesOn (r r' : Recorder fe) : Prop :=
  ∃ cs, r'.commands = r.commands ++ cs ∧ ∀ c ∈ cs, c.Behind

theorem GoesOn.same (h : r'.commands = r.commands) : r.GoesOn r' := ⟨[], by simp [h], by simp⟩

theorem GoesOn.one {c : Command} (h : r'.commands = r.commands ++ [c]) (hc : c.Behind) :
    r.GoesOn r' :=
  ⟨[c], h, by simpa using hc⟩

theorem GoesOn.trans {r'' : Recorder fe} (h : r.GoesOn r') (h' : r'.GoesOn r'') : r.GoesOn r'' := by
  obtain ⟨cs, hr, hcs⟩ := h
  obtain ⟨cs', hr', hcs'⟩ := h'
  refine ⟨cs ++ cs', by rw [hr', hr, List.append_assoc], fun c hc => ?_⟩
  exact (List.mem_append.1 hc).elim (hcs c) (hcs' c)

section
variable {f : Objects RecordedProgram → Except Error (Objects RecordedProgram)}

theorem attempt_ok {o : Objects RecordedProgram} (h : f r.objects = .ok o) :
    attempt (fun r : Recorder fe => r.update f) r = (.ok (), { r with objects := o }) := by
  simp only [attempt, update, h, Except.map]

theorem attempt_error {e : Error} (h : f r.objects = .error e) :
    attempt (fun r : Recorder fe => r.update f) r = (.error e, r) := by
  simp only [attempt, update, h, Except.map]

theorem update_commands :
    (attempt (fun r : Recorder fe => r.update f) r).2.commands = r.commands := by
  cases h : f r.objects with
  | error e => rw [attempt_error h]
  | ok o => rw [attempt_ok h]

end

theorem perform_records (r : Recorder fe) {a : Answer} (call : Call a) :
    (perform call r).2.commands = r.commands ∨
      ∃ c, (perform call r).2.commands = r.commands ++ [c] ∧ call.Records c := by
  cases call with
  | createTexture format size =>
    simp only [perform, createTexture]
    split
    · exact .inr ⟨_, rfl, _, rfl⟩
    · exact .inl rfl
  | destroyTexture t =>
    simp only [perform, destroyTexture]
    split
    · exact .inr ⟨_, rfl, rfl⟩
    · exact .inl rfl
  | createFramebuffer => exact .inr ⟨_, rfl, _, rfl⟩
  | destroyFramebuffer f =>
    simp only [perform, destroyFramebuffer]
    split
    · exact .inr ⟨_, rfl, rfl⟩
    · exact .inl rfl
  | compileProgram source =>
    simp only [perform, compileProgram]
    split
    · exact .inl rfl
    · exact .inr ⟨_, rfl, _, rfl⟩
  | deleteProgram p =>
    simp only [perform, deleteProgram]
    split
    · exact .inr ⟨_, rfl, rfl⟩
    · exact .inl rfl
  | attachColor | setDrawBuffers | useProgram | setUniform => exact .inl update_commands
  | drawFullscreen =>
    simp only [perform, attempt]
    cases currentDraw r.objects with
    | error e => exact .inl rfl
    | ok d => exact .inr ⟨_, rfl, d, rfl⟩
  | clear color =>
    simp only [perform, clear]
    split <;> exact .inr ⟨_, rfl, _, rfl⟩
  | resizeSurface size => exact .inr ⟨_, rfl, rfl⟩
  | endFrame => exact .inr ⟨_, rfl, rfl⟩
  | uniformLocation | bindTexture | bindFramebuffer | setViewport | setBlend | surfaceSize
  | readSurface => exact .inl rfl

theorem perform_goesOn {a : Answer} {call : Call a} (h : Behind shown r call) :
    r.GoesOn (perform call r).2 := by
  cases call with
  | drawFullscreen =>
    simp only [perform, attempt]
    cases hd : currentDraw r.objects with
    | error e => exact .same rfl
    | ok d => exact .one rfl fun hnone => h ((currentDraw_ok hd).symm.trans hnone)
  | endFrame => exact h.elim
  | _ =>
    rcases perform_records r _ with hcommands | ⟨c, hcommands, hc⟩
    · exact .same hcommands
    · refine .one hcommands ?_
      first
        | exact hc.elim
        | (rw [show c = _ from hc]; trivial)
        | (obtain ⟨x, rfl⟩ := hc; trivial)

/-- What an accepted step leads to, or nothing if it is refused. -/
theorem changed_update {call : Call .done}
    {step : Objects RecordedProgram → Except Error (Objects RecordedProgram)}
    (hstep : ∀ o, step r.objects = .ok o → r.objects.Changed call o) :
    r.objects.Changed call (attempt (fun r => r.update step) r).2.objects := by
  unfold attempt
  split
  · next r' hr => exact hstep _ (update_ok hr)
  · exact .same call

theorem perform_changed (r : Recorder fe) {a : Answer} (call : Call a) :
    r.objects.Changed call (perform call r).2.objects := by
  cases call with
  | createTexture format size =>
    simp only [perform, createTexture]
    split
    · exact .createTexture format size
    · exact .same _
  | destroyTexture t =>
    simp only [perform, destroyTexture]
    split
    · exact .destroyTexture t
    · exact .same _
  | createFramebuffer => exact .createFramebuffer
  | destroyFramebuffer f =>
    simp only [perform, destroyFramebuffer]
    split <;> exact .destroyFramebuffer f
  | attachColor f slot t =>
    refine changed_update fun o ho => ?_
    obtain ⟨f', -, targets, rfl⟩ := Objects.attachColor_ok ho
    exact .attachColor f slot t f' targets
  | setDrawBuffers f slots =>
    refine changed_update fun o ho => ?_
    obtain ⟨f', -, targets, rfl⟩ := Objects.setDrawBuffers_ok ho
    exact .setDrawBuffers f slots f' targets
  | compileProgram source =>
    simp only [perform, compileProgram]
    split
    · exact .same _
    · exact .compileProgram source _
  | deleteProgram p =>
    simp only [perform, deleteProgram]
    split <;> exact .deleteProgram p
  | useProgram p =>
    refine changed_update fun o ho => ?_
    rw [Objects.useProgram_ok ho]
    exact .useProgram p
  | setUniform l v =>
    refine changed_update fun o ho => ?_
    obtain ⟨p, old, hin, rfl⟩ := setUniform_ok ho
    obtain ⟨hcurrent, hold⟩ := Objects.inUse_ok hin
    exact .setUniform l v p old hcurrent hold _
  | drawFullscreen =>
    simp only [perform, attempt]
    cases currentDraw r.objects <;> exact .same _
  | bindTexture unit t => exact .bindTexture unit t
  | bindFramebuffer f => exact .bindFramebuffer f
  | setViewport size => exact .setViewport size
  | setBlend blend => exact .setBlend blend
  | clear color =>
    simp only [perform, clear]
    split <;> exact .same _
  | resizeSurface size => exact .resizeSurface size
  | uniformLocation | surfaceSize | readSurface | endFrame => exact .same _

/-- Numbers are not given twice. -/
theorem perform_nextId (r : Recorder fe) {a : Answer} (call : Call a) :
    r.objects.nextId ≤ (perform call r).2.objects.nextId := by
  have hchanged := r.perform_changed call
  generalize (perform call r).2.objects = o at hchanged ⊢
  cases hchanged with
  | createTexture | createFramebuffer | compileProgram => exact Nat.le_succ _
  | bindTexture unit t => cases t <;> exact Nat.le_refl _
  | _ => exact Nat.le_refl _

/-- A program that shows the display image stays as it is. -/
theorem perform_program (hn : r.objects.Numbered) {p : ProgramId} (hp : p ∈ shown)
    {state : RecordedProgram} (hstate : r.objects.programs.get? p = some state) {a : Answer}
    {call : Call a} (h : Behind shown r call) :
    (perform call r).2.objects.programs.get? p = some state := by
  have hchanged := r.perform_changed call
  generalize (perform call r).2.objects = o at hchanged ⊢
  cases hchanged with
  | compileProgram source layout =>
    -- the new program has a number above that of `p`
    have hlt : p.number < r.objects.nextId := hn.programs p (Objects.contains_of_get? hstate)
    have hne : p ≠ ⟨r.objects.nextId⟩ := fun he => by
      rw [he] at hlt
      exact Nat.lt_irrefl _ hlt
    simpa [Objects.addProgram, hne] using hstate
  | deleteProgram q =>
    have hne : p ≠ q := fun he => h.2 (he ▸ hp)
    simpa [Objects.removeProgram, hne] using hstate
  | setUniform l v q old hcurrent =>
    have hne : p ≠ q := fun he => h p hp (he ▸ hcurrent)
    simpa [Objects.setProgram, hne] using hstate
  | bindTexture unit t => cases t <;> exact hstate
  | _ => exact hstate

end Recorder

/-! ## Between two showings -/

section
variable {fe : Program.FrontEnd} {r r' : Recorder fe} {shown : Multiset ProgramId}
  {es : List Event}

theorem Trail.nextId_le {C : Discipline (Recorder fe)} (h : Trail C r es r') :
    r.objects.nextId ≤ r'.objects.nextId :=
  h.keeps (I := fun r' => r.objects.nextId ≤ r'.objects.nextId)
    (fun b _ call _ hr => Nat.le_trans hr (b.perform_nextId call)) (Nat.le_refl _)

theorem Trail.recorded (h : Trail (Behind shown) r es r') : r.GoesOn r' :=
  h.keeps (I := fun r' => r.GoesOn r')
    (fun _ _ _ hcall hr => hr.trans (Recorder.perform_goesOn hcall)) (.same rfl)

theorem Trail.program_kept (h : Trail (Behind shown) r es r') (hn : r.objects.Numbered)
    {p : ProgramId} (hp : p ∈ shown) {state : RecordedProgram}
    (hstate : r.objects.programs.get? p = some state) :
    r'.objects.programs.get? p = some state :=
  (h.keeps (I := fun r => r.objects.Numbered ∧ r.objects.programs.get? p = some state)
    (fun _ _ call hcall hr => ⟨(Recorder.perform_follows hr.1 call).1,
      Recorder.perform_program hr.1 hp hr.2 hcall⟩) ⟨hn, hstate⟩).2

end

end FrameGraph.Gpu
