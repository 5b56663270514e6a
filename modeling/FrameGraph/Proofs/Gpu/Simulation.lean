import FrameGraph.Proofs.Dict.Ordered
import FrameGraph.Proofs.Gpu.Staging
import FrameGraph.Proofs.Gpu.Reflecting
import FrameGraph.Proofs.Gpu.Surface

/-!
# The recorder stands in for the device

Two backends that are told the same number the same objects, and find the same names at the
same places. What they keep about a program differs: the recorder notes the values that were
set, the device the bytes they amount to. Both go back to one layout, and the answers depend
on nothing else of a program. So what stays in step (`InStep`) is all of the objects and the
bindings, with the layout for every program.

The device is the stricter one of the two: it measures a value against the uniform block,
and a draw against the outputs of the program, live textures and samplers. What it accepts
the recorder accepts as well. How large a texture may be is up to each of them; the two
agree if they are asked for textures that both have, or neither (`Call.SameLimits`).

Results:
* `InStep.inUse`, `InStep.setUniform`, `InStep.draws`: the program in use, a value that is
  set, and a draw.
* `Simulates.perform`: what one call is answered, and that the two stay in step.
* `Simulates.run`: the same for a list of calls.
* `recorder_simulates_device`: every answer, from the start.
-/
namespace FrameGraph.Gpu

/-! ## Objects in step -/

/-- The same objects and bindings, and programs of the same layouts. -/
structure InStep (o : Objects RecordedProgram) (o' : Objects DeviceProgram) : Prop where
  nextId : o.nextId = o'.nextId
  textures : o.textures = o'.textures
  framebuffers : o.framebuffers = o'.framebuffers
  layouts : ∀ p, (o.programs.get? p).map RecordedProgram.layout
    = (o'.programs.get? p).map DeviceProgram.layout
  current : o.current = o'.current
  bound : o.bound = o'.bound
  units : o.units = o'.units
  viewport : o.viewport = o'.viewport
  blend : o.blend = o'.blend
  surface : o.surface = o'.surface

/-- Two changes fail alike, or both succeed and keep in step. -/
def StepAlike : Except Error (Objects RecordedProgram) → Except Error (Objects DeviceProgram) → Prop
  | .ok o, .ok o' => InStep o o'
  | .error e, .error e' => e = e'
  | _, _ => False

/-- A value that is set leaves the layout. -/
theorem Device.assign_layout {s s' : DeviceProgram} {l : Program.Location} {v : UniformValue}
    {slot : Program.Slot} (h : Device.assign s l v slot = .ok s') : s'.layout = s.layout := by
  unfold Device.assign at h
  split at h
  · split at h
    · cases h
    · cases h
      rfl
  · split at h
    · cases h
      rfl
    · cases h

namespace InStep

variable {o : Objects RecordedProgram} {o' : Objects DeviceProgram}

/-- A program is live on both sides, with one layout, or on none. -/
theorem program (h : InStep o o') (p : ProgramId) :
    (o.programs.get? p = none ∧ o'.programs.get? p = none) ∨
    ∃ s s', o.programs.get? p = some s ∧ o'.programs.get? p = some s' ∧ s.layout = s'.layout := by
  have hp := h.layouts p
  cases hs : o.programs.get? p with
  | none =>
    rw [hs] at hp
    exact .inl ⟨rfl, Option.map_eq_none_iff.1 hp.symm⟩
  | some s =>
    rw [hs] at hp
    obtain ⟨s', hs', hlayout⟩ := Option.map_eq_some_iff.1 hp.symm
    exact .inr ⟨s, s', rfl, hs', hlayout.symm⟩

theorem inUse (h : InStep o o') :
    (∃ e, o.inUse = .error e ∧ o'.inUse = .error e) ∨
    ∃ p s s', o.inUse = .ok (p, s) ∧ o'.inUse = .ok (p, s') ∧ o'.programs.get? p = some s' ∧
      s.layout = s'.layout := by
  have hcurrent := h.current
  cases hp : o.current with
  | none =>
    rw [hp] at hcurrent
    exact .inl ⟨.noProgram, by simp only [Objects.inUse, hp],
      by simp only [Objects.inUse, ← hcurrent]⟩
  | some p =>
    rw [hp] at hcurrent
    rcases h.program p with ⟨hs, hs'⟩ | ⟨s, s', hs, hs', hlayout⟩
    · refine .inl ⟨.invalidHandle .program p.number, ?_, ?_⟩
      · simp only [Objects.inUse, hp, Objects.program, hs]
        rfl
      · simp only [Objects.inUse, ← hcurrent, Objects.program, hs']
        rfl
    · exact .inr ⟨p, s, s', Objects.inUse_eq_ok hp hs, Objects.inUse_eq_ok hcurrent.symm hs', hs',
        hlayout⟩

/-! ### Changes -/

theorem addTexture (h : InStep o o') (info : TextureInfo) :
    (o.addTexture info).1 = (o'.addTexture info).1 ∧
      InStep (o.addTexture info).2 (o'.addTexture info).2 := by
  simp only [Objects.addTexture, h.nextId, h.textures]
  exact ⟨trivial, { h with nextId := rfl, textures := rfl }⟩

theorem addFramebuffer (h : InStep o o') :
    o.addFramebuffer.1 = o'.addFramebuffer.1 ∧ InStep o.addFramebuffer.2 o'.addFramebuffer.2 := by
  simp only [Objects.addFramebuffer, h.nextId, h.framebuffers]
  exact ⟨trivial, { h with nextId := rfl, framebuffers := rfl }⟩

theorem addProgram (h : InStep o o') {s : RecordedProgram} {s' : DeviceProgram}
    (hlayout : s.layout = s'.layout) :
    (o.addProgram s).1 = (o'.addProgram s').1 ∧
      InStep (o.addProgram s).2 (o'.addProgram s').2 := by
  simp only [Objects.addProgram, h.nextId]
  refine ⟨trivial, { h with nextId := rfl, layouts := fun p => ?_ }⟩
  simp only [Dict.get?_insert]
  split
  · exact congrArg some hlayout
  · exact h.layouts p

theorem removeTexture (h : InStep o o') (t : TextureId) :
    InStep (o.removeTexture t) (o'.removeTexture t) :=
  { h with textures := congrArg (Dict.erase · t) h.textures }

theorem removeFramebuffer (h : InStep o o') (f : FramebufferId) :
    InStep (o.removeFramebuffer f) (o'.removeFramebuffer f) := by
  refine { h with framebuffers := congrArg (Dict.erase · f) h.framebuffers, bound := ?_ }
  simp only [Objects.removeFramebuffer, h.bound]

theorem removeProgram (h : InStep o o') (p : ProgramId) :
    InStep (o.removeProgram p) (o'.removeProgram p) := by
  refine { h with layouts := fun q => ?_, current := ?_ }
  · simp only [Objects.removeProgram, Dict.get?_erase]
    split
    · rfl
    · exact h.layouts q
  · simp only [Objects.removeProgram, h.current]

theorem bindTexture (h : InStep o o') (unit : UInt32) (t : Option TextureId) :
    InStep (o.bindTexture unit t) (o'.bindTexture unit t) := by
  cases t <;> exact { h with units := by simp only [Objects.bindTexture, h.units] }

/-- What is kept about a program may change, as long as its layout does not. -/
theorem setProgram_left (h : InStep o o') {p : ProgramId} {s : RecordedProgram}
    {s' : DeviceProgram} (hs' : o'.programs.get? p = some s') (hlayout : s.layout = s'.layout) :
    InStep (o.setProgram p s) o' := by
  refine { h with layouts := fun q => ?_ }
  simp only [Objects.setProgram, Dict.get?_insert]
  split
  · next hq =>
    rw [hq, hs']
    exact congrArg some hlayout
  · exact h.layouts q

theorem setProgram (h : InStep o o') (p : ProgramId) {s : RecordedProgram}
    {s' : DeviceProgram} (hlayout : s.layout = s'.layout) :
    InStep (o.setProgram p s) (o'.setProgram p s') := by
  refine { h with layouts := fun q => ?_ }
  simp only [Objects.setProgram, Dict.get?_insert]
  split
  · exact congrArg some hlayout
  · exact h.layouts q

theorem setTargets (h : InStep o o') (f : FramebufferId) (t : Targets) :
    InStep (o.setTargets f t) (o'.setTargets f t) :=
  { h with framebuffers := congrArg (Dict.insert · f t) h.framebuffers }

/-! ### Changes that may fail -/

theorem useProgram (h : InStep o o') (p : ProgramId) :
    StepAlike (o.useProgram p) (o'.useProgram p) := by
  rcases h.program p with ⟨hs, hs'⟩ | ⟨s, s', hs, hs', -⟩
  · rw [Objects.useProgram_of_none hs, Objects.useProgram_of_none hs']
    rfl
  · rw [Objects.useProgram_of_some hs, Objects.useProgram_of_some hs']
    exact { h with current := rfl }

theorem framebuffer (h : InStep o o') (f : FramebufferId) : o.framebuffer f = o'.framebuffer f := by
  simp only [Objects.framebuffer, h.framebuffers]

theorem setDrawBuffers (h : InStep o o') (f : FramebufferId) (slots : List UInt32) :
    StepAlike (o.setDrawBuffers f slots) (o'.setDrawBuffers f slots) := by
  simp only [Objects.setDrawBuffers, h.framebuffer]
  cases o'.framebuffer f with
  | error e => rfl
  | ok t => exact h.setTargets f _

theorem attachColor (h : InStep o o') (f : FramebufferId) (slot : UInt32)
    (t : Option TextureId) : StepAlike (o.attachColor f slot t) (o'.attachColor f slot t) := by
  have hattachable : o.attachable t = o'.attachable t := by
    cases t with
    | none => rfl
    | some t => simp only [Objects.attachable, Objects.texture, h.textures]
  rw [Objects.attachColor_eq, Objects.attachColor_eq, hattachable, h.framebuffer]
  cases o'.attachable t with
  | error e => rfl
  | ok _ =>
    cases o'.framebuffer f with
    | error e => rfl
    | ok targets => exact h.setTargets f _

/-- The recorder sets every value that the device sets. Where the device alone refuses one,
the layouts are still the same. -/
theorem setUniform (h : InStep o o') (l : Program.Location) (v : UniformValue) :
    (∃ e, Recorder.setUniform l v o = .error e ∧ Device.setUniform l v o' = .error e) ∨
    ∃ o₁, Recorder.setUniform l v o = .ok o₁ ∧ InStep o₁ o' ∧
      ∀ o₁', Device.setUniform l v o' = .ok o₁' → InStep o₁ o₁' := by
  rcases h.inUse with ⟨e, he, he'⟩ | ⟨p, s, s', hs, hs', hget, hlayout⟩
  · refine .inl ⟨e, ?_, ?_⟩
    · simp only [Recorder.setUniform, he]
      rfl
    · simp only [Device.setUniform, he']
      rfl
  · simp only [Recorder.setUniform, Device.setUniform, hs, hs', bind, Except.bind]
    rw [hlayout]
    cases settable s'.layout l v with
    | error e => exact .inl ⟨e, rfl, rfl⟩
    | ok slot =>
      refine .inr ⟨_, rfl, h.setProgram_left hget rfl, fun o₁' ho => ?_⟩
      cases hassign : Device.assign s' l v slot with
      | error e =>
        simp only [hassign] at ho
        cases ho
      | ok s₁' =>
        simp only [hassign] at ho
        cases ho
        exact h.setProgram p (Device.assign_layout hassign).symm

/-- What the device writes, the recorder has attached. -/
theorem attachments (h : InStep o o') {layout : Program.Layout} {ts : List (UInt32 × Target)}
    (hts : Device.targets o' layout = .ok ts) : ∃ as, Recorder.attachments o = .ok as := by
  unfold Recorder.attachments
  rw [h.bound]
  unfold Device.targets at hts
  cases hbound : o'.bound with
  | none => exact ⟨_, rfl⟩
  | some f =>
    simp only [hbound, bind, Except.bind] at hts
    simp only [h.framebuffer, bind, Except.bind]
    cases hf : o'.framebuffer f with
    | error e =>
      simp only [hf] at hts
      cases hts
    | ok t =>
      simp only [hf] at hts
      dsimp only
      split
      · next hdrawn =>
        simp only [hdrawn] at hts
        cases hts
      · exact ⟨_, rfl⟩

/-- The recorder makes every draw that the device makes. -/
theorem draws (h : InStep o o') {s : Submission} (hs : Device.submission o' = .ok s) :
    ∃ d, Recorder.currentDraw o = .ok d := by
  unfold Device.submission at hs
  rcases h.inUse with ⟨e, -, he'⟩ | ⟨p, state, state', hstate, hstate', -, -⟩
  · rw [he'] at hs
    cases hs
  · simp only [hstate', bind, Except.bind] at hs
    cases hts : Device.targets o' state'.layout with
    | error e =>
      rw [hts] at hs
      cases hs
    | ok ts =>
      obtain ⟨as, has⟩ := h.attachments hts
      simp only [Recorder.currentDraw, hstate, has, bind, Except.bind]
      exact ⟨_, rfl⟩

end InStep

/-! ## One call -/

/-- Both backends have textures of the size that is asked for, or neither. -/
def Call.SameLimits (m n : UInt32) : {a : Answer} → Call a → Prop
  | _, .createTexture _ size => allocatable m size = allocatable n size
  | _, _ => True

/-- How the answers of the recorder and of the device go together. For a texture that neither
has, each names its own limit. -/
def Call.Agrees : {a : Answer} → Call a → a.Of → a.Of → Prop
  | _, .createTexture _ _, answer, answer' =>
    answer = answer' ∨ ∃ m m', answer = .error (.allocation m) ∧ answer' = .error (.allocation m')
  | _, .setUniform _ _, answer, answer' | _, .drawFullscreen, answer, answer' =>
    answer' = .ok () → answer = .ok ()
  | _, .readSurface, _, _ => True
  | _, _, answer, answer' => answer = answer'

variable {fe : Program.FrontEnd} {m n : UInt32} {r : Recorder fe} {d : Device fe}

theorem Device.attempt_ok {step : Objects DeviceProgram → Except Error (Objects DeviceProgram)}
    {o : Objects DeviceProgram} (h : step d.objects = .ok o) :
    attempt (fun d : Device fe => d.update step) d = (.ok (), { d with objects := o }) :=
  attempt_of_ok (show d.update step = _ from congrArg (Except.map _) h)

theorem Device.attempt_error {step : Objects DeviceProgram → Except Error (Objects DeviceProgram)}
    {e : Error} (h : step d.objects = .error e) :
    attempt (fun d : Device fe => d.update step) d = (.error e, d) :=
  attempt_of_error (show d.update step = _ from congrArg (Except.map _) h)

/-- The two backends stay in step, each with its own limit. -/
structure Simulates (m n : UInt32) (r : Recorder fe) (d : Device fe) : Prop where
  objects : InStep r.objects d.objects
  recorderLimit : r.limit = m
  deviceLimit : d.limit = n

namespace Simulates

/-- A change that may fail, made on both sides. -/
theorem attempt (h : Simulates m n r d)
    {step : Objects RecordedProgram → Except Error (Objects RecordedProgram)}
    {step' : Objects DeviceProgram → Except Error (Objects DeviceProgram)}
    (halike : StepAlike (step r.objects) (step' d.objects)) :
    (attempt (fun r : Recorder fe => r.update step) r).1
        = (attempt (fun d : Device fe => d.update step') d).1 ∧
      Simulates m n (Gpu.attempt (fun r => r.update step) r).2
        (Gpu.attempt (fun d => d.update step') d).2 := by
  cases hstep : step r.objects <;> cases hstep' : step' d.objects <;> rw [hstep, hstep'] at halike
  case error.error e e' =>
    obtain rfl : e = e' := halike
    rw [Recorder.attempt_error hstep, Device.attempt_error hstep']
    exact ⟨rfl, h⟩
  case error.ok => exact halike.elim
  case ok.error => exact halike.elim
  case ok.ok o o' =>
    rw [Recorder.attempt_ok hstep, Device.attempt_ok hstep']
    exact ⟨rfl, { h with objects := halike }⟩

theorem createTexture (h : Simulates m n r d) (format : PixelFormat) (size : Extent)
    (hlimits : allocatable m size = allocatable n size) :
    (Call.createTexture format size).Agrees (r.createTexture format size).1
        (d.createTexture format size).1 ∧
      Simulates m n (Recorder.createTexture format size r).2
        (Device.createTexture format size d).2 := by
  have hboth : allocatable r.limit size = allocatable d.limit size := by
    rw [h.recorderLimit, h.deviceLimit, hlimits]
  unfold Recorder.createTexture Device.createTexture
  rw [hboth]
  split
  · obtain ⟨hid, hobjects⟩ := h.objects.addTexture ⟨format, size⟩
    exact ⟨.inl (congrArg Except.ok hid), { h with objects := hobjects }⟩
  · exact ⟨.inr ⟨_, _, rfl, rfl⟩, h⟩

theorem destroyTexture (h : Simulates m n r d) (t : TextureId) :
    Simulates m n (r.destroyTexture t) (d.rebind fun o => o.removeTexture t) := by
  unfold Recorder.destroyTexture
  split
  · exact { h with objects := h.objects.removeTexture t }
  · next hcontains =>
    -- the recorder does nothing, and there is nothing for the device to remove
    have hnone : d.objects.textures.get? t = none := by
      rw [← h.objects.textures]
      simpa [Dict.contains] using hcontains
    have herase : d.objects.textures.erase t = d.objects.textures := Dict.erase_of_get?_none hnone
    exact { h with objects := { h.objects with textures := h.objects.textures.trans herase.symm } }

theorem compileProgram (h : Simulates m n r d) (source : String) :
    (r.compileProgram source).1 = (d.compileProgram source).1 ∧
      Simulates m n (Recorder.compileProgram source r).2 (Device.compileProgram source d).2 := by
  unfold Recorder.compileProgram Device.compileProgram
  cases Program.compile fe source with
  | error e => exact ⟨rfl, h⟩
  | ok layout =>
    have hlayout : ({ layout } : RecordedProgram).layout = (DeviceProgram.ofLayout layout).layout :=
      rfl
    obtain ⟨hid, hobjects⟩ := h.objects.addProgram hlayout
    exact ⟨congrArg Except.ok hid, { h with objects := hobjects }⟩

theorem uniformLocation (h : Simulates m n r d) (p : ProgramId) (name : String) :
    r.uniformLocation p name = d.uniformLocation p name := by
  unfold Recorder.uniformLocation Device.uniformLocation
  rcases h.objects.program p with ⟨hs, hs'⟩ | ⟨s, s', hs, hs', hlayout⟩
  · rw [hs, hs']
    rfl
  · rw [hs, hs', Option.bind_some, Option.bind_some, hlayout]

theorem setUniform (h : Simulates m n r d) (l : Program.Location) (v : UniformValue) :
    (Call.setUniform l v).Agrees (Backend.perform (.setUniform l v) r).1
        (Backend.perform (.setUniform l v) d).1 ∧
      Simulates m n (Backend.perform (.setUniform l v) r).2
        (Backend.perform (.setUniform l v) d).2 := by
  have hr : Backend.perform (.setUniform l v) r
      = Gpu.attempt (fun r : Recorder fe => r.update (Recorder.setUniform l v)) r := rfl
  have hd : Backend.perform (.setUniform l v) d
      = Gpu.attempt (fun d : Device fe => d.update (Device.setUniform l v)) d := rfl
  rw [hr, hd]
  rcases h.objects.setUniform l v with ⟨e, he, he'⟩ | ⟨o₁, ho, hleft, hboth⟩
  · rw [Recorder.attempt_error he, Device.attempt_error he']
    exact ⟨id, h⟩
  · rw [Recorder.attempt_ok ho]
    refine ⟨fun _ => rfl, ?_⟩
    cases ho' : Device.setUniform l v d.objects with
    | error e' =>
      rw [Device.attempt_error ho']
      exact { h with objects := hleft }
    | ok o₁' =>
      rw [Device.attempt_ok ho']
      exact { h with objects := hboth o₁' ho' }

theorem drawFullscreen (h : Simulates m n r d) :
    Call.drawFullscreen.Agrees (Backend.perform .drawFullscreen r).1
        (Backend.perform .drawFullscreen d).1 ∧
      Simulates m n (Backend.perform .drawFullscreen r).2
        (Backend.perform .drawFullscreen d).2 := by
  have hr : (Backend.perform .drawFullscreen r).2.objects = r.objects ∧
      (Backend.perform .drawFullscreen r).2.limit = r.limit := by
    simp only [Backend.perform, Recorder.perform, Gpu.attempt]
    cases Recorder.currentDraw r.objects <;> exact ⟨rfl, rfl⟩
  have hd : (Backend.perform .drawFullscreen d).2.objects = d.objects ∧
      (Backend.perform .drawFullscreen d).2.limit = d.limit := by
    simp only [Backend.perform, Device.perform, Gpu.attempt]
    cases Device.submission d.objects <;> exact ⟨rfl, rfl⟩
  refine ⟨fun hok => ?_, ?_, hr.2.trans h.recorderLimit, hd.2.trans h.deviceLimit⟩
  · simp only [Backend.perform, Device.perform, Gpu.attempt] at hok
    cases hs : Device.submission d.objects with
    | error e =>
      rw [hs] at hok
      cases hok
    | ok s =>
      obtain ⟨c, hc⟩ := h.objects.draws hs
      simp only [Backend.perform, Recorder.perform, Gpu.attempt, hc, Except.map]
  · rw [hr.1, hd.1]
    exact h.objects

/-- One call: the answers go together, and the two stay in step. -/
theorem perform (h : Simulates m n r d) {a : Answer} (call : Call a)
    (hlimits : call.SameLimits m n) :
    call.Agrees (Backend.perform call r).1 (Backend.perform call d).1 ∧
      Simulates m n (Backend.perform call r).2 (Backend.perform call d).2 := by
  cases call with
  | createTexture format size => exact h.createTexture format size hlimits
  | destroyTexture t => exact ⟨rfl, h.destroyTexture t⟩
  | createFramebuffer =>
    obtain ⟨hid, hobjects⟩ := h.objects.addFramebuffer
    exact ⟨congrArg Except.ok hid, { h with objects := hobjects }⟩
  | destroyFramebuffer f =>
    have hobjects := h.objects.removeFramebuffer f
    refine ⟨rfl, ?_⟩
    simp only [Backend.perform, Recorder.perform, Recorder.destroyFramebuffer]
    split <;> exact { h with objects := hobjects }
  | attachColor f slot t => exact h.attempt (h.objects.attachColor f slot t)
  | setDrawBuffers f slots => exact h.attempt (h.objects.setDrawBuffers f slots)
  | compileProgram source => exact h.compileProgram source
  | deleteProgram p =>
    have hobjects := h.objects.removeProgram p
    refine ⟨rfl, ?_⟩
    simp only [Backend.perform, Recorder.perform, Recorder.deleteProgram]
    split <;> exact { h with objects := hobjects }
  | uniformLocation p name => exact ⟨h.uniformLocation p name, h⟩
  | useProgram p => exact h.attempt (h.objects.useProgram p)
  | setUniform l v => exact h.setUniform l v
  | bindTexture unit t => exact ⟨rfl, { h with objects := h.objects.bindTexture unit t }⟩
  | bindFramebuffer f => exact ⟨rfl, { h with objects := { h.objects with bound := rfl } }⟩
  | setViewport size => exact ⟨rfl, { h with objects := { h.objects with viewport := rfl } }⟩
  | setBlend blend => exact ⟨rfl, { h with objects := { h.objects with blend := rfl } }⟩
  | drawFullscreen => exact h.drawFullscreen
  | clear color =>
    refine ⟨rfl, ?_⟩
    simp only [Backend.perform, Recorder.perform, Recorder.clear]
    split <;> exact { h with }
  | surfaceSize => exact ⟨h.objects.surface, h⟩
  | resizeSurface size => exact ⟨rfl, { h with objects := { h.objects with surface := rfl } }⟩
  | readSurface => exact ⟨trivial, h⟩
  | endFrame => exact ⟨rfl, { h with }⟩

end Simulates

/-! ## A list of calls -/

/-- A backend after some calls, whatever they were answered. -/
def afterCalls {σ : Type} [Backend σ] : List ((a : Answer) × Call a) → σ → σ
  | [], b => b
  | c :: cs, b => afterCalls cs (Backend.perform c.2 b).2

theorem Simulates.run (h : Simulates m n r d) {calls : List ((a : Answer) × Call a)}
    (hlimits : ∀ c ∈ calls, c.2.SameLimits m n) :
    Simulates m n (afterCalls calls r) (afterCalls calls d) := by
  induction calls generalizing r d with
  | nil => exact h
  | cons c cs ih =>
    obtain ⟨hc, hcs⟩ := List.forall_mem_cons.1 hlimits
    exact ih (h.perform c.2 hc).2 hcs

theorem simulates_fresh (m n : UInt32) :
    Simulates m n ({ limit := m } : Recorder fe) ({ limit := n } : Device fe) :=
  ⟨⟨rfl, rfl, rfl, fun _ => rfl, rfl, rfl, rfl, rfl, rfl, rfl⟩, rfl, rfl⟩

/-- Whatever a new recorder and a new device are told, each of their answers goes together with
the other: handles, locations, compile errors, sizes and refusals are the same, and a uniform
that the device sets or a draw that it makes succeeds on the recorder. -/
theorem recorder_simulates_device (fe : Program.FrontEnd) (m n : UInt32)
    (calls : List ((a : Answer) × Call a)) (hlimits : ∀ c ∈ calls, c.2.SameLimits m n)
    (before after : List ((a : Answer) × Call a)) (a : Answer) (call : Call a)
    (hcalls : calls = before ++ ⟨a, call⟩ :: after) :
    call.Agrees
      (Backend.perform call (afterCalls before ({ limit := m } : Recorder fe))).1
      (Backend.perform call (afterCalls before ({ limit := n } : Device fe))).1 := by
  subst hcalls
  rw [List.forall_mem_append, List.forall_mem_cons] at hlimits
  obtain ⟨hbefore, hcall, -⟩ := hlimits
  exact (((simulates_fresh m n).run hbefore).perform call hcall).1

/-- A texture that neither backend has, and a program that is built and used. -/
def preparation : List ((a : Answer) × Call a) :=
  [⟨_, .createTexture .rgba8 ⟨20000, 4⟩⟩, ⟨_, .compileProgram "void main();"⟩,
    ⟨_, .useProgram ⟨1⟩⟩]

theorem recorder_simulates_device_sample :
    let recorder := afterCalls preparation ({ limit := 16384 } : Recorder Program.oneUniform)
    let device := afterCalls preparation ({ limit := 8192 } : Device Program.oneUniform)
    (∀ c ∈ preparation ++ [⟨_, .setUniform ⟨0⟩ (.int 3)⟩], c.2.SameLimits 16384 8192) ∧
      (Backend.perform (.setUniform ⟨0⟩ (.int 3)) device).1 = .ok () ∧
      (Backend.perform (.setUniform ⟨0⟩ (.int 3)) recorder).1 = .ok () := by
  intro recorder device
  have hlimits : ∀ c ∈ preparation ++ [⟨_, .setUniform ⟨0⟩ (.int 3)⟩],
      c.2.SameLimits 16384 8192 := by
    simp [preparation, Call.SameLimits]
    decide
  have hdevice : (Backend.perform (.setUniform ⟨0⟩ (.int 3)) device).1 = .ok () := by
    rfl
  exact ⟨hlimits, hdevice, recorder_simulates_device Program.oneUniform 16384 8192 _ hlimits
    preparation [] _ _ rfl hdevice⟩

end FrameGraph.Gpu
