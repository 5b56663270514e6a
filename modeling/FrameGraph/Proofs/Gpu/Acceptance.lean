import FrameGraph.Proofs.Gpu.Uniforms

/-!
# Which draws the device takes

Whether a draw is accepted can be told from the calls so far and their answers alone. They are
kept in a history, the latest call first, and what it says about the next draw is read off it:
the program in use and the bound framebuffer (`Account`), what was last attached to a
framebuffer and bound to a texture unit, and which number a sampler was last given. A
sampler reads the texture unit of that number, or the first unit if the number is negative or
there is none.

A draw needs a live program and something to write. Every texture that it writes has to be
live, and none of them may be in a texture unit that a sampler of the program reads
(`SoundDraw`). The device keeps a unit for every sampler of every program, also while another
program is in use, so the proof follows all of them through all calls (`Told`).

Results:
* `Device.perform_step`: the ways that a call can go.
* `Told.perform`, `Told.run`: the device has what the history says.
* `draw_accepted_iff`: which draws are accepted. What they sample they do not write, and a
  draw that is rejected leaves no trace.
-/
namespace FrameGraph.Gpu

open Program (Layout Location)

/-! ## What a history says -/

namespace History

/-- What is live, in use and bound. -/
def accountOf : List Event → Account
  | [] => {}
  | e :: es => (accountOf es).after e.call e.answer

/-- The texture last bound to a unit. -/
def textureAt (unit : UInt32) : List Event → Option TextureId
  | [] => none
  | ⟨.bindTexture u t, _⟩ :: es => if u = unit then t else textureAt unit es
  | _ :: es => textureAt unit es

/-- The texture last attached at a slot of a framebuffer, since that was created. -/
def attachedAt (f : FramebufferId) (slot : UInt32) : List Event → Option TextureId
  | [] => none
  | ⟨.createFramebuffer, .ok g⟩ :: es => if g = f then none else attachedAt f slot es
  | ⟨.attachColor g s t, .ok ()⟩ :: es => if g = f ∧ s = slot then t else attachedAt f slot es
  | _ :: es => attachedAt f slot es

/-- The draw buffers last given to a framebuffer, since that was created. -/
def drawBuffers (f : FramebufferId) : List Event → List UInt32
  | [] => []
  | ⟨.createFramebuffer, .ok g⟩ :: es => if g = f then [] else drawBuffers f es
  | ⟨.setDrawBuffers g slots, .ok ()⟩ :: es => if g = f then slots else drawBuffers f es
  | _ :: es => drawBuffers f es

/-- The interface of a program, as the front end reads it off the text. -/
def layout? (fe : Program.FrontEnd) (p : ProgramId) : List Event → Option Layout
  | [] => none
  | ⟨.compileProgram source, .ok q⟩ :: es =>
    if q = p then (Program.compile fe source).toOption else layout? fe p es
  | _ :: es => layout? fe p es

/-- The number last set at a location of a program, since that was compiled; 0 without one.
Numbers are set for the program in use. -/
def numberAt (p : ProgramId) (l : Location) : List Event → Int32
  | [] => 0
  | ⟨.compileProgram _, .ok q⟩ :: es => if q = p then 0 else numberAt p l es
  | ⟨.setUniform l' (.int n), .ok ()⟩ :: es =>
    if l' = l ∧ (accountOf es).inUse = some p then n else numberAt p l es
  | _ :: es => numberAt p l es

/-- The texture unit of a sampler: the number set at its location, or 0 for a negative one. -/
def unitAt (p : ProgramId) (l : Location) (es : List Event) : UInt32 :=
  UInt32.ofNat (max 0 (numberAt p l es).toInt).toNat

/-- What a draw would write: the draw buffers of the bound framebuffer that the program has an
output for and something is attached at, or the surface if it has output 0. -/
def targetsOf (layout : Layout) (es : List Event) : List (UInt32 × Target) :=
  match (accountOf es).bound with
  | some f =>
    ((drawBuffers f es).filter layout.outputs.contains).filterMap fun slot =>
      (attachedAt f slot es).map fun t => (slot, .texture t)
  | none => if 0 ∈ layout.outputs then [(0, .surface)] else []

end History

open History

/-- A draw with a live program and targets, all of them live and none of them sampled. -/
structure SoundDraw (fe : Program.FrontEnd) (es : List Event) (p : ProgramId) (layout : Layout) :
    Prop where
  inUse : (accountOf es).inUse = some p
  live : p ∈ (accountOf es).programs
  reflected : layout? fe p es = some layout
  defined : ∀ f, (accountOf es).bound = some f → f ∈ (accountOf es).framebuffers
  nonempty : targetsOf layout es ≠ []
  liveTargets : ∀ slot t, (slot, .texture t) ∈ targetsOf layout es → t ∈ (accountOf es).textures
  apart : ∀ slot t, (slot, .texture t) ∈ targetsOf layout es →
    ∀ l i s, layout.slot? l = some (.sampler i s) → textureAt (unitAt p l es) es ≠ some t

/-! ## The ways of a call -/

/-- A call that neither changes anything nor fails. -/
def Call.inert : {a : Answer} → Call a → Prop
  | _, .uniformLocation .. | _, .clear _ | _, .surfaceSize | _, .readSurface | _, .endFrame => True
  | _, _ => False

namespace Device

variable {fe : Program.FrontEnd} {d : Device fe}

/-- A call with its answer, and what it makes of the objects. -/
inductive Step (fe : Program.FrontEnd) (o : Objects DeviceProgram) :
    {a : Answer} → Call a → a.Of → Objects DeviceProgram → Prop
  | createTexture (format : PixelFormat) (size : Extent) :
    Step fe o (.createTexture format size) (.ok (o.addTexture ⟨format, size⟩).1)
      (o.addTexture ⟨format, size⟩).2
  | noTexture (format : PixelFormat) (size : Extent) (e : Error) :
    Step fe o (.createTexture format size) (.error e) o
  | destroyTexture (t : TextureId) : Step fe o (.destroyTexture t) () (o.removeTexture t)
  | createFramebuffer :
    Step fe o .createFramebuffer (.ok o.addFramebuffer.1) o.addFramebuffer.2
  | destroyFramebuffer (f : FramebufferId) :
    Step fe o (.destroyFramebuffer f) () (o.removeFramebuffer f)
  | attachColor (f : FramebufferId) (slot : UInt32) (t : Option TextureId) (targets : Targets)
    (live : o.framebuffers.get? f = some targets) :
    Step fe o (.attachColor f slot t) (.ok ()) (o.setTargets f (targets.attach slot t))
  | setDrawBuffers (f : FramebufferId) (slots : List UInt32) (targets : Targets)
    (live : o.framebuffers.get? f = some targets) :
    Step fe o (.setDrawBuffers f slots) (.ok ())
      (o.setTargets f { targets with drawBuffers := slots })
  | compileProgram (source : String) (layout : Layout)
    (compiled : Program.compile fe source = .ok layout) :
    Step fe o (.compileProgram source) (.ok (o.addProgram (.ofLayout layout)).1)
      (o.addProgram (.ofLayout layout)).2
  | noProgram (source : String) (e : Program.ShaderError) :
    Step fe o (.compileProgram source) (.error e) o
  | deleteProgram (p : ProgramId) : Step fe o (.deleteProgram p) () (o.removeProgram p)
  | useProgram (p : ProgramId) : Step fe o (.useProgram p) (.ok ()) { o with current := some p }
  | setUniform (l : Location) (v : UniformValue) (p : ProgramId) (m m' : DeviceProgram)
    (current : o.current = some p) (live : o.programs.get? p = some m)
    (taken : m.take l v = some m') :
    Step fe o (.setUniform l v) (.ok ()) (o.setProgram p m')
  | bindTexture (unit : UInt32) (t : Option TextureId) :
    Step fe o (.bindTexture unit t) () (o.bindTexture unit t)
  | bindFramebuffer (f : Option FramebufferId) :
    Step fe o (.bindFramebuffer f) () { o with bound := f }
  | setViewport (size : Extent) : Step fe o (.setViewport size) () { o with viewport := size }
  | setBlend (blend : BlendState) : Step fe o (.setBlend blend) () { o with blend }
  | drawFullscreen : Step fe o .drawFullscreen (.ok ()) o
  | resizeSurface (size : Extent) :
    Step fe o (.resizeSurface size) (.ok ()) { o with surface := size.atLeastOne }
  | refused (call : Call .done) (e : Error) : Step fe o call (.error e) o
  | inert {a : Answer} (call : Call a) (answer : a.Of) (h : call.inert) : Step fe o call answer o

/-- A change of the objects that may fail: the way that it goes if it is made. -/
theorem Step.of_update {call : Call .done}
    {step : Objects DeviceProgram → Except Error (Objects DeviceProgram)}
    (h : ∀ o, step d.objects = .ok o → Step fe d.objects call (.ok ()) o) :
    Step fe d.objects call (attempt (fun d : Device fe => d.update step) d).1
      (attempt (fun d : Device fe => d.update step) d).2.objects := by
  cases hs : step d.objects with
  | error e =>
    rw [attempt_error hs]
    exact .refused call e
  | ok o =>
    rw [attempt_ok hs]
    exact h o hs

theorem perform_step (d : Device fe) {a : Answer} (call : Call a) :
    Step fe d.objects call (perform call d).1 (perform call d).2.objects := by
  cases call with
  | createTexture format size =>
    simp only [perform, Device.createTexture]
    split
    · exact .createTexture format size
    · exact .noTexture format size _
  | destroyTexture t => exact .destroyTexture t
  | createFramebuffer => exact .createFramebuffer
  | destroyFramebuffer f => exact .destroyFramebuffer f
  | attachColor f slot t =>
    refine .of_update fun o ho => ?_
    rcases d.objects.attachColor_cases f slot t with ⟨e, he⟩ | ⟨targets, hlive, hok⟩
    · rw [he] at ho
      cases ho
    · rw [hok] at ho
      cases ho
      exact .attachColor f slot t targets hlive
  | setDrawBuffers f slots =>
    refine .of_update fun o ho => ?_
    cases hlive : d.objects.framebuffers.get? f with
    | none =>
      rw [Objects.setDrawBuffers_of_none hlive] at ho
      cases ho
    | some targets =>
      rw [Objects.setDrawBuffers_of_some hlive] at ho
      cases ho
      exact .setDrawBuffers f slots targets hlive
  | compileProgram source =>
    simp only [perform, Device.compileProgram]
    split
    · exact .noProgram source _
    · next layout hcompiled => exact .compileProgram source layout hcompiled
  | deleteProgram p => exact .deleteProgram p
  | useProgram p =>
    refine .of_update fun o ho => ?_
    rw [Objects.useProgram_ok ho]
    exact .useProgram p
  | setUniform l v =>
    cases hu : d.objects.inUse with
    | error e =>
      have hstep : Device.setUniform l v d.objects = .error e := by
        simp only [Device.setUniform, hu, bind, Except.bind]
      simp only [perform, attempt_error hstep]
      exact .refused _ e
    | ok used =>
      obtain ⟨p, m⟩ := used
      obtain ⟨hcurrent, hlive⟩ := Objects.inUse_ok hu
      rcases setUniform_take hu l v with ⟨m', htaken, hrun⟩ | ⟨e, hrun⟩ <;>
        rw [show perform (.setUniform l v) d = _ from hrun]
      · exact .setUniform l v p m m' hcurrent hlive htaken
      · exact .refused _ e
  | bindTexture unit t => exact .bindTexture unit t
  | bindFramebuffer f => exact .bindFramebuffer f
  | setViewport size => exact .setViewport size
  | setBlend blend => exact .setBlend blend
  | drawFullscreen =>
    simp only [perform, attempt]
    cases submission d.objects with
    | error e => exact .refused _ e
    | ok s => exact .drawFullscreen
  | resizeSurface size => exact .resizeSurface size
  | uniformLocation | clear | surfaceSize | readSurface | endFrame => exact .inert _ _ trivial

/-! ## The device has what the history says -/

variable {es : List Event}

/-- A framebuffer as the history has it. -/
def Targeted (es : List Event) (f : FramebufferId) (t : Targets) : Prop :=
  t.drawBuffers = drawBuffers f es ∧ ∀ slot, t.attachments.get? slot = attachedAt f slot es

/-- A program as the history has it. -/
structure Programmed (fe : Program.FrontEnd) (es : List Event) (p : ProgramId)
    (m : DeviceProgram) : Prop where
  layout : layout? fe p es = some m.layout
  length : m.units.length = m.layout.samplers.length
  units : ∀ k < m.layout.samplers.length,
    m.unit k = unitAt p ⟨m.layout.uniforms.length + k⟩ es

/-- A device that these calls led to. -/
structure Told (es : List Event) (d : Device fe) : Prop where
  numbered : d.objects.Numbered
  account : d.objects.account = accountOf es
  textures : ∀ unit, d.objects.units.get? unit = textureAt unit es
  framebuffers : ∀ f t, d.objects.framebuffers.get? f = some t → Targeted es f t
  programs : ∀ p m, d.objects.programs.get? p = some m → Programmed fe es p m

theorem told_fresh {limit : UInt32} : Told [] ({ limit } : Device fe) where
  numbered := Objects.numbered_empty
  account := Objects.account_empty
  textures _ := rfl
  framebuffers _ _ h := nomatch h
  programs _ _ h := nomatch h

section
variable {o o' : Objects DeviceProgram} {a : Answer} {call : Call a} {answer : a.Of}

theorem Step.textures (h : Step fe o call answer o')
    (ht : ∀ unit, o.units.get? unit = textureAt unit es) (unit : UInt32) :
    o'.units.get? unit = textureAt unit (⟨call, answer⟩ :: es) := by
  cases h with
  | bindTexture u t =>
    cases t <;>
      simp only [Objects.bindTexture, textureAt, Dict.get?_erase, Dict.get?_insert, ht,
        eq_comm (a := unit)]
  | refused call e => cases call <;> exact ht unit
  | inert _ _ hinert => cases call <;> first | exact ht unit | exact hinert.elim
  | _ => exact ht unit

/-- A call that changes no framebuffer, by its answer. -/
theorem Targeted.keep {f : FramebufferId} {t : Targets} (h : Targeted es f t) {e : Event}
    (hbuffers : drawBuffers f (e :: es) = drawBuffers f es)
    (hattached : ∀ slot, attachedAt f slot (e :: es) = attachedAt f slot es) :
    Targeted (e :: es) f t :=
  ⟨h.1.trans hbuffers.symm, fun slot => (h.2 slot).trans (hattached slot).symm⟩

theorem Step.framebuffers (h : Step fe o call answer o')
    (hf : ∀ f t, o.framebuffers.get? f = some t → Targeted es f t) {f : FramebufferId}
    {t : Targets} (ht : o'.framebuffers.get? f = some t) :
    Targeted (⟨call, answer⟩ :: es) f t := by
  cases h with
  | createFramebuffer =>
    rw [Objects.addFramebuffer, Dict.get?_insert] at ht
    split at ht
    · next hnew =>
      cases ht
      subst hnew
      exact ⟨(if_pos rfl).symm, fun slot => (if_pos rfl).symm⟩
    · next hold => exact (hf f t ht).keep (if_neg (Ne.symm hold)) fun slot => if_neg (Ne.symm hold)
  | destroyFramebuffer g =>
    rw [Objects.removeFramebuffer, Dict.get?_erase] at ht
    split at ht
    · cases ht
    · exact (hf f t ht).keep rfl fun _ => rfl
  | attachColor g s x targets hlive =>
    rw [Objects.setTargets, Dict.get?_insert] at ht
    split at ht
    · next hfg =>
      cases ht
      subst hfg
      obtain ⟨hbuffers, hattached⟩ := hf f targets hlive
      refine ⟨?_, fun slot => ?_⟩
      · cases x <;> exact hbuffers
      · cases x <;>
          simp only [Targets.attach, attachedAt, Dict.get?_erase, Dict.get?_insert, true_and,
            hattached, eq_comm (a := slot)]
    · next hfg =>
      exact (hf f t ht).keep rfl fun slot => if_neg fun h => hfg h.1.symm
  | setDrawBuffers g slots targets hlive =>
    rw [Objects.setTargets, Dict.get?_insert] at ht
    split at ht
    · next hfg =>
      cases ht
      subst hfg
      exact ⟨(if_pos rfl).symm, (hf f targets hlive).2⟩
    · next hfg => exact (hf f t ht).keep (if_neg (Ne.symm hfg)) fun _ => rfl
  | bindTexture _ x => cases x <;> exact (hf f t ht).keep rfl fun _ => rfl
  | refused call e => cases call <;> exact (hf f t ht).keep rfl fun _ => rfl
  | inert _ _ hinert =>
    cases call <;> first | exact hinert.elim | exact (hf f t ht).keep rfl fun _ => rfl
  | _ => exact (hf f t ht).keep rfl fun _ => rfl

/-- A call that changes no program, by its answer. -/
theorem Programmed.keep {p : ProgramId} {m : DeviceProgram} (h : Programmed fe es p m) {e : Event}
    (hlayout : layout? fe p (e :: es) = layout? fe p es)
    (hnumber : ∀ l, numberAt p l (e :: es) = numberAt p l es) : Programmed fe (e :: es) p m where
  layout := hlayout.trans h.layout
  length := h.length
  units k hk := (h.units k hk).trans (by rw [unitAt, unitAt, hnumber])

/-- A program that was just compiled. -/
theorem programmed_new {source : String} {layout : Layout} {p : ProgramId}
    (h : Program.compile fe source = .ok layout) :
    Programmed fe (⟨.compileProgram source, .ok p⟩ :: es) p (.ofLayout layout) where
  layout := by simp only [layout?, if_true, h, Except.toOption, DeviceProgram.ofLayout]
  length := List.length_replicate
  units k hk := by
    have hk' : k < layout.samplers.length := hk
    simp [DeviceProgram.unit, DeviceProgram.ofLayout, hk', unitAt, numberAt]

/-- A value that the program in use took. -/
theorem Programmed.set {p : ProgramId} {m m' : DeviceProgram} (h : Programmed fe es p m)
    (hinUse : (accountOf es).inUse = some p) {l : Location} {v : UniformValue}
    (htaken : m.take l v = some m') : Programmed fe (⟨.setUniform l v, .ok ()⟩ :: es) p m' := by
  have hget : (m.take l v).getD m = m' := by rw [htaken]; rfl
  obtain ⟨hlayout, hlength, -⟩ := DeviceProgram.take_shape l v m
  rw [hget] at hlayout hlength
  refine ⟨?_, ?_, fun k hk => ?_⟩
  · rw [hlayout]
    exact h.layout
  · rw [hlayout, hlength, h.length]
  · rw [hlayout] at hk ⊢
    have hunit := DeviceProgram.unit_take l v (h.length.symm ▸ hk) hk
    rw [hget] at hunit
    rw [hunit, h.units k hk]
    cases v with
    | int n =>
      simp only [unitAt, numberAt, hinUse, and_true]
      split
      · rw [show (max 0 n.toInt).toNat = n.toInt.toNat by omega]
      · rfl
    | _ => rfl

theorem Step.programs (h : Step fe o call answer o') (hacc : o.account = accountOf es)
    (hp : ∀ p m, o.programs.get? p = some m → Programmed fe es p m) {p : ProgramId}
    {m : DeviceProgram} (hm : o'.programs.get? p = some m) :
    Programmed fe (⟨call, answer⟩ :: es) p m := by
  cases h with
  | compileProgram source layout hcompiled =>
    rw [Objects.addProgram, Dict.get?_insert] at hm
    split at hm
    · next hnew =>
      cases hm
      subst hnew
      exact programmed_new hcompiled
    · next hold => exact (hp p m hm).keep (if_neg (Ne.symm hold)) fun l => if_neg (Ne.symm hold)
  | deleteProgram q =>
    rw [Objects.removeProgram, Dict.get?_erase] at hm
    split at hm
    · cases hm
    · exact (hp p m hm).keep rfl fun _ => rfl
  | setUniform l v q old new hcurrent hlive htaken =>
    have hinUse : (accountOf es).inUse = some q := by rw [← hacc]; exact hcurrent
    rw [Objects.setProgram, Dict.get?_insert] at hm
    split at hm
    · next hpq =>
      cases hm
      subst hpq
      exact (hp p old hlive).set hinUse htaken
    · next hpq =>
      refine (hp p m hm).keep rfl fun l' => ?_
      cases v <;> first
        | rfl
        | exact if_neg fun h => hpq (Option.some.inj (hinUse.symm.trans h.2)).symm
  | bindTexture _ x => cases x <;> exact (hp p m hm).keep rfl fun _ => rfl
  | refused call e =>
    cases call <;> first
      | exact (hp p m hm).keep rfl fun _ => rfl
      | (refine (hp p m hm).keep rfl fun l => ?_
         next v => cases v <;> rfl)
  | inert _ _ hinert =>
    cases call <;> first | exact hinert.elim | exact (hp p m hm).keep rfl fun _ => rfl
  | _ => exact (hp p m hm).keep rfl fun _ => rfl

end

theorem Told.perform {d : Device fe} (h : Told es d) {a : Answer} (call : Call a) :
    Told (⟨call, (perform call d).1⟩ :: es) (perform call d).2 := by
  have hstep := perform_step d call
  obtain ⟨hnumbered, haccount, -⟩ := perform_follows h.numbered call
  exact ⟨hnumbered, haccount.trans (by rw [h.account]; rfl), hstep.textures h.textures,
    fun _ _ => hstep.framebuffers h.framebuffers, fun _ _ => hstep.programs h.account h.programs⟩

end Device

/-- The calls with their answers, put before those of the history so far. -/
def history {σ : Type} [Backend σ] :
    List ((a : Answer) × Call a) → σ → List Event → List Event
  | [], _, es => es
  | c :: cs, b, es =>
    history cs (Backend.perform c.2 b).2 (⟨c.2, (Backend.perform c.2 b).1⟩ :: es)

namespace Device

variable {fe : Program.FrontEnd} {d : Device fe} {es : List Event}

theorem Told.run (h : Told es d) (calls : List ((a : Answer) × Call a)) :
    Told (history calls d es) (afterCalls calls d) := by
  induction calls generalizing d es with
  | nil => exact h
  | cons c cs ih => exact ih (h.perform c.2)

/-! ## Draws -/

section
variable {o : Objects DeviceProgram} {p : ProgramId} {m : DeviceProgram} {layout : Layout}
  {ts : List (UInt32 × Target)} {s : Submission}

theorem mapM_ok {α β ε : Type} {f : α → Except ε β} {as : List α} {bs : List β}
    (h : as.mapM f = .ok bs) : bs.length = as.length ∧ ∀ a ∈ as, ∃ b, f a = .ok b := by
  induction as generalizing bs with
  | nil =>
    cases h
    exact ⟨rfl, fun _ ha => nomatch ha⟩
  | cons a as ih =>
    rw [List.mapM_cons] at h
    cases ha : f a with
    | error e => rw [ha] at h; cases h
    | ok b =>
      cases has : as.mapM f with
      | error e => rw [ha, has] at h; cases h
      | ok bs' =>
        rw [ha, has] at h
        cases h
        obtain ⟨hlength, hall⟩ := ih has
        exact ⟨congrArg (· + 1) hlength, List.forall_mem_cons.2 ⟨⟨b, ha⟩, hall⟩⟩

theorem mapM_of_forall {α β ε : Type} {f : α → Except ε β} {as : List α}
    (h : ∀ a ∈ as, ∃ b, f a = .ok b) : ∃ bs, as.mapM f = .ok bs := by
  induction as with
  | nil => exact ⟨[], rfl⟩
  | cons a as ih =>
    obtain ⟨b, hb⟩ := h a List.mem_cons_self
    obtain ⟨bs, hbs⟩ := ih fun a' ha' => h a' (List.mem_cons_of_mem a ha')
    exact ⟨b :: bs, by rw [List.mapM_cons, hb, hbs]; rfl⟩

/-- A sampler's slot is at the sampler's location. -/
theorem slot?_eq_sampler {l : Location} {i : Nat} {slot : Program.SamplerSlot}
    (h : layout.slot? l = some (.sampler i slot)) :
    l = ⟨layout.uniforms.length + i⟩ ∧ i < layout.samplers.length := by
  obtain ⟨hindex, hslot⟩ := Layout.slot?_eq_sampler_iff.1 h
  exact ⟨congrArg Location.mk hindex, (List.getElem?_eq_some_iff.1 hslot).1⟩

/-- Only a texture can be missing. -/
theorem targetInfo_ok_iff (t : Target) :
    (∃ info, targetInfo o t = .ok info) ↔ ∀ x, t = .texture x → o.textures.contains x := by
  cases t with
  | surface => exact iff_of_true ⟨_, rfl⟩ fun _ h => nomatch h
  | texture x =>
    constructor
    · rintro ⟨info, hinfo⟩ y hy
      cases hy
      simp only [targetInfo, Objects.texture] at hinfo
      split at hinfo
      · next hget => exact Objects.contains_of_get? hget
      · cases hinfo
    · intro h
      obtain ⟨info, hget⟩ := Option.isSome_iff_exists.1 (h x rfl)
      exact ⟨info, by simp only [targetInfo, Objects.texture, hget]⟩

theorem feedback?_eq_none_iff {sampled : List (Option TextureId)} :
    feedback? sampled ts = none ↔ ∀ slot t, (slot, Target.texture t) ∈ ts → some t ∉ sampled := by
  rw [feedback?, List.findSome?_eq_none_iff]
  constructor
  · intro h slot t ht hsampled
    have := h _ ht
    simp [hsampled] at this
  · rintro h ⟨slot, _ | t⟩ ht
    · rfl
    · simp [h slot t ht]

/-- A draw of this program into these targets that nothing speaks against. -/
structure Drawable (o : Objects DeviceProgram) (p : ProgramId) (m : DeviceProgram)
    (ts : List (UInt32 × Target)) : Prop where
  inUse : o.inUse = .ok (p, m)
  targets : targets o m.layout = .ok ts
  live : ∀ slot t, (slot, Target.texture t) ∈ ts → o.textures.contains t
  apart : ∀ slot t, (slot, Target.texture t) ∈ ts → some t ∉ samplerTextures o m

theorem Drawable.submission (h : Drawable o p m ts) : ∃ s, submission o = .ok s := by
  obtain ⟨infos, hinfos⟩ : ∃ infos, (ts.mapM fun t => targetInfo o t.2) = .ok infos :=
    mapM_of_forall fun t ht => (targetInfo_ok_iff t.2).2 fun x hx => h.live t.1 x (hx ▸ ht)
  simp only [Device.submission, h.inUse, h.targets, hinfos, feedback?_eq_none_iff.2 h.apart, bind,
    Except.bind]
  exact ⟨_, rfl⟩

/-- What is submitted goes to the targets, and samples what is live in the units. -/
theorem drawable_of_submission (h : submission o = .ok s) :
    ∃ p m ts, Drawable o p m ts ∧ s.targets.map (fun t => (t.1, t.2.1)) = ts ∧
      s.sampled = (samplerTextures o m).map fun t => t.filter o.textures.contains := by
  unfold Device.submission at h
  cases hu : o.inUse with
  | error e => rw [hu] at h; cases h
  | ok used =>
    obtain ⟨p, m⟩ := used
    cases hts : targets o m.layout with
    | error e => simp only [hu, hts, bind, Except.bind] at h; cases h
    | ok ts =>
      cases hinfos : ts.mapM fun t => targetInfo o t.2 with
      | error e => simp only [hu, hts, hinfos, bind, Except.bind] at h; cases h
      | ok infos =>
        simp only [hu, hts, hinfos, bind, Except.bind] at h
        split at h
        · cases h
        · next hfeedback =>
          cases h
          obtain ⟨hlength, hall⟩ := mapM_ok hinfos
          refine ⟨p, m, ts, ⟨hu, hts, fun slot t ht => ?_, feedback?_eq_none_iff.1 hfeedback⟩, ?_,
            rfl⟩
          · exact (targetInfo_ok_iff _).1 (hall _ ht) t rfl
          · rw [List.map_map]
            exact List.map_fst_zip hlength.ge

theorem drawFullscreen_eq (d : Device fe) : Gpu.drawFullscreen d = attempt (fun d : Device fe =>
    (Device.submission d.objects).map fun s => { d with submitted := d.submitted ++ [s] }) d := rfl

theorem draw_of_error {e : Error} (h : Device.submission d.objects = .error e) :
    Gpu.drawFullscreen d = (.error e, d) := by
  rw [drawFullscreen_eq]
  exact attempt_of_error (congrArg (Except.map _) h)

theorem draw_of_ok (h : Device.submission d.objects = .ok s) :
    Gpu.drawFullscreen d = (.ok (), { d with submitted := d.submitted ++ [s] }) := by
  rw [drawFullscreen_eq]
  exact attempt_of_ok (congrArg (Except.map _) h)

/-- The draw buffers that something is attached at, as the history has them. -/
theorem drawn_targets {f : FramebufferId} {t : Targets} (h : Targeted es f t) (layout : Layout) :
    ((t.drawn.filter fun a => layout.outputs.contains a.1).map fun a => (a.1, Target.texture a.2))
      = ((drawBuffers f es).filter layout.outputs.contains).filterMap fun slot =>
          (attachedAt f slot es).map fun t => (slot, .texture t) := by
  obtain ⟨hbuffers, hattached⟩ := h
  simp only [Targets.drawn, ← hbuffers, ← hattached]
  induction t.drawBuffers with
  | nil => rfl
  | cons slot slots ih =>
    cases hget : t.attachments.get? slot <;> by_cases hout : layout.outputs.contains slot <;>
      simp only [List.filterMap_cons, List.filter_cons, hget, hout, Option.map_none,
        Option.map_some, if_true, if_false, List.map_cons, ih, Bool.false_eq_true]

theorem some_targets_iff {found : List (UInt32 × Target)} {e : Error} :
    (if found.isEmpty then .error e else .ok found : Except Error _) = .ok ts ↔
      found = ts ∧ ts ≠ [] := by
  cases found with
  | nil => exact iff_of_false (fun h => nomatch h) fun h => h.2 h.1.symm
  | cons t found =>
    constructor
    · rintro ⟨⟩
      exact ⟨rfl, List.cons_ne_nil t found⟩
    · rintro ⟨rfl, -⟩
      rfl

theorem Told.targets_ok_iff (h : Told es d) :
    targets d.objects layout = .ok ts ↔
      (∀ f, (accountOf es).bound = some f → f ∈ (accountOf es).framebuffers) ∧
        targetsOf layout es = ts ∧ ts ≠ [] := by
  have hbound : (accountOf es).bound = d.objects.bound := by rw [← h.account]; rfl
  have hlive : ∀ f, f ∈ (accountOf es).framebuffers ↔ d.objects.framebuffers.contains f := by
    rw [← h.account]
    exact fun _ => Iff.rfl
  unfold targets targetsOf
  rw [hbound]
  cases d.objects.bound with
  | none =>
    simp only [List.contains_iff_mem]
    have hnone : ∀ f, none = some f → f ∈ (accountOf es).framebuffers :=
      fun f h => absurd h.symm (Option.some_ne_none f)
    exact some_targets_iff.trans (and_iff_right hnone).symm
  | some f =>
    simp only [Option.some.injEq, forall_eq', hlive, bind, Except.bind]
    cases hget : d.objects.framebuffers.get? f with
    | none =>
      simp only [Objects.framebuffer, hget, Dict.contains]
      exact iff_of_false (fun h => by cases h) fun h => absurd h.1 Bool.false_ne_true
    | some t =>
      simp only [Objects.framebuffer, hget, Dict.contains]
      rw [← drawn_targets (h.framebuffers f t hget)]
      exact some_targets_iff.trans (and_iff_right rfl).symm

/-- What the samplers of a program read. -/
theorem Told.mem_samplerTextures_iff (h : Told es d) (hm : Programmed fe es p m) (t : TextureId) :
    some t ∈ samplerTextures d.objects m ↔
      ∃ l i s, m.layout.slot? l = some (.sampler i s) ∧ textureAt (unitAt p l es) es = some t := by
  have hunit : ∀ k < m.layout.samplers.length, d.objects.units.get? (m.unit k)
      = textureAt (unitAt p ⟨m.layout.uniforms.length + k⟩ es) es := fun k hk => by
    rw [h.textures, hm.units k hk]
  simp only [samplerTextures, List.mem_map]
  constructor
  · rintro ⟨unit, hmem, ht⟩
    obtain ⟨k, hk, rfl⟩ := List.mem_iff_getElem.1 hmem
    have hk' : k < m.layout.samplers.length := hm.length ▸ hk
    refine ⟨_, k, _, slot?_sampler hk', ?_⟩
    rw [← hunit k hk', DeviceProgram.unit, List.getD_eq_getElem _ _ hk, ht]
  · rintro ⟨l, k, s, hslot, ht⟩
    obtain ⟨rfl, hk⟩ := slot?_eq_sampler hslot
    have hk' : k < m.units.length := hm.length ▸ hk
    refine ⟨m.unit k, ?_, by rw [hunit k hk, ht]⟩
    rw [DeviceProgram.unit, List.getD_eq_getElem _ _ hk']
    exact List.getElem_mem hk'

/-- The device can make a draw exactly if the history speaks for it. -/
theorem Told.drawable_iff (h : Told es d) :
    (∃ p m ts, Drawable d.objects p m ts) ↔ ∃ p layout, SoundDraw fe es p layout := by
  constructor
  · rintro ⟨p, m, ts, hdraw⟩
    obtain ⟨hcurrent, hlive⟩ := Objects.inUse_ok hdraw.inUse
    have hm := h.programs p m hlive
    obtain ⟨hdefined, rfl, hne⟩ := h.targets_ok_iff.1 hdraw.targets
    refine ⟨p, m.layout, ?_, ?_, hm.layout, hdefined, hne, fun slot t ht => ?_,
      fun slot t ht l i s hslot hsampled => ?_⟩
    · rw [← h.account]
      exact hcurrent
    · rw [← h.account]
      exact Objects.contains_of_get? hlive
    · rw [← h.account]
      exact hdraw.live slot t ht
    · exact hdraw.apart slot t ht ((h.mem_samplerTextures_iff hm t).2 ⟨l, i, s, hslot, hsampled⟩)
  · rintro ⟨p, layout, hsound⟩
    have hcurrent : d.objects.current = some p := by
      have hinUse := hsound.inUse
      rwa [← h.account] at hinUse
    obtain ⟨m, hlive⟩ : ∃ m, d.objects.programs.get? p = some m := by
      have hp := hsound.live
      rw [← h.account] at hp
      exact Option.isSome_iff_exists.1 hp
    have hm := h.programs p m hlive
    obtain rfl : m.layout = layout := Option.some.inj (hm.layout.symm.trans hsound.reflected)
    refine ⟨p, m, targetsOf m.layout es, Objects.inUse_eq_ok hcurrent hlive,
      h.targets_ok_iff.2 ⟨hsound.defined, rfl, hsound.nonempty⟩, fun slot t ht => ?_,
      fun slot t ht hsampled => ?_⟩
    · have hlive := hsound.liveTargets slot t ht
      rw [← h.account] at hlive
      exact hlive
    · obtain ⟨l, i, s, hslot, hread⟩ := (h.mem_samplerTextures_iff hm t).1 hsampled
      exact hsound.apart slot t ht l i s hslot hread

end

end Device

/-- Whatever a new device was told, it accepts a draw exactly if there are a live program and
live targets, none of which a sampler of the program reads. What an accepted draw samples is
not what it writes, and a rejected draw leaves the device as it was. -/
theorem draw_accepted_iff (fe : Program.FrontEnd) (limit : UInt32)
    (calls : List ((a : Answer) × Call a)) :
    let es := history calls ({ limit } : Device fe) []
    let d := afterCalls calls ({ limit } : Device fe)
    ((drawFullscreen d).1 = .ok () ↔ ∃ p layout, SoundDraw fe es p layout) ∧
      ((drawFullscreen d).1 = .ok () → ∃ s, (drawFullscreen d).2.submitted = d.submitted ++ [s] ∧
        ∀ a ∈ s.targets, ∀ t, a.2.1 = .texture t → some t ∉ s.sampled) ∧
      ∀ e, (drawFullscreen d).1 = .error e → (drawFullscreen d).2 = d := by
  intro es d
  have htold : Device.Told es d := Device.told_fresh.run calls
  rw [← htold.drawable_iff]
  cases hs : Device.submission d.objects with
  | error e =>
    rw [Device.draw_of_error hs]
    refine ⟨iff_of_false nofun ?_, nofun, fun _ _ => rfl⟩
    rintro ⟨p, m, ts, hdrawable⟩
    obtain ⟨s, hok⟩ := hdrawable.submission
    cases hs.symm.trans hok
  | ok s =>
    obtain ⟨p, m, ts, hdrawable, htargets, hsampled⟩ := Device.drawable_of_submission hs
    rw [Device.draw_of_ok hs]
    refine ⟨iff_of_true rfl ⟨p, m, ts, hdrawable⟩, fun _ => ⟨s, rfl, ?_⟩, nofun⟩
    intro a ha t hat hread
    have hmem : (a.1, Target.texture t) ∈ ts := by
      rw [← htargets, ← hat]
      exact List.mem_map_of_mem ha
    rw [hsampled] at hread
    obtain ⟨x, hx, hfilter⟩ := List.mem_map.1 hread
    obtain ⟨rfl, -⟩ := Option.filter_eq_some_iff.1 hfilter
    exact hdrawable.apart a.1 t hmem hx

/-- Finds one sampler and one output in every program. -/
def samplingModule : Program.FrontEnd := fun _ =>
  .ok ⟨[⟨some "tex_texture", .handle, some ⟨1, 0⟩, .image⟩],
    [⟨.fragment, some ⟨some (.location 0), .other⟩⟩]⟩

/-- Draws from one texture into another. The sampler is set to a negative number, so it reads
the first unit. -/
def sampleAndWrite : List ((a : Answer) × Call a) :=
  [⟨_, .createTexture .rgba8 ⟨4, 4⟩⟩, ⟨_, .createTexture .rgba8 ⟨4, 4⟩⟩,
    ⟨_, .createFramebuffer⟩, ⟨_, .attachColor ⟨3⟩ 0 (some ⟨1⟩)⟩, ⟨_, .setDrawBuffers ⟨3⟩ [0]⟩,
    ⟨_, .compileProgram ""⟩, ⟨_, .useProgram ⟨4⟩⟩, ⟨_, .setUniform ⟨0⟩ (.int (-5))⟩,
    ⟨_, .bindTexture 5 (some ⟨1⟩)⟩, ⟨_, .bindTexture 0 (some ⟨2⟩)⟩,
    ⟨_, .bindFramebuffer (some ⟨3⟩)⟩]

example : (drawFullscreen (afterCalls sampleAndWrite ({} : Device samplingModule))).1 = .ok () := by
  rfl

/-- With the other texture in the first unit it reads what it writes. -/
example : (drawFullscreen (afterCalls (sampleAndWrite ++ [⟨_, .bindTexture 0 (some ⟨1⟩)⟩])
    ({} : Device samplingModule))).1
      = .error (.draw "texture 1 is both sampled and rendered to") := by
  decide +kernel

end FrameGraph.Gpu
