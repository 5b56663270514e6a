import FrameGraph.Proofs.Frame.Shared
import FrameGraph.Proofs.Pass.Wiring

/-!
# Draws that use what is live

A draw is made with whatever is bound, so what it uses is live only if the steps before it saw
to that. A backend is `Watched` from some point of its record on: its passes are wired, and
every draw since then was made with one of them and used what was live.

Framebuffers keep their attachments and texture units their textures after these are
destroyed. An invocation attaches live textures at all slots it draws to, or is skipped. It
binds a live texture, or none, to each of its units, so a sampler that reads one of them reads
a live one; what other units hold does not matter.

Results:
* `Watched.plain`, `Watched.setUniform`, `Watched.draw`: the steps of a backend.
* `Using.bindSamplers`: what the samplers read, once they are bound.
* `Targeted.usesLive`: what a draw uses that is made then.
* `stocked_invokeAll`, `Present.stocked_composite`: the draws of a frame.
-/
namespace FrameGraph

open Gpu
open Program (Layout Location)

/-- The draw was made with one of these passes, after these calls. Its program, its framebuffer
and its attachments are live, and so are the textures of its samplers, if the pass declares all
that its program has and takes none for a uniform; this it may do if none of the calls was
refused that finds a uniform or sets one. -/
structure Gpu.Draw.UsesLive (fe : Program.FrontEnd) (policy : Policy) (calls : List Event)
    (passes : Pass → Prop) (live : Live) (d : Draw) : Prop where
  program : d.program ∈ live.programs
  framebuffer : ∀ f, d.framebuffer = some f → f ∈ live.framebuffers
  attachments : ∀ a ∈ d.attachments, a.2 ∈ live.textures
  samplers : ∃ p, passes p ∧ p.program = d.program ∧ p.Built fe policy calls ∧
    ∀ desc declarations layout, p.BuiltFrom fe desc declarations layout → desc.Declares layout →
      (desc.Confuses layout → policy.Wires calls ∧ p.From fe desc declarations layout) →
        ∀ t, some t ∈ d.samplers → t ∈ live.textures

/-- The calls of a history that were made before the draw that is recorded behind `before`. -/
structure Gpu.CallsBefore (history calls : List Event) (before : List Command) : Prop where
  draws : calls ++ [⟨.drawFullscreen, .ok ()⟩] <+: history
  /-- As many draws were made as are on record. -/
  count : calls.countP Event.drew = before.countP Command.draws

theorem Gpu.CallsBefore.mono {history history' calls : List Event} {before : List Command}
    (h : CallsBefore history calls before) (hcalls : history <+: history') :
    CallsBefore history' calls before :=
  ⟨h.draws.trans hcalls, h.count⟩

/-- What a backend is watched for: which passes may draw on it, and from where on its record. -/
structure Watch where
  policy : Policy
  passes : Pass → Prop
  since : List Command

/-- The passes are wired, and all draws on record since then used what was live. -/
structure Watched {fe : Program.FrontEnd} (w : Watch) (b : Faulty (Recorder fe)) : Prop where
  policy : b.policy = w.policy
  numbered : b.inner.objects.Numbered
  tallied : b.inner.Tallied
  wired : ∀ p, w.passes p → p.Wired fe w.policy b.history b.inner.objects
  /-- No two passes have the same program. -/
  apart : ∀ p q, w.passes p → w.passes q → p.program = q.program → p = q
  /-- The draws that were made are those on record. -/
  counted : b.history.countP Event.drew = b.inner.commands.countP Command.draws
  drawn : ∃ cs, b.inner.commands = w.since ++ cs ∧ ∀ before d after,
    cs = before ++ .draw d :: after → ∃ calls, CallsBefore b.history calls (w.since ++ before) ∧
      d.UsesLive fe w.policy calls w.passes (Live.ofRecord (w.since ++ before))

/-- An element of two lists in a row is one of the first or one of the second. -/
theorem append_eq_append_cons {α : Type} {l l' before after : List α} {x : α}
    (h : l ++ l' = before ++ x :: after) :
    (∃ rest, l = before ++ x :: rest) ∨
      ∃ before', before = l ++ before' ∧ l' = before' ++ x :: after := by
  rcases List.append_eq_append_iff.1 h with ⟨before', hbefore, hl'⟩ | ⟨rest, hl, hrest⟩
  · exact .inr ⟨before', hbefore, hl'⟩
  · cases rest with
    | nil =>
      rw [List.append_nil] at hl
      exact .inr ⟨[], by rw [hl, List.append_nil], hrest.symm⟩
    | cons y rest =>
      cases hrest
      exact .inl ⟨rest, hl⟩

variable {fe : Program.FrontEnd} {w : Watch} {b : Faulty (Recorder fe)} {cache : ImageCache}
  {p : Pass} {a : Answer} {call : Call a}

/-! ## Steps of a backend -/

theorem Gpu.Recorder.setUniform_objects (l : Location) (v : UniformValue) (r : Recorder fe) :
    (Recorder.perform (.setUniform l v) r).2.objects = r.objects.put l v :=
  (r.attempt_update (Recorder.setUniform l v)).2.1.trans (Recorder.setUniform_eq l v _)

theorem Gpu.Faulty.setUniform_of_none {l : Location} {v : UniformValue}
    (h : b.policy b.history (.setUniform l v) = none) :
    (setUniform l v b).2.inner.objects = b.inner.objects.put l v := by
  rw [setUniform, Faulty.perform_of_none h]
  exact Recorder.setUniform_objects l v b.inner

/-- A value is set in the program in use, unless it is refused. -/
theorem Gpu.Faulty.setUniform_objects (l : Location) (v : UniformValue)
    (b : Faulty (Recorder fe)) :
    (setUniform l v b).2.inner.objects = b.inner.objects ∨
      (setUniform l v b).2.inner.objects = b.inner.objects.put l v := by
  rcases Faulty.inner_perform (.setUniform l v) b with hinner | hinner
  · exact .inl (congrArg Recorder.objects hinner)
  · exact .inr ((congrArg Recorder.objects hinner).trans (Recorder.setUniform_objects l v b.inner))

/-- A draw is recorded if it is made, and nothing is done otherwise. -/
theorem Gpu.Faulty.draw_cases (b : Faulty (Recorder fe)) :
    (∃ e, (drawFullscreen b).1 = .error e ∧ (drawFullscreen b).2.inner = b.inner) ∨
      ∃ d, Recorder.currentDraw b.inner.objects = .ok d ∧ (drawFullscreen b).1 = .ok () ∧
        (drawFullscreen b).2.inner = b.inner.record (.draw d) := by
  rcases Faulty.perform_cases .drawFullscreen b with
    ⟨_, _, hrefused, hanswer, hinner⟩ | ⟨hanswer, hinner⟩
  · cases hrefused
    exact .inl ⟨_, hanswer, hinner⟩
  · rcases b.inner.perform_draw with ⟨e, hdraw⟩ | ⟨d, hd, hdraw⟩
    · exact .inl ⟨e, hanswer.trans (congrArg Prod.fst hdraw),
        hinner.trans (congrArg Prod.snd hdraw)⟩
    · exact .inr ⟨d, hd, hanswer.trans (congrArg Prod.fst hdraw),
        hinner.trans (congrArg Prod.snd hdraw)⟩

namespace Watched

/-- One call, and the commands that it puts on record. -/
theorem step (h : Watched w b) (call : Call a)
    (hwired : ∀ p, w.passes p → p.Wired fe w.policy b.history
      (Backend.perform call b).2.inner.objects)
    {cs : List Command} (hcs : (Backend.perform call b).2.inner.commands = b.inner.commands ++ cs)
    (hcount : [Event.mk call (Backend.perform call b).1].countP Event.drew
      = cs.countP Command.draws)
    (hdrawn : ∀ before d after, cs = before ++ .draw d :: after →
      CallsBefore (Backend.perform call b).2.history b.history (b.inner.commands ++ before) ∧
        d.UsesLive fe w.policy b.history w.passes (Live.ofRecord (b.inner.commands ++ before))) :
    Watched w (Backend.perform call b).2 := by
  have hcalls := Faulty.prefix_history call b
  refine ⟨(Faulty.policy_perform call b).trans h.policy,
    (Accounting.follows call (b := b) h.numbered).1, ?_, fun p hp => (hwired p hp).mono hcalls,
    h.apart, ?_, ?_⟩
  · rcases Faulty.inner_perform call b with hinner | hinner <;> rw [hinner]
    · exact h.tallied
    · exact Recorder.perform_tallied h.tallied h.numbered call
  · rw [Faulty.history_perform, hcs, List.countP_append, List.countP_append, h.counted, hcount]
  · obtain ⟨cs', hcs', hold⟩ := h.drawn
    refine ⟨cs' ++ cs, by rw [hcs, hcs', List.append_assoc], fun before d after heq => ?_⟩
    rcases append_eq_append_cons heq with ⟨rest, hrest⟩ | ⟨before', rfl, heq'⟩
    · obtain ⟨calls, hbefore, hlive⟩ := hold before d rest hrest
      exact ⟨calls, hbefore.mono hcalls, hlive⟩
    · rw [← List.append_assoc, ← hcs']
      exact ⟨b.history, hdrawn before' d after heq'⟩

/-- A call that makes no draw. -/
theorem quiet (h : Watched w b) (call : Call a)
    (hwired : ∀ p, w.passes p → p.Wired fe w.policy b.history
      (Backend.perform call b).2.inner.objects)
    (hevent : Event.drew ⟨call, (Backend.perform call b).1⟩ = false) {cs : List Command}
    (hcs : (Backend.perform call b).2.inner.commands = b.inner.commands ++ cs)
    (hnone : ∀ c ∈ cs, ¬ c.draws) : Watched w (Backend.perform call b).2 := by
  refine h.step call hwired hcs ?_ ?_
  · rw [List.countP_singleton, hevent, List.countP_eq_zero.2 hnone]
    rfl
  · intro before d after heq
    exact absurd rfl (hnone (.draw d) (by rw [heq]; simp))

theorem plain (h : Watched w b) (call : Call a) (hcall : call.plain) :
    Watched w (Backend.perform call b).2 := by
  have hrecords : ∃ cs, (Backend.perform call b).2.inner.commands = b.inner.commands ++ cs ∧
      ∀ c ∈ cs, ¬ c.draws := by
    rcases Faulty.inner_perform call b with hinner | hinner <;> rw [hinner]
    · exact ⟨[], (List.append_nil _).symm, fun _ hno => nomatch hno⟩
    · exact Recorder.perform_plain hcall
  obtain ⟨cs, hcs, hnone⟩ := hrecords
  refine h.quiet call (fun p hp => ?_) (Event.drew_of_plain hcall _) hcs hnone
  rcases Faulty.inner_perform call b with hinner | hinner <;> rw [hinner]
  · exact h.wired p hp
  · exact (h.wired p hp).perform hcall

/-- A pass sets one of its uniforms, or takes a sampler to one of its units. -/
theorem setUniform (h : Watched w b) (hp : w.passes p)
    (hcurrent : b.inner.objects.current = some p.program) (l : Location) (v : UniformValue)
    (hset : some l ∈ p.uniforms ∨
      ∃ j < max 1 p.samplers.length, v = .int (UInt32.ofNat j).toInt32) :
    Watched w (Gpu.setUniform l v b).2 := by
  have hsame : (Backend.perform (.setUniform l v) b).2.inner.commands = b.inner.commands ++ [] := by
    rw [List.append_nil]
    rcases Faulty.inner_perform (.setUniform l v) b with hinner | hinner <;> rw [hinner]
    exact Recorder.update_commands
  refine h.quiet (.setUniform l v) (fun q hq => ?_) rfl hsame fun _ hno => nomatch hno
  rcases Faulty.setUniform_objects l v b with hsame | hput
  · exact hsame.symm ▸ h.wired q hq
  · refine hput.symm ▸ (h.wired q hq).put l v fun hq' => ?_
    cases h.apart p q hp hq (Option.some.inj (hcurrent.symm.trans hq'))
    exact hset

/-- A draw, if what would be drawn uses what is live. -/
theorem draw (h : Watched w b)
    (hlive : ∀ d, Recorder.currentDraw b.inner.objects = .ok d →
      d.UsesLive fe w.policy b.history w.passes (Live.ofRecord b.inner.commands)) :
    Watched w (drawFullscreen b).2 := by
  rcases b.draw_cases with ⟨e, hanswer, hinner⟩ | ⟨d, hd, hanswer, hinner⟩
  · have hsame : (drawFullscreen b).2.inner.commands = b.inner.commands ++ [] := by
      rw [hinner, List.append_nil]
    refine h.quiet .drawFullscreen (fun q hq => hinner.symm ▸ h.wired q hq) ?_ hsame
      fun _ hno => nomatch hno
    rw [show (Backend.perform .drawFullscreen b).1 = _ from hanswer]
    rfl
  · have hhistory : (drawFullscreen b).2.history = b.history ++ [⟨.drawFullscreen, .ok ()⟩] := by
      rw [← hanswer]
      exact Faulty.history_perform .drawFullscreen b
    refine h.step .drawFullscreen (fun q hq => hinner.symm ▸ h.wired q hq)
      (congrArg Recorder.commands hinner) ?_ fun before d' after heq => ?_
    · rw [show (Backend.perform .drawFullscreen b).1 = _ from hanswer]
      rfl
    · rcases List.append_eq_singleton_iff.1 heq.symm with ⟨rfl, hone⟩ | ⟨-, hone⟩
      · cases hone
        rw [List.append_nil]
        exact ⟨⟨hhistory ▸ List.prefix_refl _, h.counted⟩, hlive d hd⟩
      · cases hone

end Watched

/-! ## Working with a pass -/

namespace Gpu

theorem Recorder.perform_textures {r : Recorder fe} (h : call.keepsObjects) :
    (Recorder.perform call r).2.objects.textures = r.objects.textures := by
  have hchanged := r.perform_changed call
  generalize (Recorder.perform call r).2.objects = o at hchanged ⊢
  cases hchanged with
  | createTexture | destroyTexture => exact h.elim
  | bindTexture unit t => cases t <;> rfl
  | _ => rfl

theorem Faulty.perform_textures (h : call.keepsObjects) :
    (Backend.perform call b).2.inner.objects.textures = b.inner.objects.textures := by
  rcases Faulty.inner_perform call b with hinner | hinner <;> rw [hinner]
  exact Recorder.perform_textures h

theorem Objects.get?_bindTexture {π : Type} (o : Objects π) (unit unit' : UInt32)
    (t : Option TextureId) :
    (o.bindTexture unit t).units.get? unit'
      = if unit' = unit then t else o.units.get? unit' := by
  cases t with
  | none => exact Dict.get?_erase _ _ _
  | some t => exact Dict.get?_insert _ _ _ _

/-- What is attached at a slot once a texture is attached there, or taken off. -/
theorem Targets.get?_attach (targets : Targets) (slot slot' : UInt32) (t : Option TextureId) :
    (targets.attach slot t).attachments.get? slot'
      = if slot' = slot then t else targets.attachments.get? slot' := by
  cases t with
  | none => exact Dict.get?_erase _ _ _
  | some t => exact Dict.get?_insert _ _ _ _

/-- A texture that is attached is live. -/
theorem Objects.attachColor_parts {π : Type} {o o' : Objects π} {f : FramebufferId}
    {slot : UInt32} {texture : Option TextureId} (h : o.attachColor f slot texture = .ok o') :
    ∃ targets, o.framebuffers.get? f = some targets ∧
      o' = o.setTargets f (targets.attach slot texture) ∧
      ∀ t, texture = some t → o.textures.contains t := by
  rw [attachColor_eq] at h
  cases hattachable : o.attachable texture with
  | error e => rw [hattachable] at h; cases h
  | ok _ =>
    rw [hattachable] at h
    cases htargets : o.framebuffers.get? f with
    | none => simp only [framebuffer, htargets] at h; cases h
    | some targets =>
      simp only [framebuffer, htargets] at h
      cases h
      refine ⟨targets, rfl, rfl, fun t ht => ?_⟩
      subst ht
      cases hinfo : o.textures.get? t with
      | none => simp only [attachable, texture, hinfo] at hattachable; cases hattachable
      | some info => exact contains_of_get? hinfo

/-- A step of the objects that was not refused. -/
theorem Faulty.update_ok (call : Call .done)
    {step : Objects RecordedProgram → Except Error (Objects RecordedProgram)}
    (hcall : ∀ r : Recorder fe, Backend.perform call r = attempt (fun r => r.update step) r)
    (h : (Backend.perform call b).1 = .ok ()) :
    step b.inner.objects = .ok (Backend.perform call b).2.inner.objects := by
  rcases Faulty.perform_cases call b with ⟨r, answer, hrefused, hanswer, -⟩ | ⟨hanswer, hinner⟩
  · cases hanswer.symm.trans h
    cases call <;> cases hrefused
  · have hok := hanswer.symm.trans h
    have hafter : (Backend.perform call b).2.inner = (Backend.perform call b.inner).2 := hinner
    rw [hafter]
    rw [hcall] at hok ⊢
    cases hstep : step b.inner.objects with
    | error e => rw [Recorder.attempt_error hstep] at hok; cases hok
    | ok o => rw [Recorder.attempt_ok hstep]

theorem Faulty.perform_aims (h : call.aims) :
    (Backend.perform call b).2.inner.objects.programs = b.inner.objects.programs ∧
      (Backend.perform call b).2.inner.objects.units = b.inner.objects.units := by
  rcases Faulty.inner_perform call b with hinner | hinner <;> rw [hinner]
  · exact ⟨rfl, rfl⟩
  · obtain ⟨hprograms, -, hunits⟩ := Recorder.perform_aims (r := b.inner) call h
    exact ⟨hprograms, hunits⟩

/-- A call that cannot fail is performed. -/
theorem Faulty.inner_of_infallible (call : Call a) (h : ∀ r, call.refused r = none)
    (b : Faulty (Recorder fe)) :
    (Backend.perform call b).2.inner = (Backend.perform call b.inner).2 := by
  rcases Faulty.perform_cases call b with ⟨r, answer, hrefused, -⟩ | ⟨-, hinner⟩
  · rw [h r] at hrefused
    cases hrefused
  · exact hinner

end Gpu

/-- The backend is watched, and the textures of the cache are live. -/
structure Stocked (w : Watch) (cache : ImageCache) (b : Faulty (Recorder fe)) : Prop
    extends Watched w b where
  cached : ∀ id t, cache.texture? id = some t → b.inner.objects.textures.contains t

/-- One of the passes has its program in use. -/
structure Using (w : Watch) (cache : ImageCache) (p : Pass) (b : Faulty (Recorder fe)) : Prop
    extends Stocked w cache b where
  mine : w.passes p
  inUse : b.inner.objects.current = some p.program

/-- The first `n` units hold live textures or none. The samplers that are found in `done` have
been set to one of as many units, if no uniform was refused. -/
structure Supplying (w : Watch) (cache : ImageCache) (p : Pass) (n : Nat)
    (done : List (Option Location)) (b : Faulty (Recorder fe)) : Prop
    extends Using w cache p b where
  bound : ∀ j < n, ∀ t, b.inner.objects.units.get? (.ofNat j) = some t →
    b.inner.objects.textures.contains t
  steered : w.policy.Wires b.history → ∀ m, b.inner.objects.programs.get? p.program = some m →
    ∀ k < m.layout.samplers.length, some ⟨m.layout.uniforms.length + k⟩ ∈ done →
      ∃ j < done.length, m.unit k = .ofNat j

/-- The samplers that the pass has in hand read live textures or none. -/
structure Reading (w : Watch) (cache : ImageCache) (p : Pass) (b : Faulty (Recorder fe)) : Prop
    extends Using w cache p b where
  sampled : ∀ m, b.inner.objects.programs.get? p.program = some m →
    ∀ k < m.layout.samplers.length, p.Guards w.policy b.history m.layout k →
      ∀ t, b.inner.objects.units.get? (m.unit k) = some t → b.inner.objects.textures.contains t

/-- What a draw would attach is live. -/
structure Targeted (w : Watch) (cache : ImageCache) (p : Pass) (b : Faulty (Recorder fe)) : Prop
    extends Reading w cache p b where
  attached : ∀ as, Recorder.attachments b.inner.objects = .ok as →
    ∀ t ∈ as, b.inner.objects.textures.contains t.2

theorem Stocked.keep (h : Stocked w cache b) (call : Call a) (hcall : call.keepsObjects)
    (hwatched : Watched w (Backend.perform call b).2) :
    Stocked w cache (Backend.perform call b).2 :=
  ⟨hwatched, fun id t ht => by
    rw [Faulty.perform_textures hcall]
    exact h.cached id t ht⟩

theorem Using.silent (h : Using w cache p b) (call : Call a) (hcall : call.silent)
    (hwatched : Watched w (Backend.perform call b).2) :
    Using w cache p (Backend.perform call b).2 := by
  have hkeeps : call.keepsObjects := by cases call <;> trivial
  refine ⟨h.toStocked.keep call hkeeps hwatched, h.mine, ?_⟩
  rcases Faulty.inner_perform call b with hinner | hinner <;> rw [hinner]
  · exact h.inUse
  · exact (Recorder.perform_silent hcall).2.trans h.inUse

/-! ### Uniforms and samplers -/

theorem Using.setUniforms (h : Using w cache p b) {ls : List (Option Location)}
    (hls : ls ⊆ p.uniforms) (vs : List (Option UniformValue)) :
    Using w cache p (Invocation.setUniforms ls vs b).2 := by
  fun_induction Invocation.setUniforms (σ := Faulty (Recorder fe)) ls vs generalizing b with
  | case1 l ls v vs ih =>
    have hl : some l ∈ p.uniforms := hls List.mem_cons_self
    have hset := h.toWatched.setUniform h.mine h.inUse l v (.inl hl)
    exact ih (h.silent (.setUniform l v) trivial hset)
      (fun _ hmem => hls (List.mem_cons_of_mem _ hmem))
  | case2 l ls v vs _ ih => exact ih h (fun _ hmem => hls (List.mem_cons_of_mem _ hmem))
  | case3 => exact h

namespace Supplying

variable {n : Nat} {done : List (Option Location)}

theorem start (h : Using w cache p b) : Supplying w cache p 0 [] b :=
  ⟨h, fun _ hj => absurd hj (Nat.not_lt_zero _),
    fun _ _ _ _ _ hmem => absurd hmem List.not_mem_nil⟩

/-- A sampler that the program does not have. -/
theorem skip (h : Supplying w cache p n done b) : Supplying w cache p n (done ++ [none]) b := by
  refine ⟨h.toUsing, h.bound, fun hwires m hm k hk hmem => ?_⟩
  obtain ⟨j, hj, hunit⟩ := h.steered hwires m hm k hk (by simpa using hmem)
  exact ⟨j, by rw [List.length_append]; omega, hunit⟩

/-- The next sampler is set to the unit of its number. -/
theorem setUniform (h : Supplying w cache p done.length done b) (l : Location)
    (hlt : done.length < max 1 p.samplers.length) :
    Supplying w cache p done.length (done ++ [some l])
      (Gpu.setUniform l (.int (UInt32.ofNat done.length).toInt32) b).2 := by
  let v : UniformValue := .int (UInt32.ofNat done.length).toInt32
  have hset := h.toWatched.setUniform h.mine h.inUse l v (.inr ⟨_, hlt, rfl⟩)
  refine ⟨h.toUsing.silent (.setUniform l v) trivial hset, ?_, ?_⟩
  · rcases Faulty.setUniform_objects l v b with hsame | hput
    · exact hsame.symm ▸ h.bound
    · rw [hput, Objects.put_eq]
      exact h.bound
  · intro hwires m' hm' k hk hmem
    -- the call is not refused, so the value is taken
    have hnone := Faulty.policy_of_wires hwires h.policy trivial
    have hwires := hwires.earlier (Faulty.prefix_history (.setUniform l v) b)
    rw [Faulty.setUniform_of_none hnone] at hm'
    rcases Objects.get?_put_cases hm' with ⟨hother, -⟩ | ⟨-, m, hm, rfl⟩
    · exact absurd h.inUse hother
    · rw [RecordedProgram.layout_take] at hk hmem
      rw [RecordedProgram.unit_take l v hk]
      by_cases hl : l = ⟨m.layout.uniforms.length + k⟩
      · refine ⟨done.length, by simp, ?_⟩
        simp only [v, hl, if_true, UInt32.toUInt32_toInt32]
      · have hmem' : some ⟨m.layout.uniforms.length + k⟩ ∈ done := by
          refine (List.mem_append.1 hmem).resolve_right fun hlast => hl ?_
          exact (Option.some.inj (List.mem_singleton.1 hlast)).symm
        obtain ⟨j, hj, hunit⟩ := h.steered hwires m hm k hk hmem'
        refine ⟨j, by rw [List.length_append]; omega, ?_⟩
        simp only [v, hl, if_false, hunit]

/-- The next unit gets a texture that is live, or none. -/
theorem bindTexture (h : Supplying w cache p n done b) {t : Option TextureId}
    (ht : ∀ x, t = some x → b.inner.objects.textures.contains x) :
    Supplying w cache p (n + 1) done (Gpu.bindTexture (.ofNat n) t b).2 := by
  have hinner : (Gpu.bindTexture (.ofNat n) t b).2.inner
      = b.inner.rebind fun o => o.bindTexture (.ofNat n) t :=
    Faulty.inner_of_infallible (.bindTexture (.ofNat n) t) (fun _ => rfl) b
  refine ⟨h.toUsing.silent (.bindTexture (.ofNat n) t) trivial (h.toWatched.plain _ trivial),
    ?_, ?_⟩
  · intro j hj x hx
    rw [hinner] at hx ⊢
    have hlive : b.inner.objects.textures.contains x := by
      rw [Recorder.rebind, Objects.get?_bindTexture] at hx
      split at hx
      · exact ht x hx
      · next hne =>
        exact h.bound j (Nat.lt_of_le_of_ne (Nat.le_of_lt_succ hj) fun hjn => hne (hjn ▸ rfl)) x hx
    cases t <;> exact hlive
  · intro hwires
    have hold := h.steered (hwires.earlier (Faulty.prefix_history _ b))
    rw [hinner]
    cases t <;> exact hold

/-- Once all samplers are set and all units are bound, each sampler that is found in the list
reads one of the units, if no uniform was refused. -/
theorem bindSamplers (i : Invocation) (ls : List (Option Location))
    (h : Supplying w cache p done.length done b)
    (hlength : (done ++ ls).length ≤ p.samplers.length) :
    Supplying w cache p (done ++ ls).length (done ++ ls)
      (i.bindSamplers cache done.length ls b).2 := by
  induction ls generalizing done b with
  | nil =>
    rw [List.append_nil]
    exact h
  | cons l ls ih =>
    rw [List.append_cons] at hlength ⊢
    have hnext : done.length + 1 = (done ++ [l]).length := by simp
    have hlt : done.length < p.samplers.length := by
      rw [List.length_append, ← hnext] at hlength
      omega
    -- what is left to do, once the sampler is set
    have hrest {b : Faulty (Recorder fe)} (h : Supplying w cache p done.length (done ++ [l]) b) :
        Supplying w cache p (done ++ [l] ++ ls).length (done ++ [l] ++ ls)
          (i.bindSamplers cache (done.length + 1) ls
            (Gpu.bindTexture (.ofNat done.length)
              (Invocation.samplerTexture cache i done.length) b).2).2 := by
      have hbound := h.bindTexture (t := Invocation.samplerTexture cache i done.length)
        fun x hx => by
          obtain ⟨image, -, himage⟩ := Option.bind_eq_some_iff.1 hx
          exact h.cached _ x himage
      rw [hnext] at hbound ⊢
      exact ih hbound hlength
    cases l with
    | none => exact hrest h.skip
    | some l => exact hrest (h.setUniform l (Nat.lt_of_lt_of_le hlt (Nat.le_max_right _ _)))

/-- With all samplers set and all units bound, the samplers in hand read what is live. -/
theorem reading (h : Supplying w cache p p.samplers.length p.samplers b) :
    Reading w cache p b := by
  refine ⟨h.toUsing, fun m hm k hk hguards t ht => ?_⟩
  have hunit : ∃ j < p.samplers.length, m.unit k = .ofNat j := by
    rcases hguards with ⟨hsome, hfree⟩ | ⟨hwires, hset⟩
    · obtain ⟨j, hj, hunit⟩ := (h.wired p h.mine).reads m hm k hk hfree
      have hpos := List.length_pos_of_ne_nil hsome
      exact ⟨j, by omega, hunit⟩
    · exact h.steered hwires m hm k hk hset
  obtain ⟨j, hj, hunit⟩ := hunit
  rw [hunit] at ht
  exact h.bound j hj t ht

end Supplying

/-- Once the samplers are bound, those in hand read what is live. -/
theorem Using.bindSamplers (h : Using w cache p b) (i : Invocation) :
    Reading w cache p (i.bindSamplers cache 0 p.samplers b).2 := by
  have hstart : Supplying w cache p ([] : List (Option Location)).length [] b := .start h
  have hbound := hstart.bindSamplers i p.samplers (Nat.le_refl _)
  exact hbound.reading

/-! ### Attachments -/

/-- A call that leaves programs and units alone leaves alone what the samplers read. -/
theorem Reading.silent (h : Reading w cache p b) (call : Call a) (hsilent : call.silent)
    (hplain : call.plain)
    (hprograms : (Backend.perform call b).2.inner.objects.programs = b.inner.objects.programs)
    (hunits : (Backend.perform call b).2.inner.objects.units = b.inner.objects.units) :
    Reading w cache p (Backend.perform call b).2 := by
  have hkeeps : call.keepsObjects := by cases call <;> trivial
  refine ⟨h.toUsing.silent call hsilent (h.toWatched.plain call hplain),
    fun m hm k hk hguards t ht => ?_⟩
  have hguards := hguards.earlier (Faulty.prefix_history call b)
  rw [hprograms] at hm
  rw [hunits] at ht
  rw [Faulty.perform_textures hkeeps]
  exact h.sampled m hm k hk hguards t ht

/-- Aiming a draw does. -/
theorem Reading.aim (h : Reading w cache p b) (call : Call a) (haims : call.aims) :
    Reading w cache p (Backend.perform call b).2 := by
  obtain ⟨hprograms, hunits⟩ := Faulty.perform_aims (b := b) haims
  refine h.silent call ?_ ?_ hprograms hunits <;>
    cases call <;> first | exact haims.elim | trivial

/-- The textures attached at these slots are live. -/
def Attaches (f : FramebufferId) (slots : List UInt32) (o : Objects RecordedProgram) : Prop :=
  ∀ targets, o.framebuffers.get? f = some targets → ∀ slot ∈ slots, ∀ t,
    targets.attachments.get? slot = some t → o.textures.contains t

/-- Only what is live can be attached. -/
theorem Attaches.attachColor {o o' : Objects RecordedProgram} {f : FramebufferId} {slot : UInt32}
    {texture : Option TextureId} {slots : List UInt32} (h : Attaches f slots o)
    (hattached : o.attachColor f slot texture = .ok o') : Attaches f (slot :: slots) o' := by
  obtain ⟨targets, htargets, rfl, hlive⟩ := Objects.attachColor_parts hattached
  intro targets' htargets' slot' hslot' t ht
  rw [Objects.setTargets, Dict.get?_insert, if_pos rfl] at htargets'
  cases htargets'
  rw [Targets.get?_attach] at ht
  split at ht
  · exact hlive t ht
  · next hne => exact h targets htargets slot' (List.mem_of_ne_of_mem hne hslot') t ht

/-- Unless an attachment fails, what is attached is live. -/
theorem Reading.attachAll (h : Reading w cache p b) {done : List UInt32}
    (hdone : Attaches p.framebuffer done b.inner.objects)
    (slots : List (UInt32 × Option TextureId)) :
    Reading w cache p (Invocation.attachAll p.framebuffer slots b).2 ∧
      ((Invocation.attachAll p.framebuffer slots b).1 = .ok () →
        Attaches p.framebuffer ((slots.map Prod.fst).reverse ++ done)
          (Invocation.attachAll p.framebuffer slots b).2.inner.objects) := by
  induction slots generalizing done b with
  | nil => exact ⟨h, fun _ => hdone⟩
  | cons slot slots ih =>
    have hread := h.aim (.attachColor p.framebuffer slot.1 slot.2) trivial
    simp only [Invocation.attachAll, run_bind]
    cases hanswer : (attachColor p.framebuffer slot.1 slot.2 b).1 with
    | error e => exact ⟨hread, fun hok => by cases hok⟩
    | ok _ =>
      have hattached := hdone.attachColor (Faulty.update_ok _ (fun _ => rfl) hanswer)
      rw [List.map_cons, List.reverse_cons, List.append_assoc]
      exact ih hread hattached

/-! ### The draw -/

/-- A framebuffer that draws to slots with live textures is bound. -/
theorem Reading.bindTarget (h : Reading w cache p b)
    (hdrawn : ∀ targets, b.inner.objects.framebuffers.get? p.framebuffer = some targets →
      ∀ t ∈ targets.drawn, b.inner.objects.textures.contains t.2) :
    Targeted w cache p (bindFramebuffer (some p.framebuffer) b).2 := by
  have hinner : (bindFramebuffer (some p.framebuffer) b).2.inner
      = b.inner.rebind fun o => { o with bound := some p.framebuffer } :=
    Faulty.inner_of_infallible (.bindFramebuffer (some p.framebuffer)) (fun _ => rfl) b
  refine ⟨h.aim (.bindFramebuffer (some p.framebuffer)) trivial, fun as has => ?_⟩
  rw [hinner] at has ⊢
  rcases Recorder.attachments_ok has with ⟨hno, -⟩ | ⟨f, targets, hf, htargets, rfl⟩
  · cases hno
  · cases hf
    exact hdrawn targets htargets

/-- The size and the blending have no part in what is attached. -/
theorem Targeted.setViewport (h : Targeted w cache p b) (size : Extent) :
    Targeted w cache p (Gpu.setViewport size b).2 := by
  refine ⟨h.aim (.setViewport size) trivial, ?_⟩
  rw [Gpu.setViewport, Faulty.inner_of_infallible _ (fun _ => rfl)]
  exact h.attached

theorem Targeted.setBlend (h : Targeted w cache p b) (blend : BlendState) :
    Targeted w cache p (Gpu.setBlend blend b).2 := by
  refine ⟨h.aim (.setBlend blend) trivial, ?_⟩
  rw [Gpu.setBlend, Faulty.inner_of_infallible _ (fun _ => rfl)]
  exact h.attached

/-- What would be drawn now uses what is live. -/
theorem Targeted.usesLive (h : Targeted w cache p b) {d : Draw}
    (hd : Recorder.currentDraw b.inner.objects = .ok d) :
    d.UsesLive fe w.policy b.history w.passes (Live.ofRecord b.inner.commands) := by
  obtain ⟨hframebuffer, has, hcurrent, m, hm, hsamplers⟩ := Recorder.currentDraw_parts hd
  have hprogram : p.program = d.program := Option.some.inj (h.inUse.symm.trans hcurrent)
  have hwired := h.wired p h.mine
  refine ⟨?_, fun f hf => ?_, fun t ht => ?_, p, h.mine, hprogram, hwired.built, ?_⟩
  · exact (h.tallied.programs _).2 (Objects.contains_of_get? hm)
  · rw [hframebuffer] at hf
    rcases Recorder.attachments_ok has with ⟨hno, -⟩ | ⟨f', targets, hf', htargets, -⟩
    · rw [hno] at hf
      cases hf
    · obtain rfl : f' = f := Option.some.inj (hf'.symm.trans hf)
      exact (h.tallied.framebuffers f').2 (Objects.contains_of_get? htargets)
  · exact (h.tallied.textures _).2 (h.attached _ has t ht)
  · intro desc declarations layout hbuilt hdeclares hclear t ht
    rw [← hprogram] at hm
    obtain rfl : m.layout = layout :=
      Except.ok.inj ((hwired.compiled m hm).symm.trans hbuilt.compiles)
    rw [hsamplers] at ht
    obtain ⟨k, hk, hunit⟩ := List.mem_map.1 ht
    have hk := List.mem_range.1 hk
    exact (h.tallied.textures t).2
      (h.sampled m hm k hk (hbuilt.guards hdeclares hclear hk) t hunit)

theorem Targeted.draw (h : Targeted w cache p b) : Stocked w cache (drawFullscreen b).2 :=
  h.toStocked.keep .drawFullscreen trivial (h.toWatched.draw fun _ hd => h.usesLive hd)

/-- All slots that are drawn to have live textures. -/
theorem Attaches.setDrawBuffers {o o' : Objects RecordedProgram} {f : FramebufferId}
    {slots slots' : List UInt32} (h : Attaches f slots o) (hslots : slots' ⊆ slots)
    (hset : o.setDrawBuffers f slots' = .ok o') :
    ∀ targets, o'.framebuffers.get? f = some targets →
      ∀ t ∈ targets.drawn, o'.textures.contains t.2 := by
  cases htargets : o.framebuffers.get? f with
  | none =>
    rw [Objects.setDrawBuffers_of_none htargets] at hset
    cases hset
  | some targets =>
    rw [Objects.setDrawBuffers_of_some htargets] at hset
    cases hset
    intro targets' htargets' t ht
    rw [Objects.setTargets, Dict.get?_insert, if_pos rfl] at htargets'
    cases htargets'
    obtain ⟨slot, hslot, hattached⟩ := List.mem_filterMap.1 ht
    obtain ⟨x, hx, rfl⟩ := Option.map_eq_some_iff.1 hattached
    exact h targets htargets slot (hslots hslot) x hx

/-! ## Invocations -/

/-- A pass of the table is taken into use, unless that fails. -/
theorem Stocked.useProgram (h : Stocked w cache b) (hp : w.passes p)
    (hok : (useProgram p.program b).1 = .ok ()) :
    Using w cache p (Gpu.useProgram p.program b).2 := by
  have hused := Objects.useProgram_ok
    (Faulty.update_ok (.useProgram p.program) (fun _ => rfl) hok)
  refine ⟨h.keep (.useProgram p.program) trivial (h.toWatched.plain _ trivial), hp, ?_⟩
  rw [Gpu.useProgram, hused]

namespace Invocation

variable {q : DrawPlan}

theorem stocked_drawInto (h : Reading w cache q.pass b)
    (hdrawn : ∀ targets, b.inner.objects.framebuffers.get? q.pass.framebuffer = some targets →
      ∀ t ∈ targets.drawn, b.inner.objects.textures.contains t.2) :
    Stocked w cache (drawInto q b).2 := by
  have haimed := ((h.bindTarget hdrawn).setViewport q.size).setBlend q.pass.blendMode.state
  exact haimed.draw.keep (.bindFramebuffer none) trivial
    (haimed.draw.toWatched.plain _ trivial)

theorem stocked_render (h : Reading w cache q.pass b) :
    Stocked w cache (render q b).2 := by
  have hnone : Attaches q.pass.framebuffer [] b.inner.objects :=
    fun _ _ _ hslot => absurd hslot List.not_mem_nil
  obtain ⟨hread, hattached⟩ := h.attachAll hnone q.slots
  simp only [render, run_bind]
  cases hanswer : (attachAll q.pass.framebuffer q.slots b).1 with
  | error e => exact hread.toStocked
  | ok _ =>
    let slots := q.targets.map Prod.fst
    have hslots : slots ⊆ (q.slots.map Prod.fst).reverse ++ [] := fun slot hslot => by
      simp only [List.append_nil, List.mem_reverse, DrawPlan.slots, List.map_append, List.map_map]
      exact List.mem_append_left _ hslot
    have hread' := hread.aim (.setDrawBuffers q.pass.framebuffer slots) trivial
    simp only [run_bind]
    cases hanswer' : (setDrawBuffers q.pass.framebuffer slots
        (attachAll q.pass.framebuffer q.slots b).2).1 with
    | error e => exact hread'.toStocked
    | ok _ =>
      exact stocked_drawInto hread' ((hattached hanswer).setDrawBuffers hslots
        (Faulty.update_ok _ (fun _ => rfl) hanswer'))

theorem stocked_carryOut (h : Stocked w cache b) (i : Invocation) (hp : w.passes q.pass) :
    Stocked w cache (i.carryOut cache q b).2 := by
  simp only [carryOut, run_bind]
  cases hanswer : (useProgram q.pass.program b).1 with
  | error e =>
    exact h.keep (.useProgram q.pass.program) trivial (h.toWatched.plain _ trivial)
  | ok _ =>
    have hset := (h.useProgram hp hanswer).setUniforms (List.Subset.refl _) i.uniforms
    exact stocked_render (hset.bindSamplers i)

theorem stocked_invoke {passes : PassTable} (h : Stocked w cache b) (i : Invocation)
    (hpasses : ∀ name p, passes.get? name = some p → w.passes p) :
    Stocked w cache (i.invoke passes cache b).2 := by
  unfold invoke
  cases hplan : plan passes cache i with
  | error e => exact h
  | ok q => exact stocked_carryOut h i (hpasses _ _ (plan_pass hplan))

end Invocation

/-- The draws of a frame use what is live. -/
theorem stocked_invokeAll {passes : PassTable} (h : Stocked w cache b)
    (hpasses : ∀ name p, passes.get? name = some p → w.passes p) (is : List Invocation)
    (report : FrameReport) : Stocked w cache (invokeAll passes cache is report b).2 := by
  induction is generalizing b report with
  | nil => exact h
  | cons i is ih => exact ih (Invocation.stocked_invoke h i hpasses) _

/-! ## The display image -/

namespace Present

/-- With the surface bound, the display image is drawn if it is live. -/
theorem stocked_draw (h : Supplying w cache p 0 p.samplers b) (hone : p.samplers.length = 1)
    (hsurface : b.inner.objects.bound = none) {display : TextureId}
    (hdisplay : b.inner.objects.textures.contains display) :
    Stocked w cache (draw p display b).2 := by
  have hinner : (bindTexture 0 (some display) b).2.inner
      = b.inner.rebind fun o => o.bindTexture 0 (some display) :=
    Faulty.inner_of_infallible (.bindTexture 0 (some display)) (fun _ => rfl) b
  have hbound : Supplying w cache p 1 p.samplers (bindTexture 0 (some display) b).2 :=
    h.bindTexture (t := some display) (by rintro _ ⟨⟩; exact hdisplay)
  have haimed : Targeted w cache p (bindTexture 0 (some display) b).2 := by
    rw [← hone] at hbound
    refine ⟨hbound.reading, fun as has => ?_⟩
    rw [hinner] at has
    rcases Recorder.attachments_ok has with ⟨-, rfl⟩ | ⟨f, -, hf, -⟩
    · exact fun t ht => absurd ht List.not_mem_nil
    · cases hsurface.symm.trans hf
  have hsized : Targeted w cache p (surfaceSize (bindTexture 0 (some display) b).2).2 := by
    have hsame := Faulty.inner_of_infallible .surfaceSize (fun _ => rfl)
      (bindTexture 0 (some display) b).2
    refine ⟨haimed.toReading.silent .surfaceSize trivial trivial ?_ ?_, ?_⟩
    · rw [hsame]
      rfl
    · rw [hsame]
      rfl
    · rw [surfaceSize, hsame]
      exact haimed.attached
  exact ((hsized.setViewport _).setBlend _).draw

/-- Showing an image of the cache, with a pass that has one sampler. -/
theorem stocked_composite (h : Stocked w cache b) (hp : w.passes p)
    (hone : p.samplers.length = 1) {id : UInt32} {display : TextureId}
    (hdisplay : cache.texture? id = some display) :
    Stocked w cache (composite p display b).2 := by
  have hstocked : Stocked w cache (bindFramebuffer none b).2 :=
    h.keep (.bindFramebuffer none) trivial (h.toWatched.plain _ trivial)
  have hsurface : (bindFramebuffer none b).2.inner.objects.bound = none :=
    congrArg (fun r : Recorder fe => r.objects.bound)
      (Faulty.inner_of_infallible (.bindFramebuffer none) (fun _ => rfl) b)
  simp only [composite, run_bind]
  generalize (bindFramebuffer none b).2 = b at hstocked hsurface
  cases hanswer : (useProgram p.program b).1 with
  | error e =>
    exact hstocked.keep (.useProgram p.program) trivial (hstocked.toWatched.plain _ trivial)
  | ok _ =>
    have hused := hstocked.useProgram hp hanswer
    have hsurface' : (useProgram p.program b).2.inner.objects.bound = none := by
      rw [useProgram, Objects.useProgram_ok
        (Faulty.update_ok (.useProgram p.program) (fun _ => rfl) hanswer)]
      exact hsurface
    dsimp only
    generalize (useProgram p.program b).2 = b at hused hsurface'
    obtain ⟨l, hl⟩ := List.length_eq_one_iff.1 hone
    rw [hl]
    cases l with
    | none =>
      have hskipped : Supplying w cache p 0 p.samplers b := hl ▸ (Supplying.start hused).skip
      exact stocked_draw hskipped hone hsurface' (hused.cached id display hdisplay)
    | some location =>
      have hstart : Supplying w cache p ([] : List (Option Location)).length [] b := .start hused
      have hset : Supplying w cache p 0 p.samplers (setUniform location (.int 0) b).2 :=
        hl ▸ hstart.setUniform location (Nat.lt_of_lt_of_le Nat.one_pos (Nat.le_max_left _ _))
      have hsurface'' : (setUniform location (.int 0) b).2.inner.objects.bound = none := by
        rcases Faulty.setUniform_objects location (.int 0) b with hsame | hput
        · rw [hsame]
          exact hsurface'
        · rw [hput, Objects.put_eq]
          exact hsurface'
      dsimp only [List.head?_cons]
      simp only [run_bind]
      cases (setUniform location (.int 0) b).1 with
      | error e => exact hset.toStocked
      | ok _ => exact stocked_draw hset hone hsurface'' (hset.cached id display hdisplay)

end Present
end FrameGraph
