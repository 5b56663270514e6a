import FrameGraph.Proofs.Frame.SideBySide
import FrameGraph.Proofs.Pass.Sparing

/-!
# Invocations on two recorders, one of which shows images

An invocation of a pass that is not the one that shows images does the same on both
recorders. What it does not bind itself may be bound differently on the two, since one of
them shows images in between; as long as every sampler of the program is bound by its pass,
no draw depends on that.

Results:
* `Framed`: two recorders in a frame, where programs keep their interfaces.
* `Sharing`: both have the same program in use, and read the same textures.
* `framed_invokeAll`: the invocations of a frame have the same report on both.
-/
namespace FrameGraph

open Gpu
open Program (Layout Location)

namespace Gpu

variable {fe : Program.FrontEnd} {shown : Pass} {cs cs' : List Command} {r r' q q' : Recorder fe}
  {L : ProgramId → Option Layout} {a : Answer} {call : Call a}

/-! ## What programs and bindings are left alone -/

/-- The interfaces of the live programs. -/
def Objects.layouts (o : Objects RecordedProgram) (p : ProgramId) : Option Layout :=
  (o.programs.get? p).map RecordedProgram.layout

/-- A call that neither compiles nor deletes a program. -/
def Call.keepsPrograms : {a : Answer} → Call a → Prop
  | _, .compileProgram _ | _, .deleteProgram _ => False
  | _, _ => True

/-- A call that prepares a draw, but sets no uniform and binds no texture or program. -/
def Call.aims : {a : Answer} → Call a → Prop
  | _, .attachColor .. | _, .setDrawBuffers .. | _, .bindFramebuffer _ | _, .setViewport _
  | _, .setBlend _ => True
  | _, _ => False

theorem Objects.layouts_setProgram {o : Objects RecordedProgram} {p : ProgramId}
    {old : RecordedProgram} (h : o.programs.get? p = some old) (uniforms : Dict Nat UniformValue) :
    (o.setProgram p { old with uniforms }).layouts = o.layouts := by
  funext q
  simp only [layouts, setProgram, Dict.get?_insert]
  split
  · next hq => rw [hq, h]; rfl
  · rfl

theorem Recorder.perform_layouts (call : Call a) (h : call.keepsPrograms) :
    (perform call r).2.objects.layouts = r.objects.layouts := by
  have hchanged := r.perform_changed call
  generalize (perform call r).2.objects = o at hchanged ⊢
  cases hchanged with
  | compileProgram | deleteProgram => exact h.elim
  | setUniform l v p old _ live uniforms => exact Objects.layouts_setProgram live uniforms
  | bindTexture unit t => cases t <;> rfl
  | _ => rfl

theorem Recorder.perform_aims (call : Call a) (h : call.aims) :
    (perform call r).2.objects.programs = r.objects.programs ∧
      (perform call r).2.objects.current = r.objects.current ∧
      (perform call r).2.objects.units = r.objects.units := by
  have hchanged := r.perform_changed call
  generalize (perform call r).2.objects = o at hchanged ⊢
  cases hchanged with
  | same | attachColor | setDrawBuffers | bindFramebuffer | setViewport | setBlend =>
    exact ⟨rfl, rfl, rfl⟩
  | _ => exact h.elim

/-- Only a live program is put in use. -/
theorem Recorder.useProgram_ok {p : ProgramId} (h : (Gpu.useProgram p r).1 = .ok ()) :
    (∃ m, r.objects.programs.get? p = some m) ∧
      (Gpu.useProgram p r).2.objects.current = some p := by
  have huse : Gpu.useProgram p r
      = attempt (fun r : Recorder fe => r.update fun o => o.useProgram p) r := rfl
  rw [huse] at h ⊢
  cases hm : r.objects.programs.get? p with
  | none =>
    rw [attempt_error (Objects.useProgram_of_none hm)] at h
    cases h
  | some m =>
    rw [attempt_ok (Objects.useProgram_of_some hm)]
    exact ⟨⟨m, rfl⟩, rfl⟩

/-! ## Frames -/

/-- Two recorders in a frame: the programs on the first one have these interfaces. -/
structure Framed (shown : Pass) (L : ProgramId → Option Layout) (cs cs' : List Command)
    (r r' : Recorder fe) : Prop extends Alongside shown cs cs' r r' where
  layouts : r.objects.layouts = L

theorem Framed.perform (h : Framed shown L cs cs' r r') (call : Call a)
    (hcall : call.spares shown) (hkeeps : call.keepsPrograms) :
    (Backend.perform call r).1 = (Backend.perform call r').1 ∧
      Framed shown L cs cs' (Backend.perform call r).2 (Backend.perform call r').2 := by
  obtain ⟨hsame, halong⟩ := h.toAlongside.perform call hcall
  exact ⟨hsame, halong, (Recorder.perform_layouts call hkeeps).trans h.layouts⟩

/-- The program is in use on both sides. The first `n` texture units have the same textures,
and each sampler of `K` reads one of the first `n'` units. -/
structure Sharing (shown : Pass) (L : ProgramId → Option Layout) (cs cs' : List Command)
    (p : ProgramId) (n n' : Nat) (K : Nat → Prop) (r r' : Recorder fe) : Prop
    extends Framed shown L cs cs' r r' where
  other : p ≠ shown.program
  left : r.objects.current = some p
  right : r'.objects.current = some p
  units : ∀ j < n, r.objects.units.get? (.ofNat j) = r'.objects.units.get? (.ofNat j)
  reads : ∀ k, K k → ∀ m, r.objects.programs.get? p = some m → ∃ j < n', m.unit k = .ofNat j

namespace Sharing

variable {p : ProgramId} {n n' : Nat} {K : Nat → Prop} {layout : Layout}

theorem aim (h : Sharing shown L cs cs' p n n' K r r') (call : Call a)
    (hcall : call.spares shown) (haims : call.aims) :
    (Backend.perform call r).1 = (Backend.perform call r').1 ∧
      Sharing shown L cs cs' p n n' K (Backend.perform call r).2
        (Backend.perform call r').2 := by
  have hkeeps : call.keepsPrograms := by cases call <;> trivial
  obtain ⟨hsame, hframed⟩ := h.toFramed.perform call hcall hkeeps
  obtain ⟨hprograms, hcurrent, hunits⟩ := Recorder.perform_aims (r := r) call haims
  obtain ⟨-, hcurrent', hunits'⟩ := Recorder.perform_aims (r := r') call haims
  refine ⟨hsame, hframed, h.other, hcurrent.trans h.left, hcurrent'.trans h.right,
    fun j hj => ?_, fun k hk m hm => ?_⟩
  · show (Recorder.perform call r).2.objects.units.get? _
      = (Recorder.perform call r').2.objects.units.get? _
    rw [hunits, hunits', h.units j hj]
  · refine h.reads k hk m ?_
    rw [← hprograms]
    exact hm

/-- A uniform is set on both sides. Besides those of `K`, the samplers whose unit is set then
read one of the first units. -/
theorem setUniform (h : Sharing shown L cs cs' p n n' K r r')
    (hlayout : L p = some layout) (l : Location) (v : UniformValue) {K' : Nat → Prop}
    (hK : ∀ k, K' k → k < layout.samplers.length ∧
      ((l = ⟨layout.uniforms.length + k⟩ ∧ ∃ j < n', v = .int (UInt32.ofNat j).toInt32) ∨
        (K k ∧ ∀ i, v = .int i → l ≠ ⟨layout.uniforms.length + k⟩))) :
    Sharing shown L cs cs' p n n' K' (Gpu.setUniform l v r).2 (Gpu.setUniform l v r').2 := by
  obtain ⟨-, halong⟩ := h.toAlongside.setUniform h.other h.left h.right l v
  have hobjects : ∀ q : Recorder fe, (Gpu.setUniform l v q).2.objects = q.objects.put l v :=
    fun q => (Staged.sets (σ := Recorder fe) l v trivial).1
  have hlayouts : (Gpu.setUniform l v r).2.objects.layouts = r.objects.layouts :=
    Recorder.perform_layouts (.setUniform l v) trivial
  refine ⟨⟨halong, hlayouts.trans h.layouts⟩, h.other, ?_, ?_, fun j hj => ?_,
    fun k hk m' hm' => ?_⟩
  · rw [hobjects, Objects.put_eq]
    exact h.left
  · rw [hobjects, Objects.put_eq]
    exact h.right
  · rw [hobjects, hobjects, Objects.put_eq, Objects.put_eq l v r'.objects]
    exact h.units j hj
  · obtain ⟨m, hm, hmlayout⟩ : ∃ m, r.objects.programs.get? p = some m ∧ m.layout = layout := by
      rw [← h.layouts] at hlayout
      exact Option.map_eq_some_iff.1 hlayout
    obtain ⟨hlt, hsampler⟩ := hK k hk
    subst hmlayout
    rw [hobjects, Objects.get?_put l v h.left hm, if_pos rfl] at hm'
    cases hm'
    show ∃ j < n', ((RecordedProgram.take l v m).getD m).unit k = _
    rw [RecordedProgram.unit_take l v hlt]
    rcases hsampler with ⟨hl, j, hj, rfl⟩ | ⟨hk, hother⟩
    · refine ⟨j, hj, ?_⟩
      simp only [hl, if_true, UInt32.toUInt32_toInt32]
    · cases v with
      | int i =>
        simp only [hother i rfl, if_false]
        exact h.reads k hk m hm
      | _ => exact h.reads k hk m hm

theorem widen (h : Sharing shown L cs cs' p n n' K r r') {n'' : Nat} (hn : n' ≤ n'') :
    Sharing shown L cs cs' p n n'' K r r' := by
  refine ⟨h.toFramed, h.other, h.left, h.right, h.units, fun k hk m hm => ?_⟩
  obtain ⟨j, hj, hunit⟩ := h.reads k hk m hm
  exact ⟨j, by omega, hunit⟩

/-- The next unit is bound on both sides. -/
theorem bindTexture (h : Sharing shown L cs cs' p n n' K r r') (t : Option TextureId) :
    Sharing shown L cs cs' p (n + 1) n' K (Gpu.bindTexture (.ofNat n) t r).2
      (Gpu.bindTexture (.ofNat n) t r').2 := by
  have hcall : (Call.bindTexture (.ofNat n) t).spares shown := trivial
  obtain ⟨-, hframed⟩ := h.toFramed.perform (.bindTexture (.ofNat n) t) hcall trivial
  refine ⟨hframed, h.other, ?_, ?_, units_bindTexture h.units t, ?_⟩
  · cases t <;> exact h.left
  · cases t <;> exact h.right
  · cases t <;> exact h.reads

/-- With the targets bound, all is the same for the next draw. -/
theorem aligned (h : Sharing shown L cs cs' p n n K r r') (hlayout : L p = some layout)
    (hK : ∀ k < layout.samplers.length, K k) {f : FramebufferId} (hf : f ≠ shown.framebuffer)
    (hbound : r.objects.bound = some f) (hbound' : r'.objects.bound = some f)
    (hviewport : r.objects.viewport = r'.objects.viewport)
    (hblend : r.objects.blend = r'.objects.blend) : Aligned shown r.objects r'.objects := by
  refine ⟨h.lacking, hviewport, hblend, ⟨f, hf, hbound, hbound'⟩, p, h.other, h.left, h.right,
    fun m hm k hk => ?_⟩
  have hmlayout : m.layout = layout := by
    rw [← h.layouts, Objects.layouts, hm] at hlayout
    exact Option.some.inj hlayout
  obtain ⟨j, hj, hunit⟩ := h.reads k (hK k (hmlayout ▸ hk)) m hm
  rw [hunit]
  exact h.units j hj

end Sharing
end Gpu

/-! ## Requests -/

/-- A request has the same answer on both sides. -/
theorem framed_request {fe : Program.FrontEnd} {shown : Pass} {cs cs' : List Command}
    {L : ProgramId → Option Layout} (c : ImageCache) (r : ImageRequest) :
    Agrees (σ := Recorder fe) (Framed shown L cs cs') (c.request r)
      fun _ => Framed shown L cs cs' := by
  have hallocate : ∀ c : ImageCache, Agrees (σ := Recorder fe) (Framed shown L cs cs')
      (c.allocate r) fun _ => Framed shown L cs cs' := by
    intro c
    refine .bind (Q := fun _ => Framed shown L cs cs')
      (fun _ _ h => h.perform (.createTexture r.format r.size) trivial trivial)
      fun answer => ?_
    cases answer <;> exact .pure fun _ _ h => h
  unfold ImageCache.request
  split
  · exact hallocate c
  · split
    · exact .pure fun _ _ h => h
    · next image _ _ =>
      exact .bind (Q := fun _ => Framed shown L cs cs')
        (fun _ _ h => h.perform (.destroyTexture image.texture) trivial trivial)
        fun _ => hallocate _

/-! ## Invocations -/

/-- Each pass binds all samplers that its program has. -/
def PassTable.BindsLayouts (t : PassTable) (L : ProgramId → Option Layout) : Prop :=
  ∀ name pass, t.get? name = some pass → ∀ layout, L pass.program = some layout →
    ∀ k < layout.samplers.length, some ⟨layout.uniforms.length + k⟩ ∈ pass.samplers

theorem PassTable.BindsSamplers.layouts {t : PassTable} {o : Objects RecordedProgram}
    (h : t.BindsSamplers o) : t.BindsLayouts o.layouts := by
  intro name pass hpass layout hlayout k hk
  obtain ⟨m, hm, rfl⟩ := Option.map_eq_some_iff.1 hlayout
  obtain ⟨l, hl, -, -, rfl⟩ := h name pass hpass m hm k hk
  exact hl

namespace Invocation

variable {fe : Program.FrontEnd} {shown : Pass} {cs cs' : List Command}
  {L : ProgramId → Option Layout} {p : ProgramId} {n n' : Nat} {K : Nat → Prop}
  {layout : Layout}

theorem shared_setUniforms (hlayout : L p = some layout) (ls : List (Option Location))
    (vs : List (Option UniformValue)) :
    Agrees (σ := Recorder fe) (Sharing shown L cs cs' p 0 0 fun _ => False) (setUniforms ls vs)
      fun _ => Sharing shown L cs cs' p 0 0 fun _ => False := by
  fun_induction setUniforms (σ := Recorder fe) ls vs with
  | case1 l ls v vs ih =>
    refine .bind (Q := fun _ => Sharing shown L cs cs' p 0 0 fun _ => False)
      (fun r r' h => ⟨rfl, ?_⟩) fun _ => ih
    exact h.setUniform hlayout l v fun _ => False.elim
  | case2 _ _ _ _ _ ih => exact ih
  | case3 => exact .pure fun _ _ h => h

/-- Once the samplers are bound, each of them reads one of the units bound. -/
theorem shared_bindSamplers (hlayout : L p = some layout) (cache : ImageCache)
    (i : Invocation) (index : Nat) (ls : List (Option Location)) {K K' : Nat → Prop}
    (hK : ∀ k, K' k → k < layout.samplers.length ∧
      (K k ∨ some ⟨layout.uniforms.length + k⟩ ∈ ls)) :
    Agrees (σ := Recorder fe) (Sharing shown L cs cs' p index index K)
      (i.bindSamplers cache index ls)
      fun _ => Sharing shown L cs cs' p (index + ls.length) (index + ls.length) K' := by
  induction ls generalizing index K with
  | nil =>
    refine .pure fun _ _ h => ⟨h.toFramed, h.other, h.left, h.right, h.units, ?_⟩
    exact fun k hk => h.reads k ((hK k hk).2.resolve_right List.not_mem_nil)
  | cons l ls ih =>
    have hlength : index + (l :: ls).length = index + 1 + ls.length := by
      rw [List.length_cons]
      omega
    rw [hlength]
    -- what is left to do, once the unit of this sampler is set
    have hrest : ∀ {K : Nat → Prop}, (∀ k, K' k → k < layout.samplers.length ∧
          (K k ∨ some ⟨layout.uniforms.length + k⟩ ∈ ls)) →
        Agrees (σ := Recorder fe) (Sharing shown L cs cs' p index (index + 1) K)
          (do
            bindTexture (.ofNat index) (samplerTexture cache i index)
            bindSamplers cache i (index + 1) ls)
          fun _ => Sharing shown L cs cs' p (index + 1 + ls.length) (index + 1 + ls.length) K' :=
      fun hK => .bind (Q := fun _ => Sharing shown L cs cs' p (index + 1) (index + 1) _)
        (fun _ _ h => ⟨rfl, h.bindTexture _⟩) fun _ => ih (index + 1) hK
    cases l with
    | none =>
      refine (hrest fun k hk => ?_).weaken (fun _ _ h => h.widen (Nat.le_succ _))
        fun _ _ _ _ h => h
      simpa using hK k hk
    | some l =>
      let K₁ (k : Nat) : Prop :=
        k < layout.samplers.length ∧ (K k ∨ l = ⟨layout.uniforms.length + k⟩)
      refine .bind (Q := fun _ => Sharing shown L cs cs' p index (index + 1) K₁)
        (fun _ _ h => ⟨rfl, ?_⟩) fun _ => hrest fun k hk => ?_
      · rw [run_discard, run_discard]
        refine (h.widen (Nat.le_succ _)).setUniform hlayout l _ fun k (hk : K₁ k) => ⟨hk.1, ?_⟩
        by_cases hl : l = ⟨layout.uniforms.length + k⟩
        · exact .inl ⟨hl, index, Nat.lt_succ_self _, rfl⟩
        · exact .inr ⟨hk.2.resolve_right hl, fun _ _ => hl⟩
      · obtain ⟨hlt, hk | hk⟩ := hK k hk
        · exact ⟨hlt, .inl ⟨hlt, .inl hk⟩⟩
        · rcases List.mem_cons.1 hk with hl | hl
          · exact ⟨hlt, .inl ⟨hlt, .inr (Option.some.inj hl).symm⟩⟩
          · exact ⟨hlt, .inr hl⟩

theorem shared_attachAll {f : FramebufferId} (hf : f ≠ shown.framebuffer)
    (slots : List (UInt32 × Option TextureId)) :
    Agrees (σ := Recorder fe) (Sharing shown L cs cs' p n n' K) (attachAll f slots)
      fun _ => Sharing shown L cs cs' p n n' K := by
  induction slots with
  | nil => exact .pure fun _ _ h => h
  | cons slot slots ih =>
    refine .bind (Q := fun _ => Sharing shown L cs cs' p n n' K)
      (fun _ _ h => h.aim (.attachColor f slot.1 slot.2) hf trivial) fun answer => ?_
    cases answer with
    | error e => exact .pure fun _ _ h => h
    | ok _ => exact ih

theorem shared_drawInto (hlayout : L p = some layout) (hK : ∀ k < layout.samplers.length, K k)
    (plan : DrawPlan) (hf : plan.pass.framebuffer ≠ shown.framebuffer) :
    Agrees (σ := Recorder fe) (Sharing shown L cs cs' p n n K) (drawInto plan)
      fun _ => Framed shown L cs cs' := by
  intro r r' h
  -- all that is bound for the draw
  let aimed (q : Recorder fe) : Recorder fe := { q with objects := { q.objects with
    bound := some plan.pass.framebuffer, viewport := plan.size
    blend := plan.pass.blendMode.state } }
  have hrun : ∀ q : Recorder fe, drawInto plan q = (do
      let drawn ← drawFullscreen
      bindFramebuffer none
      return drawn) (aimed q) := fun _ => rfl
  have haimed : Sharing shown L cs cs' p n n K (aimed r) (aimed r') :=
    ⟨⟨h.toAlongside.quiet { h.lacking with }, h.layouts⟩, h.other, h.left, h.right, h.units,
      h.reads⟩
  obtain ⟨hsame, hdrawn⟩ :=
    haimed.toAlongside.draw (haimed.aligned hlayout hK hf rfl rfl rfl rfl)
  have hlayouts : (drawFullscreen (aimed r)).2.objects.layouts = L :=
    (Recorder.perform_layouts .drawFullscreen trivial).trans h.layouts
  have hframed : Framed shown L cs cs' (drawFullscreen (aimed r)).2 (drawFullscreen (aimed r')).2 :=
    ⟨hdrawn, hlayouts⟩
  obtain ⟨-, hunbound⟩ := hframed.perform (.bindFramebuffer none) trivial trivial
  rw [hrun, hrun]
  exact ⟨hsame, hunbound⟩

theorem shared_render (hlayout : L p = some layout) (hK : ∀ k < layout.samplers.length, K k)
    (plan : DrawPlan) (hf : plan.pass.framebuffer ≠ shown.framebuffer) :
    Agrees (σ := Recorder fe) (Sharing shown L cs cs' p n n K) (render plan)
      fun _ => Framed shown L cs cs' := by
  refine .bind (shared_attachAll hf plan.slots) fun answer => ?_
  cases answer with
  | error e => exact .pure fun _ _ h => h.toFramed
  | ok _ =>
    refine .bind (Q := fun _ => Sharing shown L cs cs' p n n K)
      (fun _ _ h => h.aim (.setDrawBuffers plan.pass.framebuffer (plan.targets.map Prod.fst))
        hf trivial) fun answer => ?_
    cases answer with
    | error e => exact .pure fun _ _ h => h.toFramed
    | ok _ => exact shared_drawInto hlayout hK plan hf

/-- A plan for a pass that binds its samplers is carried out alike on both sides. -/
theorem framed_carryOut (cache : ImageCache) (i : Invocation) (plan : DrawPlan)
    (hother : plan.pass.program ≠ shown.program ∧ plan.pass.framebuffer ≠ shown.framebuffer)
    (hbinds : ∀ layout, L plan.pass.program = some layout → ∀ k < layout.samplers.length,
      some ⟨layout.uniforms.length + k⟩ ∈ plan.pass.samplers) :
    Agrees (σ := Recorder fe) (Framed shown L cs cs') (i.carryOut cache plan)
      fun _ => Framed shown L cs cs' := by
  obtain ⟨hp, hf⟩ := hother
  let program := plan.pass.program
  intro r r' h
  obtain ⟨hsame, hused⟩ := h.perform (.useProgram program) hp trivial
  have hrun : ∀ q : Recorder fe, useProgram program q
      = Backend.perform (.useProgram program) q := fun _ => rfl
  simp only [carryOut, run_bind]
  rw [hrun, hrun, ← hsame]
  cases hanswer : (Backend.perform (.useProgram program) r).1 with
  | error e => exact ⟨rfl, hused⟩
  | ok _ =>
    obtain ⟨⟨m, hm⟩, hcurrent⟩ := Recorder.useProgram_ok hanswer
    obtain ⟨-, hcurrent'⟩ := Recorder.useProgram_ok (hsame.symm.trans hanswer)
    have hlayout : L program = some m.layout := by
      rw [← h.layouts, Objects.layouts, hm]
      rfl
    have hready : Sharing shown L cs cs' program 0 0 (fun _ => False)
        (Backend.perform (.useProgram program) r).2
        (Backend.perform (.useProgram program) r').2 :=
      ⟨hused, hp, hcurrent, hcurrent', fun _ hj => absurd hj (Nat.not_lt_zero _),
        fun _ => False.elim⟩
    have hcarried : Agrees (σ := Recorder fe) (Sharing shown L cs cs' program 0 0 fun _ => False)
        (do
          setUniforms plan.pass.uniforms i.uniforms
          bindSamplers cache i 0 plan.pass.samplers
          let drawn ← render plan
          return (⟨missingSamplers cache plan.pass i, drawn.mapError i.drawFailed⟩ : Attempt))
        fun _ => Framed shown L cs cs' := by
      refine .bind (shared_setUniforms hlayout _ _) fun _ => ?_
      refine .bind (shared_bindSamplers hlayout cache i 0 _
        fun k (hk : k < m.layout.samplers.length) => ⟨hk, .inr (hbinds _ hlayout k hk)⟩)
        fun _ => ?_
      refine .bind (shared_render hlayout (fun _ hk => hk) plan hf) fun _ => ?_
      exact .pure fun _ _ h => h
    exact hcarried _ _ hready

theorem framed_invoke {passes : PassTable} (havoids : passes.Avoids shown)
    (hbinds : passes.BindsLayouts L) (cache : ImageCache) (i : Invocation) :
    Agrees (σ := Recorder fe) (Framed shown L cs cs') (i.invoke passes cache)
      fun _ => Framed shown L cs cs' := by
  unfold invoke
  dsimp only
  cases hplan : plan passes cache i with
  | error e => exact .pure fun _ _ h => h
  | ok p =>
    have hpass := plan_pass hplan
    refine .bind (framed_carryOut cache i p (havoids _ _ hpass) (hbinds _ _ hpass)) fun _ => ?_
    exact .pure fun _ _ h => h

end Invocation

/-- The invocations of a frame have the same report on both sides. -/
theorem framed_invokeAll {fe : Program.FrontEnd} {shown : Pass} {cs cs' : List Command}
    {L : ProgramId → Option Layout} {passes : PassTable} (havoids : passes.Avoids shown)
    (hbinds : passes.BindsLayouts L) (cache : ImageCache) (is : List Invocation)
    (report : FrameReport) :
    Agrees (σ := Recorder fe) (Framed shown L cs cs') (invokeAll passes cache is report)
      fun _ => Framed shown L cs cs' := by
  induction is generalizing report with
  | nil => exact .pure fun _ _ h => h
  | cons i is ih =>
    exact .bind (Invocation.framed_invoke havoids hbinds cache i) fun a => ih (report.count a)

end FrameGraph
