import FrameGraph.Proofs.Frame.OnRecord
import FrameGraph.Proofs.Frame.Watching
import FrameGraph.Proofs.Gpu.Simulation
import FrameGraph.Proofs.Gpu.Uniforms
import FrameGraph.Proofs.Pass.Positions

/-!
# Binding by position

Between a declaration and a draw, uniforms and samplers are known by their positions only: the
values of an invocation are set at the locations that were found when the pass was built, and a
sampler reads the texture unit of its number. If no two declared names are the same, then the
positions are the same all the way, whatever the backend was told since the pass was built, and
whichever passes have used the same units before.

Results:
* `HasLayout.perform`: a program keeps its layout as long as it lives.
* `Prepared.setUniforms`, `Prepared.bindSamplers`: what the steps before a draw leave.
* `resolveTargets_ok`, `attachAll_ok`: what is drawn into.
* `draws_by_position`: a pass that was built, and any draw that it makes later on.
-/
namespace FrameGraph

open Gpu
open Program (Layout Location)

variable {fe : Program.FrontEnd} {r r' : Recorder fe} {p : ProgramId} {layout : Layout}

/-! ## Programs and their layouts -/

namespace Gpu

/-- The number of the program was given, and the program has this layout as long as it
lives. -/
structure Recorder.HasLayout (p : ProgramId) (layout : Layout) (r : Recorder fe) : Prop where
  given : p.number < r.objects.nextId
  layout : ∀ m, r.objects.programs.get? p = some m → m.layout = layout

namespace Recorder.HasLayout

theorem perform (h : r.HasLayout p layout) {a : Answer} (call : Call a) :
    (Backend.perform call r).2.HasLayout p layout := by
  refine ⟨Nat.lt_of_lt_of_le h.given (r.perform_nextId call), ?_⟩
  show ∀ m, (Recorder.perform call r).2.objects.programs.get? p = some m → m.layout = layout
  have hchanged := r.perform_changed call
  generalize (Recorder.perform call r).2.objects = o at hchanged ⊢
  cases hchanged with
  | compileProgram source layout' =>
    intro m hm
    have hne : p ≠ ⟨r.objects.nextId⟩ := fun hp => Nat.ne_of_lt h.given (congrArg _ hp)
    simp only [Objects.addProgram, Dict.get?_insert, if_neg hne] at hm
    exact h.layout m hm
  | deleteProgram q =>
    intro m hm
    simp only [Objects.removeProgram, Dict.get?_erase] at hm
    split at hm
    · cases hm
    · exact h.layout m hm
  | setUniform l v q old _ live uniforms =>
    intro m hm
    simp only [Objects.setProgram, Dict.get?_insert] at hm
    split at hm
    · next hq =>
      cases hm
      exact h.layout old (hq ▸ live)
    · exact h.layout m hm
  | bindTexture unit t => cases t <;> exact h.layout
  | _ => exact h.layout

theorem afterCalls (h : r.HasLayout p layout) (calls : List ((a : Answer) × Call a)) :
    (afterCalls calls r).HasLayout p layout := by
  induction calls generalizing r with
  | nil => exact h
  | cons c calls ih => exact ih (h.perform c.2)

end Recorder.HasLayout
end Gpu

/-! ## Before the draw -/

theorem ofNat_inj {k n : Nat} (hk : k < 2 ^ 32) (hn : n < 2 ^ 32)
    (h : UInt32.ofNat k = UInt32.ofNat n) : k = n := by
  rw [← UInt32.toNat_ofNat_of_lt' hk, h, UInt32.toNat_ofNat_of_lt' hn]

namespace Gpu.Recorder

variable {values : Nat → Option UniformValue} {textures : Nat → Option TextureId} {n : Nat}

/-- The value that a program has at a location. -/
def value? (r : Recorder fe) (p : ProgramId) (k : Nat) : Option UniformValue :=
  (r.objects.programs.get? p).bind fun m => m.uniforms.get? k

/-- Values by location, where `count` of them from `k` on are set anew if there is a value. -/
def overlaid (k count : Nat) (vs : List (Option UniformValue))
    (values : Nat → Option UniformValue) (l : Nat) : Option UniformValue :=
  if k ≤ l ∧ l < k + count then (vs[l - k]?.join).or (values l) else values l

theorem overlaid_cons (k count : Nat) (v : Option UniformValue) (vs : List (Option UniformValue)) :
    overlaid k (count + 1) (v :: vs) values
      = overlaid (k + 1) count vs (Function.update values k (v.or (values k))) := by
  funext l
  unfold overlaid
  rcases Nat.lt_trichotomy l k with hl | rfl | hl
  · rw [if_neg (by omega), if_neg (by omega), Function.update_of_ne (Nat.ne_of_lt hl)]
  · rw [if_pos (by omega), if_neg (by omega), Function.update_self, Nat.sub_self]
    rfl
  · have hnext : l - k = l - (k + 1) + 1 := by omega
    rw [hnext, List.getElem?_cons_succ, Function.update_of_ne (Nat.ne_of_gt hl)]
    congr 1
    exact propext ⟨fun h => by omega, fun h => by omega⟩

/-- Values by location, where those of the uniforms are set anew if there is a value, and those
of the samplers are their units. -/
def byPosition (layout : Layout) (vs : List (Option UniformValue))
    (values : Nat → Option UniformValue) : Nat → Option UniformValue :=
  overlaid layout.uniforms.length layout.samplers.length
    ((List.range layout.samplers.length).map fun k => some (.int (UInt32.ofNat k).toInt32))
    (overlaid 0 layout.uniforms.length vs values)

section
variable {vs : List (Option UniformValue)} {k : Nat}

theorem byPosition_uniform (hk : k < layout.uniforms.length) :
    byPosition layout vs values k = (vs[k]?.join).or (values k) := by
  rw [byPosition, overlaid, if_neg (by omega), overlaid, if_pos (by omega), Nat.sub_zero]

theorem byPosition_sampler (hk : k < layout.samplers.length) :
    byPosition layout vs values (layout.uniforms.length + k)
      = some (.int (UInt32.ofNat k).toInt32) := by
  rw [byPosition, overlaid, if_pos (by omega), Nat.add_sub_cancel_left, List.getElem?_map,
    List.getElem?_range hk]
  rfl

theorem byPosition_other (hk : layout.uniforms.length + layout.samplers.length ≤ k) :
    byPosition layout vs values k = values k := by
  rw [byPosition, overlaid, if_neg (by omega), overlaid, if_neg (by omega)]

end

/-- The program is in use with these values by location, and the first `n` texture units have
these textures. -/
structure Prepared (p : ProgramId) (layout : Layout) (values : Nat → Option UniformValue)
    (textures : Nat → Option TextureId) (n : Nat) (r : Recorder fe) : Prop where
  current : r.objects.current = some p
  program : ∃ m, r.objects.programs.get? p = some m ∧ m.layout = layout ∧
    ∀ k, m.uniforms.get? k = values k
  units : ∀ k < n, r.objects.units.get? (.ofNat k) = textures k

namespace Prepared

/-- A value that the layout takes is set at its location. -/
theorem setUniform (h : r.Prepared p layout values textures n) {l : Location} {v : UniformValue}
    {slot : Program.Slot} (hslot : settable layout l v = .ok slot) :
    (Gpu.setUniform l v r).2.Prepared p layout (Function.update values l.index (some v))
      textures n := by
  obtain ⟨m, hm, rfl, hvalues⟩ := h.program
  have hput : (Gpu.setUniform l v r).2.objects = r.objects.put l v :=
    Recorder.setUniform_objects l v r
  have htake : (Memory.take l v m).getD m
      = { m with uniforms := m.uniforms.insert l.index v } := by
    rcases RecordedProgram.take_cases l v m with ⟨_, -, -, htake⟩ | ⟨⟨e, he⟩, -, -⟩
    · exact htake
    · cases hslot.symm.trans he
  constructor
  · rw [hput, Objects.put_eq]
    exact h.current
  · refine ⟨{ m with uniforms := m.uniforms.insert l.index v }, ?_, rfl, fun k => ?_⟩
    · rw [hput, Objects.get?_put l v h.current hm, if_pos rfl, htake]
    · rw [Dict.get?_insert, Function.update_apply, hvalues]
  · rw [hput, Objects.put_eq]
    exact h.units

/-- The values of the next locations are set where there are any. -/
theorem setUniforms (h : r.Prepared p layout values textures n) {k count : Nat}
    (hcount : k + count ≤ layout.uniforms.length) (vs : List (Option UniformValue)) :
    (Invocation.setUniforms ((List.range' k count).map fun k => some ⟨k⟩) vs r).2.Prepared p layout
      (overlaid k count vs values) textures n := by
  induction count generalizing k vs values r with
  | zero =>
    have hsame : overlaid k 0 vs values = values := funext fun l => if_neg (by omega)
    exact hsame.symm ▸ h
  | succ count ih =>
    rw [List.range'_succ, List.map_cons]
    have hk : k < layout.uniforms.length := by omega
    have hslot : layout.slot? ⟨k⟩ = some (.uniform layout.uniforms[k]) := by
      simp only [Layout.slot?, List.getElem?_eq_getElem hk]
    rcases vs with _ | ⟨_ | v, vs⟩
    · have hsame : overlaid k (count + 1) [] values = values := funext fun l => ite_self _
      exact hsame.symm ▸ h
    · rw [overlaid_cons, Option.none_or, Function.update_eq_self]
      exact ih h (by omega) vs
    · rw [overlaid_cons]
      exact ih (h.setUniform (settable_of_uniform hslot v)) (by omega) vs

theorem bindTexture (h : r.Prepared p layout values textures n) (hn : n < 2 ^ 32) :
    (Gpu.bindTexture (.ofNat n) (textures n) r).2.Prepared p layout values textures (n + 1) := by
  have hbind : (Gpu.bindTexture (.ofNat n) (textures n) r).2.objects
      = r.objects.bindTexture (.ofNat n) (textures n) := rfl
  constructor
  · rw [hbind]
    cases textures n <;> exact h.current
  · rw [hbind]
    cases textures n <;> exact h.program
  · intro k hk
    rw [hbind, Objects.get?_bindTexture]
    split
    · next hkn => rw [ofNat_inj (by omega) hn hkn]
    · next hkn => exact h.units k (Nat.lt_of_le_of_ne (by omega) fun hsame => hkn (hsame ▸ rfl))

/-- The values of samplers by location, where those from `k` on are their units. -/
theorem bindSamplers {cache : ImageCache} {i : Invocation} {k count : Nat}
    (h : r.Prepared p layout values (i.samplerTexture cache) k)
    (hcount : k + count ≤ layout.samplers.length) (hwords : layout.samplers.length ≤ 2 ^ 32) :
    (i.bindSamplers cache k
        ((List.range' k count).map fun k => some ⟨layout.uniforms.length + k⟩) r).2.Prepared p
      layout (overlaid (layout.uniforms.length + k) count
        ((List.range' k count).map fun k => some (.int (UInt32.ofNat k).toInt32)) values)
      (i.samplerTexture cache) (k + count) := by
  induction count generalizing k values r with
  | zero =>
    have hsame : overlaid (layout.uniforms.length + k) 0 [] values = values :=
      funext fun l => if_neg (by omega)
    exact hsame.symm ▸ h
  | succ count ih =>
    rw [List.range'_succ, List.map_cons, List.map_cons, overlaid_cons]
    have hk : k < layout.samplers.length := by omega
    have hset := h.setUniform (settable_sampler hk (UInt32.ofNat k).toInt32)
    have hnext : k + (count + 1) = k + 1 + count := by omega
    rw [hnext]
    exact ih (hset.bindTexture (by omega)) (by omega)

/-- What only prepares the target of a draw leaves the program and the units alone. -/
theorem aim (h : r.Prepared p layout values textures n) {a : Answer} (call : Call a)
    (hcall : call.aims) : (Backend.perform call r).2.Prepared p layout values textures n := by
  obtain ⟨hprograms, hcurrent, hunits⟩ := Recorder.perform_aims (r := r) call hcall
  exact ⟨hcurrent ▸ h.current, hprograms ▸ h.program, hunits ▸ h.units⟩

end Prepared

end Gpu.Recorder

/-! ## What is drawn into -/

/-- The numbers of outputs are distinct, as there are not more of them than words. -/
theorem Pass.outputSlots_nodup (desc : ShaderDesc) : (Pass.outputSlots desc).Nodup := by
  refine List.nodup_range.map_on fun k hk n hn h => ?_
  have hword := (UInt32.ofNat desc.outputs.length).toNat_lt
  rw [List.mem_range] at hk hn
  exact ofNat_inj (by omega) (by omega) h

namespace Invocation

/-- A cached texture of this size is bound at the slot. -/
def Resolves (cache : ImageCache) (size : Extent) (b : UInt32 × ImageBinding)
    (t : UInt32 × TextureId) : Prop :=
  t.1 = b.1 ∧ ∃ image, cache.get? b.2.id = some image ∧ image.texture = t.2 ∧ image.size = size

theorem resolveTargets_ok {cache : ImageCache} {pass : String} {index : Nat}
    {size size' : Option Extent} {bs : List (UInt32 × ImageBinding)}
    {targets : List (UInt32 × TextureId)}
    (h : resolveTargets cache pass index size bs = .ok (targets, size')) :
    (∀ s, size = some s → size' = some s) ∧
      ∀ s, size' = some s → List.Forall₂ (Resolves cache s) bs targets := by
  induction bs generalizing index size targets with
  | nil =>
    cases h
    exact ⟨fun _ => id, fun _ _ => .nil⟩
  | cons b bs ih =>
    obtain ⟨slot, binding⟩ := b
    rw [resolveTargets] at h
    split at h
    · cases h
    · next image himage =>
      split at h
      · cases h
      · next hsize =>
        cases hrest : resolveTargets cache pass (index + 1) (some image.size) bs with
        | error e => rw [hrest] at h; cases h
        | ok rest =>
          rw [hrest] at h
          cases h
          obtain ⟨hkept, hall⟩ := ih hrest
          have hlast : rest.2 = some image.size := hkept _ rfl
          refine ⟨fun s hs => ?_, fun s hs => .cons ⟨rfl, image, himage, rfl, ?_⟩ (hall s hs)⟩
          · rw [hs, Option.getD_some, not_not] at hsize
            rw [hsize]
            exact hlast
          · exact Option.some.inj (hlast.symm.trans hs)

theorem slots_resolved {cache : ImageCache} {size : Extent} {bs : List (UInt32 × ImageBinding)}
    {targets : List (UInt32 × TextureId)} (h : List.Forall₂ (Resolves cache size) bs targets) :
    targets.map Prod.fst = bs.map Prod.fst := by
  induction h with
  | nil => rfl
  | cons hb _ ih => rw [List.map_cons, List.map_cons, hb.1, ih]

/-- A plan has the slots of the pass and the textures that are bound, side by side. -/
theorem plan_targets {passes : PassTable} {cache : ImageCache} {i : Invocation} {plan : DrawPlan}
    (h : i.plan passes cache = .ok plan) :
    List.Forall₂ (Resolves cache plan.size) (plan.pass.outputs.zip i.attachments) plan.targets := by
  unfold Invocation.plan at h
  split at h
  · cases h
  · split at h
    · cases h
    · split at h
      · cases h
      · cases h
      · next targets size hresolved =>
        cases h
        exact (resolveTargets_ok hresolved).2 size rfl

/-- The slots of a plan are those of the outputs, each once. -/
theorem slots_plan {passes : PassTable} {cache : ImageCache} {i : Invocation} {plan : DrawPlan}
    (h : i.plan passes cache = .ok plan) : plan.slots.map Prod.fst = plan.pass.outputs := by
  have htargets := plan_targets h
  have hslots : plan.targets.map Prod.fst = plan.pass.outputs.take plan.targets.length := by
    rw [slots_resolved htargets, ← htargets.length_eq, List.length_zip, List.zip_eq_zip_take_min]
    exact List.map_fst_zip (by simp)
  rw [DrawPlan.slots, List.map_append, List.map_map, List.map_map]
  refine Eq.trans (congrArg₂ _ hslots (List.map_id _)) (List.take_append_drop _ _)

variable {f : FramebufferId} {slots : List (UInt32 × Option TextureId)}

/-- If nothing was refused, then at these slots there are these textures, and elsewhere what
was there before. -/
theorem attachAll_ok (hok : (attachAll f slots r).1 = .ok ())
    (hslots : (slots.map Prod.fst).Nodup) (t : Targets)
    (ht : (attachAll f slots r).2.objects.framebuffers.get? f = some t) :
    (∀ s ∈ slots, t.attachments.get? s.1 = s.2) ∧
      ∀ slot ∉ slots.map Prod.fst, ∀ t₀, r.objects.framebuffers.get? f = some t₀ →
        t.attachments.get? slot = t₀.attachments.get? slot := by
  induction slots generalizing r with
  | nil =>
    refine ⟨fun _ hs => (by cases hs), fun slot _ t₀ ht₀ => ?_⟩
    cases ht.symm.trans ht₀
    rfl
  | cons s slots ih =>
    obtain ⟨slot, texture⟩ := s
    obtain ⟨hnew, hslots⟩ := List.nodup_cons.1 hslots
    have hrun : attachColor f slot texture r
        = attempt (fun r : Recorder fe => r.update fun o => o.attachColor f slot texture) r := rfl
    simp only [attachAll, run_bind, hrun] at hok ht
    cases hstep : r.objects.attachColor f slot texture with
    | error e =>
      rw [Recorder.attempt_error hstep] at hok
      cases hok
    | ok o =>
      rw [Recorder.attempt_ok hstep] at hok ht
      obtain ⟨t₁, ht₁, rfl, -⟩ := Objects.attachColor_parts hstep
      have hafter : (r.objects.setTargets f (t₁.attach slot texture)).framebuffers.get? f
          = some (t₁.attach slot texture) := by
        rw [Objects.setTargets, Dict.get?_insert, if_pos rfl]
      obtain ⟨hthere, helse⟩ := ih hok hslots ht
      refine ⟨fun s hs => ?_, fun slot' hslot' t₀ ht₀ => ?_⟩
      · rcases List.mem_cons.1 hs with rfl | hs
        · rw [helse slot hnew _ hafter, Targets.get?_attach, if_pos rfl]
        · exact hthere s hs
      · cases ht₁.symm.trans ht₀
        rw [List.map_cons, List.mem_cons, not_or] at hslot'
        rw [helse slot' hslot'.2 _ hafter, Targets.get?_attach, if_neg hslot'.1]

/-- Once the textures are attached and the draw buffers are set, a draw writes the targets. -/
theorem drawn_targets {plan : DrawPlan} {o o' : Objects RecordedProgram}
    (hthere : ∀ t, o.framebuffers.get? f = some t →
      ∀ s ∈ plan.slots, t.attachments.get? s.1 = s.2)
    (hbuffers : o.setDrawBuffers f (plan.targets.map Prod.fst) = .ok o') :
    ∃ t, o'.framebuffers.get? f = some t ∧ t.drawn = plan.targets := by
  cases ht : o.framebuffers.get? f with
  | none =>
    simp only [Objects.setDrawBuffers, Objects.framebuffer, ht, bind, Except.bind] at hbuffers
    cases hbuffers
  | some t =>
    simp only [Objects.setDrawBuffers, Objects.framebuffer, ht, bind, Except.bind, pure,
      Except.pure, Except.ok.injEq] at hbuffers
    refine ⟨{ t with drawBuffers := plan.targets.map Prod.fst }, ?_, ?_⟩
    · rw [← hbuffers, Objects.setTargets, Dict.get?_insert, if_pos rfl]
    · have hfound : ∀ s ∈ plan.targets, (t.attachments.get? s.1).map (s.1, ·) = some s := by
        intro s hs
        have hmem : (s.1, some s.2) ∈ plan.slots :=
          List.mem_append_left _ (List.mem_map_of_mem hs)
        rw [hthere t ht _ hmem]
        rfl
      rw [Targets.drawn, List.filterMap_map]
      exact (List.filterMap_congr hfound).trans List.filterMap_some

/-- What is drawn, if nothing was refused, is what was prepared, and the plan. -/
theorem render_ok {plan : DrawPlan} {values : Nat → Option UniformValue}
    {textures : Nat → Option TextureId} {n : Nat}
    (h : r.Prepared p layout values textures n) (hslots : (plan.slots.map Prod.fst).Nodup)
    (hok : (render plan r).1 = .ok ()) :
    ∃ cs d o, (render plan r).2.commands = cs ++ [.draw d] ∧
      Recorder.currentDraw o = .ok d ∧ d.attachments = plan.targets ∧
      o.viewport = plan.size ∧ o.blend = plan.pass.blendMode.state ∧
      ({ r with objects := o } : Recorder fe).Prepared p layout values textures n := by
  have hattached : (attachAll plan.pass.framebuffer plan.slots r).2.Prepared p layout values
      textures n :=
    keeps_attachAll (fun slot t r h => h.aim (.attachColor _ slot t) trivial) plan.slots r h
  simp only [render, run_bind] at hok ⊢
  cases hanswer : (attachAll plan.pass.framebuffer plan.slots r).1 with
  | error e => rw [hanswer] at hok; cases hok
  | ok _ =>
    have hthere (t : Targets) := fun ht => (attachAll_ok hanswer hslots t ht).1
    rw [hanswer] at hok
    generalize (attachAll plan.pass.framebuffer plan.slots r).2 = r₁ at *
    have hset := hattached.aim
      (.setDrawBuffers plan.pass.framebuffer (plan.targets.map Prod.fst)) trivial
    have hrun : setDrawBuffers plan.pass.framebuffer (plan.targets.map Prod.fst) r₁
        = attempt (fun r : Recorder fe => r.update fun o =>
            o.setDrawBuffers plan.pass.framebuffer (plan.targets.map Prod.fst)) r₁ := rfl
    change (setDrawBuffers plan.pass.framebuffer (plan.targets.map Prod.fst) r₁).2.Prepared
      _ _ _ _ _
      at hset
    simp only [run_bind, hrun] at hok hset ⊢
    cases hbuffers : r₁.objects.setDrawBuffers plan.pass.framebuffer
        (plan.targets.map Prod.fst) with
    | error e => rw [Recorder.attempt_error hbuffers] at hok; cases hok
    | ok o =>
      rw [Recorder.attempt_ok hbuffers] at hok hset ⊢
      obtain ⟨t, ht, hdrawn⟩ := drawn_targets hthere hbuffers
      rcases drawInto_cases plan { r₁ with objects := o } with ⟨-, d, hd, hcommands⟩ | ⟨⟨e, he⟩, -⟩
      · refine ⟨_, d, _, hcommands, hd, ?_, rfl, rfl, ⟨hset.current, hset.program, hset.units⟩⟩
        obtain ⟨-, -, -, hattachments, -⟩ := Recorder.currentDraw_eq hd
        rcases Recorder.attachments_ok hattachments with ⟨hbound, -⟩ | ⟨f, t', hbound, ht', has⟩
        · cases hbound
        · cases hbound
          cases ht.symm.trans ht'
          exact has.trans hdrawn
      · cases he.symm.trans hok

/-! ## A draw by position -/

end Invocation

namespace Pass

/-- The pass has its uniforms at the first locations of a layout, and its samplers behind. -/
structure Positioned (layout : Layout) (pass : Pass) : Prop where
  uniforms : pass.uniforms = (List.range layout.uniforms.length).map fun k => some ⟨k⟩
  samplers : pass.samplers
    = (List.range layout.samplers.length).map fun k => some ⟨layout.uniforms.length + k⟩
  words : layout.samplers.length ≤ 2 ^ 32
  outputs : pass.outputs.Nodup

/-- Every part of the draw is what the invocation of the pass has at the same position. A
uniform without a value keeps the one that the program had `before`. -/
structure DrawsByPosition (pass : Pass) (cache : ImageCache) (i : Invocation)
    (before : Nat → Option UniformValue) (d : Draw) : Prop extends pass.Draws d where
  attachments : List.Forall₂ (Invocation.Resolves cache d.viewport)
    (pass.outputs.zip i.attachments) d.attachments
  blend : d.blend = pass.blendMode.state
  samplers : d.samplers = (List.range pass.samplers.length).map (i.samplerTexture cache)
  values : ∀ k < pass.uniforms.length, d.uniforms.get? k = (i.uniforms[k]?.join).or (before k)
  units : ∀ k < pass.samplers.length,
    d.uniforms.get? (pass.uniforms.length + k) = some (.int (UInt32.ofNat k).toInt32)
  others : ∀ k, pass.uniforms.length + pass.samplers.length ≤ k → d.uniforms.get? k = before k

end Pass

namespace Invocation

variable {cache : ImageCache} {i : Invocation}

/-- An invocation that is carried out draws what its values and samplers prepare. -/
theorem carryOut_ok {plan : DrawPlan} (h : plan.pass.Positioned layout)
    (hlayout : r.HasLayout plan.pass.program layout)
    (hslots : (plan.slots.map Prod.fst).Nodup)
    (hok : (i.carryOut cache plan r).1.result = .ok ()) :
    ∃ cs d o, (i.carryOut cache plan r).2.commands = cs ++ [.draw d] ∧
      Recorder.currentDraw o = .ok d ∧ d.attachments = plan.targets ∧
      o.viewport = plan.size ∧ o.blend = plan.pass.blendMode.state ∧
      ({ r with objects := o } : Recorder fe).Prepared plan.pass.program layout
        (Recorder.byPosition layout i.uniforms (r.value? plan.pass.program))
        (i.samplerTexture cache) layout.samplers.length := by
  have huse : useProgram plan.pass.program r = attempt (fun r : Recorder fe =>
      r.update fun o => o.useProgram plan.pass.program) r := rfl
  simp only [carryOut, run_bind, huse] at hok ⊢
  cases hm : r.objects.programs.get? plan.pass.program with
  | none =>
    rw [Recorder.attempt_error (Objects.useProgram_of_none hm)] at hok
    cases hok
  | some m =>
    rw [Recorder.attempt_ok (Objects.useProgram_of_some hm)] at hok ⊢
    let o : Objects RecordedProgram := { r.objects with current := some plan.pass.program }
    have hstart : ({ r with objects := o } : Recorder fe).Prepared plan.pass.program layout
        (r.value? plan.pass.program) (i.samplerTexture cache) 0 := by
      refine ⟨rfl, ⟨m, hm, hlayout.layout m hm, fun k => ?_⟩, fun _ hk => absurd hk (by omega)⟩
      rw [Recorder.value?, hm]
      rfl
    have hset := hstart.setUniforms (k := 0) (Nat.le_of_eq (Nat.zero_add _)) i.uniforms
    rw [← List.range_eq_range', ← h.uniforms] at hset
    have hbound := hset.bindSamplers (k := 0) (Nat.le_of_eq (Nat.zero_add _)) h.words
    rw [← List.range_eq_range', ← h.samplers, Nat.zero_add, Nat.add_zero] at hbound
    simp only [run_bind, run_pure, mapError_eq_ok_iff] at hok ⊢
    obtain ⟨cs, d, o', hcommands, hdraw, hattachments, hviewport, hblend, hprepared⟩ :=
      render_ok hbound hslots hok
    exact ⟨cs, d, o', hcommands, hdraw, hattachments, hviewport, hblend,
      ⟨hprepared.current, hprepared.program, hprepared.units⟩⟩

variable {pass : Pass} {passes : PassTable}

/-- An invocation that is executed draws by position. -/
theorem invoke_ok (h : pass.Positioned layout) (hlayout : r.HasLayout pass.program layout)
    (hpass : passes.get? i.shader = some pass)
    (hok : (i.invoke passes cache r).1.result = .ok ()) :
    ∃ d, (i.invoke passes cache r).2.commands = r.commands ++ [.draw d] ∧
      pass.DrawsByPosition cache i (r.value? pass.program) d := by
  obtain ⟨_, d, hget, hdraws, hrecord⟩ :=
    ((i.invoke_records passes cache r).resolve_right fun ⟨⟨e, he⟩, _⟩ => (by
      cases he.symm.trans hok)).2
  cases hpass.symm.trans hget
  refine ⟨d, hrecord, ?_⟩
  unfold invoke at hok hrecord
  cases hplan : plan passes cache i with
  | error e =>
    rw [hplan] at hok
    cases hok
  | ok plan =>
    simp only [hplan, run_bind, run_pure] at hok hrecord
    cases hpass.symm.trans (plan_pass hplan)
    obtain ⟨cs, d', o, hcommands, hdraw, hattachments, hviewport, hblend, hprepared⟩ :=
      carryOut_ok h hlayout (slots_plan hplan ▸ h.outputs) hok
    cases (List.append_inj' (hrecord.symm.trans hcommands) rfl).2
    obtain ⟨m, -, hm, -, hd⟩ := Recorder.currentDraw_eq hdraw
    obtain ⟨m', hm', rfl, hvalues⟩ := hprepared.program
    rw [hdraws.program] at hm
    cases hm.symm.trans hm'
    have huniforms : plan.pass.uniforms.length = m.layout.uniforms.length := by
      rw [h.uniforms, List.length_map, List.length_range]
    have hsamplers : plan.pass.samplers.length = m.layout.samplers.length := by
      rw [h.samplers, List.length_map, List.length_range]
    have hunit : ∀ k < m.layout.samplers.length, m.uniforms.get? (m.layout.uniforms.length + k)
        = some (.int (UInt32.ofNat k).toInt32) := fun k hk => by
      rw [hvalues, Recorder.byPosition_sampler hk]
    have hused : d.uniforms = m.uniforms := congrArg Draw.uniforms hd
    refine ⟨hdraws, ?_, (congrArg Draw.blend hd).trans hblend, ?_, ?_, ?_, ?_⟩
    · have hsize : d.viewport = plan.size := (congrArg Draw.viewport hd).trans hviewport
      rw [hattachments, hsize]
      exact plan_targets hplan
    · rw [show d.samplers = _ from congrArg Draw.samplers hd, hsamplers]
      refine List.map_congr_left fun k hk => ?_
      rw [List.mem_range] at hk
      have hreads : m.unit k = .ofNat k := by
        rw [RecordedProgram.unit, hunit k hk]
        exact UInt32.toUInt32_toInt32 _
      rw [hreads]
      exact hprepared.units k hk
    · intro k hk
      rw [hused, hvalues, Recorder.byPosition_uniform (huniforms ▸ hk)]
    · intro k hk
      rw [hused, huniforms]
      exact hunit k (hsamplers ▸ hk)
    · intro k hk
      rw [huniforms, hsamplers] at hk
      rw [hused, hvalues, Recorder.byPosition_other hk]

end Invocation

/-! ## From the declaration to the draw -/

/-- A program that was just compiled has the layout of its module. -/
theorem Gpu.Recorder.hasLayout_compiled {source : String}
    (h : Gpu.compileProgram source r = (.ok p, r')) :
    ∃ m, fe source = .ok m ∧ r'.HasLayout p (.ofModule m) ∧
      Reflecting.layout? r' p = some (.ofModule m) := by
  have hrun : Gpu.compileProgram source r = Recorder.compileProgram source r := rfl
  rw [hrun, Recorder.compileProgram, Program.compile] at h
  cases hmodule : fe source with
  | error e => rw [hmodule] at h; cases h
  | ok m =>
    rw [hmodule] at h
    cases h
    have hget := layout?_addProgram r.objects { layout := .ofModule m }
    refine ⟨m, rfl, ⟨Nat.lt_succ_self _, fun m' hm' => ?_⟩, ?_⟩
    · cases hget.symm.trans hm'
      rfl
    · exact congrArg (Option.map RecordedProgram.layout) hget

namespace PassTable

variable {t : PassTable} {desc : ShaderDesc} {declarations : List Declaration}

/-- A build that compiles a program files a pass with the locations of the declared names. -/
theorem build_compiled {outcome : BuildOutcome}
    (hbuilt : (t.build desc declarations r).1.1 = .ok outcome) (hnew : outcome ≠ .unchanged) :
    ∃ m program framebuffer, fe (Source.assemble desc declarations).text = .ok m ∧
      (t.build desc declarations r).1.2
        = t.put (.make desc (Source.assemble desc declarations).text program framebuffer
            ((Layout.ofModule m).locate desc.uniforms)
            ((Layout.ofModule m).locate desc.samplers)) ∧
      (t.build desc declarations r).2.HasLayout program (.ofModule m) := by
  cases hcurrent : t.current? desc.name (Source.assemble desc declarations).text with
  | some old =>
    rw [build_current hcurrent] at hbuilt
    cases hbuilt
    exact absurd rfl hnew
  | none =>
    simp only [build, hcurrent, run_bind] at hbuilt ⊢
    cases hcompile : compileProgram (Source.assemble desc declarations).text r with
    | mk answer r₁ =>
      simp only [hcompile] at hbuilt ⊢
      cases answer with
      | error e => cases hbuilt
      | ok program =>
        obtain ⟨m, hm, hlayout, hfound⟩ := Recorder.hasLayout_compiled hcompile
        simp only [run_bind, locations_eq hfound] at hbuilt ⊢
        unfold file at hbuilt ⊢
        cases hget : t.get? desc.name with
        | some old => exact ⟨m, program, old.framebuffer, hm, rfl,
          hlayout.perform (.deleteProgram old.program)⟩
        | none => exact ⟨m, program, _, hm, rfl, hlayout.perform .createFramebuffer⟩

end PassTable

theorem invokeAll_append {σ : Type} [Backend σ] (passes : PassTable) (cache : ImageCache)
    (is is' : List Invocation) (report : FrameReport) (b : σ) :
    invokeAll passes cache (is ++ is') report b
      = invokeAll passes cache is' (invokeAll passes cache is report b).1
          (invokeAll passes cache is report b).2 := by
  induction is generalizing report b with
  | nil => rfl
  | cons i is ih => exact ih _ _

/-- A pass is built on a recording backend from a description with distinct names, and the
front end finds in its text what is declared. Then its uniforms are at the first locations and
its samplers behind them, in the order of the declarations. Whatever the backend is told
afterwards, and whichever invocations come before and after, with any table that has the pass
and any cache: each invocation of the pass that is executed records one draw, in which every
position has what the invocation has there. -/
theorem draws_by_position {t : PassTable} {desc : ShaderDesc} {declarations : List Declaration}
    (hnames : ((desc.uniforms ++ desc.samplers).map TypedName.name).Nodup)
    (hexposes : ∀ m, fe (Source.assemble desc declarations).text = .ok m → m.Exposes desc)
    {outcome : BuildOutcome} (hbuilt : (t.build desc declarations r).1.1 = .ok outcome)
    (hnew : outcome ≠ .unchanged) :
    let built := t.build desc declarations r
    ∃ p, built.1.2.get? desc.name = some p ∧
      p.uniforms = (List.range desc.uniforms.length).map (fun k => some ⟨k⟩) ∧
      p.samplers
        = (List.range desc.samplers.length).map (fun k => some ⟨desc.uniforms.length + k⟩) ∧
      p.restyle desc = p ∧
      ∀ (calls : List ((a : Answer) × Call a)) (passes : PassTable) (cache : ImageCache)
        (style : ShaderDesc) (before : List Invocation) (i : Invocation)
        (after : List Invocation) (report : FrameReport),
        passes.get? i.shader = some (p.restyle style) →
        let start := afterCalls calls built.2
        let reached := (invokeAll passes cache before report start).2
        let ended := (invokeAll passes cache (before ++ i :: after) report start).2
        (i.invoke passes cache reached).1.result = .ok () →
        ∃ d later, ended.commands = reached.commands ++ .draw d :: later ∧
          (i.invoke passes cache reached).2.commands = reached.commands ++ [.draw d] ∧
          (p.restyle style).DrawsByPosition cache i (reached.value? p.program) d := by
  intro built
  obtain ⟨m, program, framebuffer, hm, htable, hlayout⟩ := PassTable.build_compiled hbuilt hnew
  have h := hexposes m hm
  let p := Pass.make desc (Source.assemble desc declarations).text program framebuffer
    ((Layout.ofModule m).locate desc.uniforms) ((Layout.ofModule m).locate desc.samplers)
  have huniforms := h.locate_uniforms hnames
  have hsamplers := h.locate_samplers hnames
  refine ⟨p, ?_, huniforms, hsamplers, rfl, ?_⟩
  · rw [show built.1.2 = t.put p from htable, PassTable.get?_put]
    exact if_pos rfl
  · intro calls passes cache style before i after report hpass start reached ended hok
    have hpositioned : (p.restyle style).Positioned (.ofModule m) := by
      refine ⟨?_, ?_, ?_, Pass.outputSlots_nodup style⟩
      · rw [h.length_uniforms]
        exact huniforms
      · rw [h.length_uniforms, h.length_samplers]
        exact hsamplers
      · rw [h.length_samplers]
        exact Nat.le_trans h.length_samplers_le (by decide)
    have hreached : reached.HasLayout program (.ofModule m) :=
      Invocation.keeps_invokeAll (fun call _ _ h => h.perform call) passes cache before report start
        (hlayout.afterCalls calls)
    obtain ⟨d, hone, hdraws⟩ := i.invoke_ok hpositioned hreached hpass hok
    obtain ⟨-, draws, -, -, -, -, hlater⟩ := invokeAll_records passes cache after
      ((invokeAll passes cache before report start).1.count (i.invoke passes cache reached).1)
      (i.invoke passes cache reached).2
    refine ⟨d, draws.map .draw, ?_, hone, hdraws⟩
    have hended : ended = (invokeAll passes cache after
        ((invokeAll passes cache before report start).1.count (i.invoke passes cache reached).1)
        (i.invoke passes cache reached).2).2 := by
      rw [show ended = _ from congrArg Prod.snd (invokeAll_append passes cache before (i :: after)
        report start)]
      rfl
    rw [hended, hlater, hone, List.append_assoc]
    rfl

/-- A pass with a uniform, two samplers and two outputs. -/
def blending : ShaderDesc where
  name := "blend"
  includes := []
  uniforms := [⟨"gain", "float"⟩, ⟨"bias", "float"⟩]
  samplers := [⟨"base", "sampler2D"⟩, ⟨"mask", "sampler2D"⟩]
  outputs := [⟨"out_color", "vec4"⟩, ⟨"glow", "vec4"⟩]
  body := ⟨"", 1⟩
  blendMode := .overwrite

/-- Finds in every text what that pass declares, and lists its samplers backwards. -/
def blendingModule : Program.FrontEnd := fun _ =>
  .ok ⟨[⟨some "mask_texture", .handle, some ⟨1, 2⟩, .image⟩,
    ⟨some "mask_sampler", .handle, some ⟨1, 3⟩, .sampler⟩,
    ⟨some "base_texture", .handle, some ⟨1, 0⟩, .image⟩,
    ⟨some "base_sampler", .handle, some ⟨1, 1⟩, .sampler⟩,
    ⟨none, .uniform, some ⟨0, 0⟩, .block [⟨some "gain", 0, none⟩, ⟨some "bias", 4, none⟩] 16⟩], []⟩

/-- An invocation leaves out the second uniform and the second output, after one that does not,
and its second image is not there. -/
theorem draws_by_position_sample :
    let built := PassTable.empty.build blending [] ({} : Recorder blendingModule)
    let size : Extent := ⟨8, 8⟩
    let calls : List ((a : Answer) × Call a) :=
      [⟨_, .createTexture .rgba8 size⟩, ⟨_, .createTexture .rgba8 size⟩]
    let cache := (ImageCache.empty.store ⟨0, .rgba8, size, .cached⟩ ⟨3⟩).store
      ⟨7, .rgba8, size, .cached⟩ ⟨4⟩
    let full : Invocation := ⟨"blend", [none, some (.float .one)], [⟨7⟩, ⟨7⟩], [⟨0⟩, ⟨7⟩]⟩
    let i : Invocation := ⟨"blend", [some (.float .zero)], [⟨7⟩, ⟨9⟩], [⟨0⟩]⟩
    let report : FrameReport := { outcome := .rendered }
    let reached := (invokeAll built.1.2 cache [full] report (afterCalls calls built.2)).2
    ∃ d, (i.invoke built.1.2 cache reached).2.commands = reached.commands ++ [.draw d] ∧
      d.samplers = [some ⟨4⟩, none] ∧ d.uniforms.get? 0 = some (.float .zero) ∧
      d.uniforms.get? 1 = some (.float .one) ∧ d.attachments.map Prod.fst = [0] := by
  intro built size calls cache full i report reached
  have hnames : ((blending.uniforms ++ blending.samplers).map TypedName.name).Nodup := by decide
  have hexposes : ∀ m, blendingModule (Source.assemble blending []).text = .ok m →
      m.Exposes blending := by
    intro m hm
    cases hm
    exact ⟨by decide, by decide, by decide⟩
  have hbuilt : built.1.1 = .ok .created := by rfl
  obtain ⟨p, hp, huniforms, hsamplers, hsame, hall⟩ :=
    draws_by_position hnames hexposes hbuilt (by decide)
  have hpass : built.1.2.get? i.shader = some (p.restyle blending) := by
    rw [hsame]
    exact hp
  obtain ⟨d, -, -, hone, hdraws⟩ :=
    hall calls built.1.2 cache blending [full] i [] report hpass (by decide +kernel)
  have hprogram : some p.program = some ⟨1⟩ :=
    (congrArg (Option.map Pass.program) hp).symm.trans (by decide +kernel)
  have hlength : (p.restyle blending).uniforms.length = 2 := congrArg List.length huniforms
  have hlength' : (p.restyle blending).samplers.length = 2 := congrArg List.length hsamplers
  refine ⟨d, ?_, ?_, ?_, ?_, ?_⟩
  · with_reducible exact hone
  · rw [hdraws.samplers, hlength']
    decide +kernel
  · rw [hdraws.values 0 (by omega)]
    rfl
  · rw [hdraws.values 1 (by omega), Option.some.inj hprogram]
    decide +kernel
  · rw [Invocation.slots_resolved hdraws.attachments]
    rfl

end FrameGraph
