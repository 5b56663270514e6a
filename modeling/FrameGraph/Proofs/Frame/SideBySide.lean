import FrameGraph.Proofs.Frame.Drawing
import FrameGraph.Proofs.Frame.Leftover

/-!
# One invocation on two backends

An invocation binds its textures, attachments and targets anew, so that whatever was bound
before does not matter, as long as its pass binds all samplers of its program
(`PassTable.BindsSamplers`): the samplers of a program that are left out read what somebody
else has bound. The uniforms that an invocation sets are the same on both backends from then
on; those that it leaves alone are as they were. So a draw on two backends that are the same
but for some cells is the same but for those of them that the invocation does not write.

Results:
* `Wired.sampled`, `Attached.aim`, `Sized.blend`: what is bound the same, step by step.
* `coupled_invoke`: an invocation that draws on a fair backend draws on a willing one.
-/
namespace FrameGraph

open Gpu
open Program (Location)

variable {π δ : Type} [Memory π]

/-! ## Two programs at work -/

namespace Gpu

variable {p : ProgramId} {m₀ : π} {S : Cells} {o o' : Objects π}

/-- The program is at work on both sides, which are the same but for some cells. -/
structure Beside (p : ProgramId) (m₀ : π) (S : Cells) (o o' : Objects π) : Prop where
  same : Same S o o'
  left : Working p m₀ o
  right : o'.current = some p

theorem Beside.stage {a : Answer} {call : Call a} {f : StateM (Objects π) a.Of}
    (h : Beside p m₀ S o o') (hf : Objects.stage call = some f) (hcall : ¬ call.uses) :
    (f o).1 = (f o').1 ∧ Beside p m₀ S (f o).2 (f o').2 := by
  obtain ⟨m, hm, -⟩ := h.left.memory
  obtain ⟨m', hm', -⟩ := h.same.memories p m hm
  have hright : Working p m' o' := ⟨h.right, m', hm', .refl m'⟩
  obtain ⟨hanswer, hsame⟩ := h.same.stage hf
  exact ⟨hanswer, hsame, h.left.stage hf hcall, (hright.stage hf hcall).current⟩

theorem Beside.put (h : Beside p m₀ S o o') (l : Location) (v : UniformValue) :
    Beside p m₀ (S \ Cells.at p (Memory.cells l v m₀)) (o.put l v) (o'.put l v) := by
  refine ⟨h.same.put l v h.left h.right, h.left.put l v, ?_⟩
  rw [Objects.put_eq]
  exact h.right

/-- A sampler of the program, and its location. -/
def Sampler (m₀ : π) (k : Nat) (l : Location) : Prop :=
  k < Memory.samplers m₀ ∧ k < (Memory.layout m₀).samplers.length ∧
    l = ⟨(Memory.layout m₀).uniforms.length + k⟩

/-- The first `n` texture units have the same textures, and each sampler of `K` reads one of
the first `n'` units, the same on both sides. -/
structure Wired (p : ProgramId) (m₀ : π) (S : Cells) (n n' : Nat) (K : Nat → Prop)
    (o o' : Objects π) : Prop extends Beside p m₀ S o o' where
  units : ∀ j < n, o.units.get? (.ofNat j) = o'.units.get? (.ofNat j)
  reads : ∀ k, K k → ∀ m m', o.programs.get? p = some m → o'.programs.get? p = some m' →
    ∃ j < n', Memory.unit m k = .ofNat j ∧ Memory.unit m' k = .ofNat j

variable {n n' index : Nat} {K : Nat → Prop}

/-- A unit that is set is read by the sampler that it is set for. -/
theorem Wired.put (h : Wired p m₀ S n n' K o o') (hK : ∀ k, K k → ∃ l, Sampler m₀ k l)
    (l : Location) (hindex : index < n') :
    Wired p m₀ (S \ Cells.at p (Memory.cells l (.int (UInt32.ofNat index).toInt32) m₀)) n n'
      (fun k => K k ∨ Sampler m₀ k l) (o.put l (.int (UInt32.ofNat index).toInt32))
      (o'.put l (.int (UInt32.ofNat index).toInt32)) := by
  refine ⟨h.toBeside.put l _, ?_, fun k hk n₁ n₂ hn₁ hn₂ => ?_⟩
  · rw [Objects.put_eq, Objects.put_eq _ _ o']
    exact h.units
  · obtain ⟨m, hm, hlike⟩ := h.left.memory
    obtain ⟨m', hm', hagree⟩ := h.same.memories p m hm
    obtain ⟨hlayout, hsamplers⟩ := Memory.agree_shape hagree
    rw [Objects.get?_put l _ h.left.current hm, if_pos rfl] at hn₁
    rw [Objects.get?_put l _ h.right hm', if_pos rfl] at hn₂
    cases hn₁
    cases hn₂
    obtain ⟨l', hsampler⟩ : ∃ l', Sampler m₀ k l' := hk.elim (hK k) fun hl => ⟨l, hl⟩
    obtain ⟨hk₁, hk₂, -⟩ := hsampler
    rw [← hlike.samplers] at hk₁
    rw [← hlike.layout] at hk₂
    rw [Memory.unit_take l _ hk₁ hk₂, Memory.unit_take l _ (hsamplers ▸ hk₁) (hlayout ▸ hk₂),
      ← hlayout]
    dsimp only
    split
    · -- the unit that was just set, or unit 0
      rcases Memory.unitOf_word (π := π) (.ofNat index) with hu | hu <;> rw [hu]
      · exact ⟨index, hindex, rfl, rfl⟩
      · exact ⟨0, by omega, rfl, rfl⟩
    · next hl =>
      refine h.reads k (hk.resolve_right fun hl' => hl ?_) m m' hm hm'
      rw [hlike.layout]
      exact hl'.2.2

theorem Wired.widen (h : Wired p m₀ S n n' K o o') {n'' : Nat} (hn : n' ≤ n'') :
    Wired p m₀ S n n'' K o o' where
  toBeside := h.toBeside
  units := h.units
  reads k hk m m' hm hm' := by
    obtain ⟨j, hj, hu⟩ := h.reads k hk m m' hm hm'
    exact ⟨j, by omega, hu⟩

omit [Memory π] in
/-- The units bound so far are bound alike, and so is the next one. -/
theorem units_bindTexture
    (h : ∀ j < n, o.units.get? (.ofNat j) = o'.units.get? (.ofNat j)) (t : Option TextureId) :
    ∀ j < n + 1, (o.bindTexture (.ofNat n) t).units.get? (.ofNat j)
      = (o'.bindTexture (.ofNat n) t).units.get? (.ofNat j) := by
  intro j hj
  have hearlier : j ≠ n → o.units.get? (.ofNat j) = o'.units.get? (.ofNat j) :=
    fun hne => h j (by omega)
  cases t <;> simp only [Objects.bindTexture, Dict.get?_insert, Dict.get?_erase] <;> split
  · rfl
  · next hne => exact hearlier fun hj => hne (by rw [hj])
  · rfl
  · next hne => exact hearlier fun hj => hne (by rw [hj])

theorem Wired.bindTexture (h : Wired p m₀ S n n' K o o') (t : Option TextureId) :
    Wired p m₀ S (n + 1) n' K (o.bindTexture (.ofNat n) t) (o'.bindTexture (.ofNat n) t) := by
  have hstage : Objects.stage (π := π) (.bindTexture (.ofNat n) t) = some _ := rfl
  refine ⟨(h.toBeside.stage hstage id).2, units_bindTexture h.units t, ?_⟩
  cases t <;> exact h.reads

/-- Every sampler of the program reads the same texture on both sides. -/
structure Sampled (p : ProgramId) (m₀ : π) (S : Cells) (o o' : Objects π) : Prop
    extends Beside p m₀ S o o' where
  sampled : ∀ m m', o.programs.get? p = some m → o'.programs.get? p = some m' →
    ∀ k < Memory.samplers m,
      o.units.get? (Memory.unit m k) = o'.units.get? (Memory.unit m' k)

theorem Wired.sampled (h : Wired p m₀ S n n K o o') (hK : ∀ k < Memory.samplers m₀, K k) :
    Sampled p m₀ S o o' := by
  refine ⟨h.toBeside, fun m m' hm hm' k hk => ?_⟩
  obtain ⟨m₁, hm₁, hlike⟩ := h.left.memory
  rw [hm] at hm₁
  cases hm₁
  rw [hlike.samplers] at hk
  obtain ⟨j, hj, hu, hu'⟩ := h.reads k (hK k hk) m m' hm hm'
  rw [hu, hu']
  exact h.units j hj

/-- The textures attached at these slots are the same. -/
structure Attached (p : ProgramId) (m₀ : π) (S : Cells) (f : FramebufferId) (slots : List UInt32)
    (o o' : Objects π) : Prop extends Sampled p m₀ S o o' where
  attached : ∀ t t', o.framebuffers.get? f = some t → o'.framebuffers.get? f = some t' →
    ∀ slot ∈ slots, t.attachments.get? slot = t'.attachments.get? slot

variable {f : FramebufferId} {slots : List UInt32} {slot : UInt32}

theorem get?_attach (t : Targets) (slot s : UInt32) (texture : Option TextureId) :
    (t.attach slot texture).attachments.get? s
      = if s = slot then texture else t.attachments.get? s := by
  cases texture <;> simp [Targets.attach]

theorem Attached.attach (h : Attached p m₀ S f slots o o') (slot : UInt32)
    (texture : Option TextureId) :
    (attempt (fun o => o.attachColor f slot texture) o).1
      = (attempt (fun o => o.attachColor f slot texture) o').1 ∧
    ((attempt (fun o => o.attachColor f slot texture) o).1 = .ok () →
      Attached p m₀ S f (slot :: slots) (attempt (fun o => o.attachColor f slot texture) o).2
        (attempt (fun o => o.attachColor f slot texture) o').2) := by
  have hstage : Objects.stage (π := π) (.attachColor f slot texture) = some _ := rfl
  obtain ⟨hanswer, hbeside⟩ := h.toBeside.stage hstage id
  refine ⟨hanswer, fun hok => ?_⟩
  rcases h.same.attachColor f slot texture with ⟨e, he, -⟩ | ⟨t, t', ht, ht', hs, hs'⟩
  · rw [attempt_of_error he] at hok
    cases hok
  · rw [attempt_of_ok hs, attempt_of_ok hs'] at hbeside ⊢
    refine ⟨⟨hbeside, h.sampled⟩, fun u u' hu hu' s hslot => ?_⟩
    simp only [Objects.setTargets, Dict.get?_insert, if_true, Option.some.injEq] at hu hu'
    rw [← hu, ← hu', get?_attach, get?_attach]
    split
    · rfl
    · next hne => exact h.attached t t' ht ht' s (List.mem_of_ne_of_mem hne hslot)

/-- Draws into the framebuffer write the same textures. -/
structure Aimed (p : ProgramId) (m₀ : π) (S : Cells) (f : FramebufferId) (o o' : Objects π) :
    Prop extends Sampled p m₀ S o o' where
  drawn : ∃ t t', o.framebuffers.get? f = some t ∧ o'.framebuffers.get? f = some t' ∧
    t.drawn = t'.drawn

theorem Attached.aim (h : Attached p m₀ S f slots o o') {buffers : List UInt32}
    (hbuffers : ∀ slot ∈ buffers, slot ∈ slots) :
    (attempt (fun o => o.setDrawBuffers f buffers) o).1
      = (attempt (fun o => o.setDrawBuffers f buffers) o').1 ∧
    ((attempt (fun o => o.setDrawBuffers f buffers) o).1 = .ok () →
      Aimed p m₀ S f (attempt (fun o => o.setDrawBuffers f buffers) o).2
        (attempt (fun o => o.setDrawBuffers f buffers) o').2) := by
  have hstage : Objects.stage (π := π) (.setDrawBuffers f buffers) = some _ := rfl
  obtain ⟨hanswer, hbeside⟩ := h.toBeside.stage hstage id
  refine ⟨hanswer, fun hok => ?_⟩
  rcases h.same.setDrawBuffers f buffers with ⟨e, he, -⟩ | ⟨t, t', ht, ht', hs, hs'⟩
  · rw [attempt_of_error he] at hok
    cases hok
  · rw [attempt_of_ok hs, attempt_of_ok hs'] at hbeside ⊢
    refine ⟨⟨hbeside, h.sampled⟩, { t with drawBuffers := buffers },
      { t' with drawBuffers := buffers }, ?_, ?_, ?_⟩
    · simp [Objects.setTargets]
    · simp [Objects.setTargets]
    · refine List.filterMap_congr fun slot hslot => ?_
      rw [h.attached t t' ht ht' slot (hbuffers slot hslot)]

/-- Draws go into the framebuffer. -/
structure Bound (p : ProgramId) (m₀ : π) (S : Cells) (f : FramebufferId) (o o' : Objects π) :
    Prop extends Aimed p m₀ S f o o' where
  bound : o.bound = some f ∧ o'.bound = some f

theorem Aimed.bind (h : Aimed p m₀ S f o o') :
    Bound p m₀ S f { o with bound := some f } { o' with bound := some f } :=
  ⟨⟨⟨⟨{ h.same with }, { h.left with }, h.right⟩, h.sampled⟩, h.drawn⟩, rfl, rfl⟩

/-- Draws into the framebuffer are of one size. -/
structure Sized (p : ProgramId) (m₀ : π) (S : Cells) (f : FramebufferId) (o o' : Objects π) :
    Prop extends Bound p m₀ S f o o' where
  viewport : o.viewport = o'.viewport

theorem Bound.size (h : Bound p m₀ S f o o') (size : Extent) :
    Sized p m₀ S f { o with viewport := size } { o' with viewport := size } :=
  ⟨⟨⟨⟨⟨{ h.same with }, { h.left with }, h.right⟩, h.sampled⟩, h.drawn⟩, h.bound⟩, rfl⟩

/-- All is the same for the next draw. -/
structure Ready (p : ProgramId) (m₀ : π) (S : Cells) (o o' : Objects π) : Prop
    extends Beside p m₀ S o o' where
  poised : Poised S o o'

theorem Sized.blend (h : Sized p m₀ S f o o') (blend : BlendState) :
    Ready p m₀ S { o with blend } { o' with blend } := by
  obtain ⟨m, hm, -⟩ := h.left.memory
  obtain ⟨m', hm', hagree⟩ := h.same.memories p m hm
  obtain ⟨t, t', ht, ht', hdrawn⟩ := h.drawn
  obtain ⟨hbound, hbound'⟩ := h.bound
  exact ⟨⟨{ h.same with }, { h.left with }, h.right⟩,
    ⟨h.same.textures, h.same.surface, h.viewport, rfl,
      ⟨p, m, m', Objects.inUse_eq_ok h.left.current hm, Objects.inUse_eq_ok h.right hm', hagree,
        h.sampled m m' hm hm'⟩,
      ⟨f, t, t', hbound, hbound', Objects.framebuffer_of_some ht, Objects.framebuffer_of_some ht',
        hdrawn⟩⟩⟩

end Gpu

/-! ## One invocation, carried out on both sides -/

/-- Each pass binds all samplers that its program has. -/
def PassTable.BindsSamplers (passes : PassTable) (o : Objects π) : Prop :=
  ∀ name pass, passes.get? name = some pass → ∀ m, o.programs.get? pass.program = some m →
    ∀ k < Memory.samplers m, ∃ l, some l ∈ pass.samplers ∧ Sampler m k l

namespace Invocation

section
variable {σ τ : Type} [Backend σ] [Backend τ] [Depicting π δ] [Staged σ π δ] [Staged τ π δ]
  {p : ProgramId} {m₀ : π} {S : Cells} {o o' : Objects π} {ds ds' : List δ}

theorem sdiff_at_written_nil : S \ Cells.at p (Memory.written m₀ []) = S := by
  rw [Memory.written_nil, Cells.at_empty, Set.sdiff_empty]

theorem sdiff_at_written_cons (a : Location × UniformValue)
    (as : List (Location × UniformValue)) :
    S \ Cells.at p (Memory.written m₀ (a :: as))
      = (S \ Cells.at p (Memory.cells a.1 a.2 m₀)) \ Cells.at p (Memory.written m₀ as) := by
  rw [Memory.written_cons, Cells.at_union, Set.sdiff_sdiff]

theorem sdiff_at_written_append (as as' : List (Location × UniformValue)) :
    S \ Cells.at p (Memory.written m₀ (as ++ as'))
      = (S \ Cells.at p (Memory.written m₀ as)) \ Cells.at p (Memory.written m₀ as') := by
  rw [Memory.written_append, Cells.at_union, Set.sdiff_sdiff]

theorem coupled_setUniforms (ls : List (Option Location)) (vs : List (Option UniformValue)) :
    Coupled (σ := σ) (τ := τ) (Facing (Beside p m₀ S) ds ds') (setUniforms ls vs)
      (setUniforms ls vs) fun _ _ => Facing
        (Beside p m₀ (S \ Cells.at p (Memory.written m₀ (uniformSettings ls vs)))) ds ds' := by
  have hnil : ∀ S : Cells, Coupled (σ := σ) (τ := τ) (Facing (Beside p m₀ S) ds ds') (pure ())
      (pure ()) fun _ _ =>
        Facing (Beside p m₀ (S \ Cells.at p (Memory.written m₀ []))) ds ds' := by
    intro S
    rw [sdiff_at_written_nil]
    exact Coupled.pure fun _ _ h => h
  induction ls generalizing vs S with
  | nil => cases vs <;> exact hnil S
  | cons l ls ih =>
    rcases vs with _ | ⟨v, vs⟩
    · cases l <;> exact hnil S
    · cases l <;> cases v
      case some.some l v =>
        rw [uniformSettings, sdiff_at_written_cons]
        exact Coupled.bind (Coupled.discard (coupled_set l v fun _ _ h => h.put l v))
          fun _ _ => ih vs
      all_goals exact ih vs

/-- Once the samplers are bound, each of them reads one of the units bound. -/
theorem coupled_bindSamplers (cache : ImageCache) (i : Invocation) (index : Nat)
    (ls : List (Option Location)) {K K' : Nat → Prop} (hK : ∀ k, K k → ∃ l, Sampler m₀ k l)
    (hK' : ∀ k, K' k → K k ∨ ∃ l, some l ∈ ls ∧ Sampler m₀ k l) :
    Coupled (σ := σ) (τ := τ) (Facing (Wired p m₀ S index index K) ds ds')
      (i.bindSamplers cache index ls) (i.bindSamplers cache index ls) fun _ _ =>
        Facing (Wired p m₀ (S \ Cells.at p (Memory.written m₀ (samplerSettings index ls)))
          (index + ls.length) (index + ls.length) K') ds ds' := by
  induction ls generalizing index S K with
  | nil =>
    rw [samplerSettings, sdiff_at_written_nil]
    refine Coupled.pure fun _ _ h => h.imp fun hwired => ⟨hwired.toBeside, hwired.units, ?_⟩
    exact fun k hk => hwired.reads k ((hK' k hk).resolve_right fun ⟨l, hl, _⟩ => by cases hl)
  | cons l ls ih =>
    have hlength : index + (l :: ls).length = index + 1 + ls.length := by
      rw [List.length_cons]
      omega
    rw [hlength]
    have hbind : ∀ {S : Cells} {K : Nat → Prop},
        Coupled (σ := σ) (τ := τ) (Facing (Wired p m₀ S index (index + 1) K) ds ds')
          (bindTexture (.ofNat index) (samplerTexture cache i index))
          (bindTexture (.ofNat index) (samplerTexture cache i index)) fun r r' b c =>
            r = r' ∧ Facing (Wired p m₀ S (index + 1) (index + 1) K) ds ds' b c :=
      coupled_stage rfl fun _ _ h => ⟨rfl, h.bindTexture _⟩
    cases l with
    | none =>
      refine Coupled.bind_same (Q := fun _ => Facing _ ds ds') (hbind.weaken
        (fun _ _ h => ?_) fun _ _ _ _ h => h) fun _ => ih (index + 1) hK fun k hk => ?_
      · exact h.imp fun hwired => hwired.widen (Nat.le_succ _)
      · simpa using hK' k hk
    | some l =>
      rw [samplerSettings, sdiff_at_written_cons]
      refine Coupled.bind (Coupled.discard (coupled_set l _ fun _ _ h =>
        (h.widen (Nat.le_succ index)).put hK l (Nat.lt_succ_self index))) fun _ _ => ?_
      refine Coupled.bind_same (Q := fun _ => Facing _ ds ds') hbind fun _ =>
        ih (index + 1) ?_ fun k hk => ?_
      · exact fun k hk => hk.elim (hK k) fun hl => ⟨l, hl⟩
      · rcases hK' k hk with hk | ⟨l', hl', hsampler⟩
        · exact .inl (.inl hk)
        · rcases List.mem_cons.1 hl' with hl' | hl'
          · cases hl'
            exact .inl (.inr hsampler)
          · exact .inr ⟨l', hl', hsampler⟩

/-- If everything is attached on one side, it is on both. -/
theorem coupled_attachAll (f : FramebufferId) (todo : List (UInt32 × Option TextureId))
    {done slots : List UInt32} (hslots : ∀ s ∈ slots, s ∈ done ∨ s ∈ todo.map Prod.fst) :
    Coupled (σ := σ) (τ := τ) (Facing (Attached p m₀ S f done) ds ds') (attachAll f todo)
      (attachAll f todo) fun r r' b c =>
        r = r' ∧ (r = .ok () → Facing (Attached p m₀ S f slots) ds ds' b c) := by
  induction todo generalizing done with
  | nil =>
    refine Coupled.pure fun _ _ h => ⟨rfl, fun _ => h.imp fun hattached =>
      ⟨hattached.toSampled, fun t t' ht ht' s hs => ?_⟩⟩
    exact hattached.attached t t' ht ht' s ((hslots s hs).resolve_right (by simp))
  | cons a todo ih =>
    have hattach : Coupled (σ := σ) (τ := τ) (Facing (Attached p m₀ S f done) ds ds')
        (attachColor f a.1 a.2) (attachColor f a.1 a.2)
        fun r r' b c => r = r' ∧
          Facing (fun o o' => r = .ok () → Attached p m₀ S f (a.1 :: done) o o') ds ds' b c :=
      coupled_stage rfl fun _ _ h => h.attach a.1 a.2
    refine Coupled.bind_same hattach fun answer => ?_
    cases answer with
    | error e => exact Coupled.pure fun _ _ _ => ⟨rfl, nofun⟩
    | ok _ =>
      refine (ih fun s hs => ?_).weaken (fun _ _ h => h.imp fun hnext => hnext rfl)
        fun _ _ _ _ h => h
      rcases hslots s hs with hs | hs
      · exact .inl (List.mem_cons_of_mem _ hs)
      · rw [List.map_cons, List.mem_cons] at hs
        rcases hs with rfl | hs
        · exact .inl List.mem_cons_self
        · exact .inr hs

/-- If one side draws, so does the other, and the draws are the same but for some cells. -/
def BothDrawn (R : Objects π → Objects π → Prop) (S : Cells) (ds ds' : List δ) {ε : Type}
    (r r' : Except ε Unit) (b : σ) (c : τ) : Prop :=
  r = .ok () → r' = .ok () ∧ ∃ d d', Depicting.Alike π S d d' ∧
    Facing R (ds ++ [d]) (ds' ++ [d']) b c

theorem coupled_drawInto (plan : DrawPlan) :
    Coupled (σ := σ) (τ := τ) (Facing (Aimed p m₀ S plan.pass.framebuffer) ds ds')
      (drawInto plan) (drawInto plan) (BothDrawn (Beside p m₀ S) S ds ds') := by
  let f := plan.pass.framebuffer
  have hbind : Coupled (σ := σ) (τ := τ) (Facing (Aimed p m₀ S f) ds ds')
      (bindFramebuffer (some f)) (bindFramebuffer (some f))
      fun r r' b c => r = r' ∧ Facing (Bound p m₀ S f) ds ds' b c :=
    coupled_stage rfl fun _ _ h => ⟨rfl, h.bind⟩
  have hsize : Coupled (σ := σ) (τ := τ) (Facing (Bound p m₀ S f) ds ds')
      (setViewport plan.size) (setViewport plan.size)
      fun r r' b c => r = r' ∧ Facing (Sized p m₀ S f) ds ds' b c :=
    coupled_stage rfl fun _ _ h => ⟨rfl, h.size plan.size⟩
  have hblend : Coupled (σ := σ) (τ := τ) (Facing (Sized p m₀ S f) ds ds')
      (setBlend plan.pass.blendMode.state) (setBlend plan.pass.blendMode.state)
      fun r r' b c => r = r' ∧ Facing (Ready p m₀ S) ds ds' b c :=
    coupled_stage rfl fun _ _ h => ⟨rfl, h.blend plan.pass.blendMode.state⟩
  have hdraw : Coupled (σ := σ) (τ := τ) (Facing (Ready p m₀ S) ds ds') drawFullscreen
      drawFullscreen (BothDrawn (Beside p m₀ S) S ds ds') :=
    (coupled_draw fun _ _ h => h.poised).weaken (fun _ _ h => h) fun r r' b c h hr => by
      obtain ⟨hr', d, d', halike, hfacing⟩ := h hr
      exact ⟨hr', d, d', halike, hfacing.imp Ready.toBeside⟩
  refine Coupled.bind_same hbind fun _ => Coupled.bind_same hsize fun _ =>
    Coupled.bind_same hblend fun _ => Coupled.bind hdraw fun r r' => ?_
  -- whatever came of the draw, the surface is bound again
  intro b c h hr
  obtain ⟨hr', d, d', halike, hfacing⟩ := h hr
  have hunbind : Coupled (σ := σ) (τ := τ) (Facing (Beside p m₀ S) (ds ++ [d]) (ds' ++ [d']))
      (bindFramebuffer none) (bindFramebuffer none)
      fun r r' b c => r = r' ∧ Facing (Beside p m₀ S) (ds ++ [d]) (ds' ++ [d']) b c :=
    coupled_stage rfl fun _ _ h => ⟨rfl, { h.same with }, { h.left with }, h.right⟩
  exact ⟨hr', d, d', halike, (hunbind b c hfacing).2⟩

theorem coupled_render (plan : DrawPlan) :
    Coupled (σ := σ) (τ := τ) (Facing (Sampled p m₀ S) ds ds') (render plan) (render plan)
      (BothDrawn (Beside p m₀ S) S ds ds') := by
  let f := plan.pass.framebuffer
  let slots := plan.targets.map Prod.fst
  have hslots : ∀ s ∈ slots, s ∈ [] ∨ s ∈ plan.slots.map Prod.fst := by
    intro s hs
    obtain ⟨t, ht, rfl⟩ := List.mem_map.1 hs
    refine .inr (List.mem_map.2 ⟨(t.1, some t.2), ?_, rfl⟩)
    exact List.mem_append_left _ (List.mem_map.2 ⟨t, ht, rfl⟩)
  have hattach : Coupled (σ := σ) (τ := τ) (Facing (Sampled p m₀ S) ds ds')
      (attachAll f plan.slots) (attachAll f plan.slots)
      fun r r' b c => r = r' ∧ (r = .ok () → Facing (Attached p m₀ S f slots) ds ds' b c) :=
    (coupled_attachAll f plan.slots hslots).weaken
      (fun _ _ h => h.imp fun hsampled => ⟨hsampled, fun _ _ _ _ s hs => by cases hs⟩)
      fun _ _ _ _ h => h
  refine Coupled.bind_same hattach fun answer => ?_
  cases answer with
  | error e => exact Coupled.pure fun _ _ _ => nofun
  | ok _ =>
    have haim : Coupled (σ := σ) (τ := τ) (Facing (Attached p m₀ S f slots) ds ds')
        (setDrawBuffers f slots) (setDrawBuffers f slots)
        fun r r' b c => r = r' ∧
          Facing (fun o o' => r = .ok () → Aimed p m₀ S f o o') ds ds' b c :=
      coupled_stage rfl fun _ _ h => h.aim fun _ hs => hs
    refine Coupled.bind_same (haim.weaken (fun _ _ h => h rfl) fun _ _ _ _ h => h)
      fun answer => ?_
    cases answer with
    | error e => exact Coupled.pure fun _ _ _ => nofun
    | ok _ =>
      exact (coupled_drawInto plan).weaken (fun _ _ h => h.imp fun hnext => hnext rfl)
        fun _ _ _ _ h => h

theorem coupled_useProgram_none {program : ProgramId} {o : Objects π}
    (hm : o.programs.get? program = none) :
    Coupled (σ := σ) (τ := τ) (Facing (fun o₁ o₂ => o₁ = o ∧ Same S o₁ o₂) ds ds')
      (useProgram program) (useProgram program)
      fun r r' b c => r = r' ∧ Facing (fun _ _ => ∃ e, r = .error e) ds ds' b c :=
  coupled_stage rfl fun o₁ o₂ ⟨ho, hsame⟩ => by
    subst ho
    rw [attempt_of_error (Objects.useProgram_of_none hm),
      attempt_of_error (Objects.useProgram_of_none (hsame.dead program hm))]
    exact ⟨rfl, _, rfl⟩

theorem coupled_useProgram_some {program : ProgramId} {o : Objects π} {m : π}
    (hm : o.programs.get? program = some m) :
    Coupled (σ := σ) (τ := τ) (Facing (fun o₁ o₂ => o₁ = o ∧ Same S o₁ o₂) ds ds')
      (useProgram program) (useProgram program)
      fun r r' b c => r = r' ∧ Facing (Beside program m S) ds ds' b c :=
  coupled_stage rfl fun o₁ o₂ ⟨ho, hsame⟩ => by
    subst ho
    obtain ⟨m', hm', -⟩ := hsame.memories program m hm
    rw [attempt_of_ok (Objects.useProgram_of_some hm),
      attempt_of_ok (Objects.useProgram_of_some hm')]
    exact ⟨rfl, { hsame with }, ⟨rfl, m, hm, .refl m⟩, rfl⟩

/-- An invocation that draws leaves nothing different in the cells that it writes. -/
theorem coupled_carryOut (cache : ImageCache) (i : Invocation) (plan : DrawPlan)
    {o : Objects π} (hbinds : ∀ m, o.programs.get? plan.pass.program = some m →
      ∀ k < Memory.samplers m, ∃ l, some l ∈ plan.pass.samplers ∧ Sampler m k l) :
    let S' := S \ i.overwrites plan.pass o
    Coupled (σ := σ) (τ := τ) (Facing (fun o₁ o₂ => o₁ = o ∧ Same S o₁ o₂) ds ds')
      (i.carryOut cache plan) (i.carryOut cache plan)
      fun a a' => BothDrawn (Same S') S' ds ds' a.result a'.result := by
  intro S'
  let program := plan.pass.program
  cases hm : o.programs.get? program with
  | none =>
    refine Coupled.bind_same (coupled_useProgram_none hm) fun answer => ?_
    cases answer with
    | error e => exact Coupled.pure fun _ _ _ => nofun
    | ok _ =>
      intro b c h
      obtain ⟨e, he⟩ := h.related
      cases he
  | some m =>
    refine Coupled.bind_same (coupled_useProgram_some hm) fun answer => ?_
    cases answer with
    | error e => exact Coupled.pure fun _ _ _ => nofun
    | ok _ =>
      let S₁ := S \ Cells.at program
        (Memory.written m (uniformSettings plan.pass.uniforms i.uniforms))
      have hS' : S' = S₁ \ Cells.at program
          (Memory.written m (samplerSettings 0 plan.pass.samplers)) := by
        rw [← sdiff_at_written_append, ← settings, ← i.overwrites_eq hm]
      have hsamplers : Coupled (σ := σ) (τ := τ) (Facing (Beside program m S₁) ds ds')
          (i.bindSamplers cache 0 plan.pass.samplers) (i.bindSamplers cache 0 plan.pass.samplers)
          fun _ _ => Facing (Sampled program m S') ds ds' := by
        rw [hS']
        refine (coupled_bindSamplers cache i 0 plan.pass.samplers (K := fun _ => False)
          (fun _ => False.elim)
          fun k (hk : k < Memory.samplers m) => .inr (hbinds m hm k hk)).weaken
          (fun _ _ h => h.imp fun hbeside => ⟨hbeside, ?_, fun _ => False.elim⟩)
          fun _ _ _ _ h => h.imp fun hwired => hwired.sampled fun _ hk => hk
        intro j hj
        omega
      have hrender : Coupled (σ := σ) (τ := τ) (Facing (Sampled program m S') ds ds')
          (render plan) (render plan) (BothDrawn (Beside program m S') S' ds ds') :=
        coupled_render plan
      refine Coupled.bind (coupled_setUniforms _ _) fun _ _ => Coupled.bind hsamplers fun _ _ =>
        Coupled.bind hrender fun r r' => Coupled.pure fun b c h hr => ?_
      obtain ⟨rfl, d, d', halike, hfacing⟩ := h (mapError_eq_ok_iff.1 hr)
      exact ⟨rfl, d, d', halike, hfacing.imp Beside.same⟩

/-- If an invocation draws on one side, so it does on the other. -/
theorem coupled_invoke (passes : PassTable) (cache : ImageCache) (i : Invocation)
    {o : Objects π} (hbinds : passes.BindsSamplers o) :
    let S' := S \ i.writes passes cache o
    Coupled (σ := σ) (τ := τ) (Facing (fun o₁ o₂ => o₁ = o ∧ Same S o₁ o₂) ds ds')
      (i.invoke passes cache) (i.invoke passes cache)
      fun a a' => BothDrawn (Same S') S' ds ds' a.result a'.result := by
  intro S'
  have hS' : S' = S \ i.writes passes cache o := rfl
  unfold invoke
  dsimp only
  unfold writes at hS'
  cases hplan : plan passes cache i with
  | error e => exact Coupled.pure fun _ _ _ => nofun
  | ok p =>
    rw [hplan] at hS'
    rw [hS']
    exact Coupled.bind (coupled_carryOut cache i p (hbinds i.shader p.pass (plan_pass hplan)))
      fun _ _ => Coupled.pure fun _ _ h => h

end
end Invocation

end FrameGraph
