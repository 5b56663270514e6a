import FrameGraph.Pass.Table
import FrameGraph.Proofs.Dict.Ordered
import FrameGraph.Proofs.Gpu.Balance

/-!
# Building passes and the objects they own

Passes are the only ones that own programs and framebuffers. Building a table
creates and deletes some of both, and may fail between any two calls; the objects
of the table are afterwards those that are live, as they were before. Programs
that are held elsewhere are left alone.

Results:
* `runs_build`, `runs_buildAll`: building keeps the balance, and loses no pass.
* `runs_retain`, `runs_releaseAll`: what goes from the table goes from the backend.
-/
namespace FrameGraph

open Gpu

/-- Programs and framebuffers are made, and live ones destroyed, but none of
`others`; nothing else happens. -/
def Gpu.Building {σ : Type} [Backend σ] [Accounting σ] (others : Multiset ProgramId) (b : σ) :
    {a : Answer} → Call a → Prop
  | _, .compileProgram _ | _, .uniformLocation .. | _, .createFramebuffer => True
  | _, .deleteProgram p => p ∈ (account b).programs ∧ p ∉ others
  | _, .destroyFramebuffer f => f ∈ (account b).framebuffers
  | _, _ => False

namespace PassTable

/-- Every pass is filed once, under its own name. -/
structure Filed (t : PassTable) : Prop where
  ordered : t.passes.Ordered
  named : ∀ {name : String} {p : Pass}, t.get? name = some p → p.name = name

def programs (t : PassTable) : Multiset ProgramId := t.passes.held.map Pass.program

def framebuffers (t : PassTable) : Multiset FramebufferId := t.passes.held.map Pass.framebuffer

/-- The second table has all passes of the first, and at most those of `names`
besides. -/
structure Grown (names : List String) (t t' : PassTable) : Prop where
  keeps : ∀ name, (t.get? name).isSome → (t'.get? name).isSome
  within : ∀ name, (t'.get? name).isSome → (t.get? name).isSome ∨ name ∈ names

/-! ## Tables -/

variable {t t' : PassTable} {p old : Pass}

@[simp] theorem programs_empty : empty.programs = 0 := rfl

@[simp] theorem framebuffers_empty : empty.framebuffers = 0 := rfl

theorem filed_empty : Filed empty := ⟨Dict.ordered_empty, fun h => by cases h⟩

@[simp] theorem get?_put (t : PassTable) (p : Pass) (name : String) :
    (t.put p).get? name = if name = p.name then some p else t.get? name :=
  Dict.get?_insert t.passes p.name name p

theorem Filed.put (h : t.Filed) (p : Pass) : (t.put p).Filed := by
  refine ⟨Dict.ordered_insert h.ordered _ _, fun {name q} hq => ?_⟩
  rw [get?_put] at hq
  split at hq
  · next hn => cases hq; exact hn.symm
  · exact h.named hq

theorem grown_refl (names : List String) (t : PassTable) : t.Grown names t :=
  ⟨fun _ h => h, fun _ h => .inl h⟩

theorem grown_put (t : PassTable) (p : Pass) : t.Grown [p.name] (t.put p) := by
  constructor <;> intro name h
  · rw [get?_put]
    split
    · rfl
    · exact h
  · rw [get?_put] at h
    split at h
    · next hn => exact .inr (hn ▸ List.mem_singleton_self _)
    · exact .inl h

theorem Grown.trans {t'' : PassTable} {names names' : List String} (h : t.Grown names t')
    (h' : t'.Grown names' t'') : t.Grown (names ++ names') t'' := by
  refine ⟨fun name hn => h'.keeps name (h.keeps name hn), fun name hn => ?_⟩
  rcases h'.within name hn with hn | hn
  · exact (h.within name hn).imp id (List.mem_append_left _)
  · exact .inr (List.mem_append_right _ hn)

theorem held_put (h : t.Filed) (p : Pass) :
    (t.put p).passes.held = p ::ₘ (t.passes.erase p.name).held :=
  Dict.held_insert h.ordered _ _

theorem held_put_new (h : t.Filed) (hp : t.get? p.name = none) :
    (t.put p).passes.held = p ::ₘ t.passes.held := by
  rw [held_put h, Dict.erase_of_get?_none hp]

theorem held_of_get? (h : t.Filed) {name : String} (hp : t.get? name = some old) :
    t.passes.held = old ::ₘ (t.passes.erase name).held :=
  Dict.held_of_get? h.ordered hp

theorem mem_programs (h : t.Filed) {name : String} (hp : t.get? name = some p) :
    p.program ∈ t.programs :=
  Multiset.mem_map_of_mem _ ((Dict.mem_held_iff h.ordered).2 ⟨name, hp⟩)

/-- A pass in the place of one with the same objects. -/
theorem held_put_over (h : t.Filed) (hp : t.get? p.name = some old) {α : Type} (f : Pass → α)
    (hf : f p = f old) : (t.put p).passes.held.map f = t.passes.held.map f := by
  rw [held_put h, held_of_get? h hp, Multiset.map_cons, Multiset.map_cons, hf]

theorem current?_eq_some {name source : String} (h : t.current? name source = some p) :
    t.get? name = some p ∧ p.source = source := by
  simpa [current?, Option.filter_eq_some_iff] using h

/-! ## Building -/

section
variable {σ : Type} [Backend σ] [Accounting σ] {T : Multiset TextureId}
  {F : Multiset FramebufferId} {P others : Multiset ProgramId}

theorem runs_locations (program : ProgramId) (names : List TypedName) :
    Runs (σ := σ) id (Building others) (Balanced T F P) (Pass.locations program names)
      (fun _ => Balanced T F P) := by
  induction names with
  | nil => exact Runs.pure fun _ hb => hb
  | cons n ns ih =>
    refine Runs.bind (runs_keep (.uniformLocation program n.name) trivial fun _ _ => trivial)
      fun _ => ?_
    exact Runs.bind ih fun _ => Runs.pure fun _ hb => hb

/-- What building these names leaves: a table in order with all passes it had, and
the balance. -/
def Built (names : List String) (t t' : PassTable) (T : Multiset TextureId)
    (F : Multiset FramebufferId) (others : Multiset ProgramId) (b : σ) : Prop :=
  (t'.Filed ∧ t.Grown names t') ∧ Balanced T (t'.framebuffers + F) (t'.programs + others) b

theorem runs_file (h : t.Filed) (desc : ShaderDesc) (source : String) (program : ProgramId)
    (uniforms samplers : List (Option Program.Location)) :
    Runs (σ := σ) id (Building others)
      (Balanced T (t.framebuffers + F) (program ::ₘ (t.programs + others)))
      (t.file desc source program uniforms samplers)
      (fun a => Built [desc.name] t a.2 T F others) := by
  unfold file
  split
  · next old hold =>
    let new := Pass.make desc source program old.framebuffer uniforms samplers
    have hold : t.get? new.name = some old := hold
    have hframes : (t.put new).framebuffers = t.framebuffers :=
      held_put_over h hold Pass.framebuffer rfl
    have hprograms : program ::ₘ t.programs = old.program ::ₘ (t.put new).programs := by
      rw [programs, programs, held_put h, held_of_get? h hold, Multiset.map_cons,
        Multiset.map_cons, Multiset.cons_swap]
      rfl
    rw [← Multiset.cons_add, hprograms, Multiset.cons_add]
    refine Runs.bind (runs_deleteProgram old.program fun b hb hP => ⟨hb, ?_⟩) fun _ => ?_
    · exact fun hm => hP (Multiset.mem_add.2 (.inr hm))
    · exact Runs.pure fun b hb => ⟨⟨h.put new, grown_put t new⟩, hframes ▸ hb⟩
  · next hnone =>
    refine Runs.bind (runs_createFramebuffer fun _ => trivial) fun answer => ?_
    cases answer with
    | ok framebuffer =>
      let new := Pass.make desc source program framebuffer uniforms samplers
      have hnew : t.get? new.name = none := hnone
      refine Runs.pure fun b hb => ⟨⟨h.put new, grown_put t new⟩, ?_⟩
      have hframes : (t.put new).framebuffers = framebuffer ::ₘ t.framebuffers := by
        rw [framebuffers, held_put_new h hnew, Multiset.map_cons]
        rfl
      have hprograms : (t.put new).programs = program ::ₘ t.programs := by
        rw [programs, held_put_new h hnew, Multiset.map_cons]
        rfl
      rw [hframes, hprograms, Multiset.cons_add, Multiset.cons_add]
      exact hb
    | error e =>
      refine Runs.bind (runs_deleteProgram program fun b hb hP => ⟨hb, ?_⟩) fun _ => ?_
      · exact fun hm => hP (Multiset.mem_add.2 (.inr hm))
      · exact Runs.pure fun b hb => ⟨⟨h, grown_refl _ t⟩, by simpa using hb⟩

/-- A pass that is built, kept or refused leaves the balance as it was. -/
theorem runs_build (h : t.Filed) (desc : ShaderDesc) (declarations : List Declaration) :
    Runs (σ := σ) id (Building others) (Balanced T (t.framebuffers + F) (t.programs + others))
      (t.build desc declarations) (fun a => Built [desc.name] t a.2 T F others) := by
  unfold build
  dsimp only
  split
  · next p hp =>
    obtain ⟨hget, -⟩ := current?_eq_some hp
    -- the new entry is filed under the old one's name, which is that of the description
    have hp : p.name = desc.name := h.named hget
    have hname : t.get? (p.restyle desc).name = some p := by
      rw [← hp] at hget
      exact hget
    refine Runs.pure fun b hb => ⟨⟨h.put _, hp ▸ grown_put t (p.restyle desc)⟩, ?_⟩
    rw [show (t.put (p.restyle desc)).framebuffers = t.framebuffers from
        held_put_over h hname Pass.framebuffer rfl,
      show (t.put (p.restyle desc)).programs = t.programs from
        held_put_over h hname Pass.program rfl]
    exact hb
  · refine Runs.bind (runs_compileProgram _ fun _ => trivial) fun answer => ?_
    cases answer with
    | error e => exact Runs.pure fun b hb => ⟨⟨h, grown_refl _ t⟩, by simpa using hb⟩
    | ok program =>
      refine Runs.bind (runs_locations program desc.uniforms) fun _ => ?_
      refine Runs.bind (runs_locations program desc.samplers) fun _ => ?_
      exact runs_file h desc _ program _ _

/-- Building all passes loses none of them, whichever fail. -/
theorem runs_buildAll (declarations : List Declaration) (descs : List ShaderDesc)
    (h : t.Filed) :
    Runs (σ := σ) id (Building others) (Balanced T (t.framebuffers + F) (t.programs + others))
      (t.buildAll declarations descs)
      (fun a => Built (descs.map ShaderDesc.name) t a.2 T F others) := by
  induction descs generalizing t with
  | nil => exact Runs.pure fun b hb => ⟨⟨h, grown_refl _ t⟩, hb⟩
  | cons desc descs ih =>
    refine Runs.bind (runs_build h desc declarations) fun (built, t₁) => ?_
    refine (Runs.of_fact fun ⟨h₁, hgrown⟩ => ?_).weaken (fun _ hb => ⟨hb.2, hb.1⟩) fun _ _ hq => hq
    refine Runs.bind (ih h₁) fun (errors, t₂) => ?_
    have hlast : ∀ b : σ, Built (descs.map ShaderDesc.name) t₁ t₂ T F others b →
        Built ((desc :: descs).map ShaderDesc.name) t t₂ T F others b :=
      fun b hb => ⟨⟨hb.1.1, hgrown.trans hb.1.2⟩, hb.2⟩
    cases built with
    | ok _ => exact Runs.pure hlast
    | error e => exact Runs.pure hlast

/-! ## Releasing -/

theorem runs_releaseEach (ps : List Pass) :
    Runs (σ := σ) id (Building others)
      (Balanced T ((ps : Multiset Pass).map Pass.framebuffer + F)
        ((ps : Multiset Pass).map Pass.program + (P + others)))
      (Pass.releaseEach ps) (fun _ => Balanced T F (P + others)) := by
  induction ps with
  | nil => exact Runs.pure fun b hb => by simpa using hb
  | cons p ps ih =>
    simp only [← Multiset.cons_coe, Multiset.map_cons, Multiset.cons_add]
    refine Runs.bind (Runs.bind (runs_deleteProgram p.program fun b hb hP => ⟨hb, ?_⟩) fun _ =>
      runs_destroyFramebuffer p.framebuffer fun _ hf => hf) fun _ => ih
    exact fun hm => hP (by simp [hm])

theorem Filed.filter (h : t.Filed) (keep : List String) :
    (PassTable.mk ⟨t.passes.entries.filter fun e => e.1 ∈ keep⟩).Filed := by
  refine ⟨Dict.ordered_filter h.ordered _, fun {name p} hp => ?_⟩
  have hget := Dict.get?_filter_key (· ∈ keep) t.passes name
  rw [get?, hget] at hp
  split at hp
  · exact h.named hp
  · cases hp

/-- The passes that are not kept go with their objects. -/
theorem runs_retain (h : t.Filed) (keep : List String) :
    Runs (σ := σ) id (Building others) (Balanced T (t.framebuffers + F) (t.programs + others))
      (t.retain keep)
      (fun t' b => (t'.Filed ∧ ∀ name, t'.get? name = if name ∈ keep then t.get? name else none) ∧
        Balanced T (t'.framebuffers + F) (t'.programs + others) b) := by
  let kept : PassTable := ⟨⟨t.passes.entries.filter fun e => e.1 ∈ keep⟩⟩
  have hkept : kept.Filed ∧ ∀ name, kept.get? name = if name ∈ keep then t.get? name else none :=
    ⟨h.filter keep, Dict.get?_filter_key (· ∈ keep) t.passes⟩
  have hheld := t.passes.held_eq_add_filter (· ∈ keep)
  rw [framebuffers, programs, hheld, Multiset.map_add, Multiset.map_add, Multiset.add_assoc,
    Multiset.add_assoc]
  exact Runs.bind (runs_releaseEach _) fun _ => Runs.pure fun b hb => ⟨hkept, hb⟩

/-- In the end nothing of the table is live. -/
theorem runs_releaseAll (t : PassTable) :
    Runs (σ := σ) id (Building others) (Balanced T (t.framebuffers + F) (t.programs + others))
      t.releaseAll (fun t' b => t' = empty ∧ Balanced T F others b) := by
  have h : Runs (σ := σ) id (Building others)
      (Balanced T (t.framebuffers + F) (t.programs + (0 + others)))
      (Pass.releaseEach t.passes.values) fun _ => Balanced T F (0 + others) :=
    runs_releaseEach t.passes.values
  rw [Multiset.zero_add] at h
  exact Runs.bind h fun _ => Runs.pure fun b hb => ⟨rfl, hb⟩

end

end PassTable
end FrameGraph
