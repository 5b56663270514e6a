import FrameGraph.Frame.Invoke
import FrameGraph.Proofs.Gpu.Staged

/-!
# What an invocation leaves behind

An invocation sets uniforms and binds textures before it draws, and may then fail. What it
has bound, every other invocation binds anew; the uniforms stay set in the program of its
pass. `Invocation.writes` are the cells that it writes to. A backend on which an invocation
failed has no draw of it, and compared with any objects, it differs in these cells besides
those in which it differed before.

Results:
* `aside_invoke`: what an invocation leaves behind.
-/
namespace FrameGraph

open Gpu
open Program (Location)

variable {π δ : Type} [Memory π]

/-! ## What an invocation writes -/

namespace Invocation

/-- The uniforms that an invocation sets. -/
def uniformSettings : List (Option Location) → List (Option UniformValue) →
    List (Location × UniformValue)
  | some l :: ls, some v :: vs => (l, v) :: uniformSettings ls vs
  | _ :: ls, _ :: vs => uniformSettings ls vs
  | _, _ => []

/-- The samplers from number `index` on, with their texture units. -/
def samplerSettings : Nat → List (Option Location) → List (Location × UniformValue)
  | _, [] => []
  | index, some l :: ls => (l, .int (UInt32.ofNat index).toInt32) :: samplerSettings (index + 1) ls
  | index, none :: ls => samplerSettings (index + 1) ls

/-- All that it sets in the program of its pass. -/
def settings (i : Invocation) (pass : Pass) : List (Location × UniformValue) :=
  uniformSettings pass.uniforms i.uniforms ++ samplerSettings 0 pass.samplers

/-- The cells it writes if it is carried out with this pass. -/
def overwrites (i : Invocation) (pass : Pass) (o : Objects π) : Cells :=
  {c | c.1 = pass.program ∧ ∃ m, o.programs.get? pass.program = some m ∧
    c.2 ∈ Memory.written m (i.settings pass)}

/-- The cells it writes, whether it then draws or not. -/
def writes (passes : PassTable) (cache : ImageCache) (i : Invocation) (o : Objects π) : Cells :=
  match plan passes cache i with
  | .ok p => i.overwrites p.pass o
  | .error _ => ∅

theorem overwrites_eq (i : Invocation) {pass : Pass} {o : Objects π} {m : π}
    (hm : o.programs.get? pass.program = some m) :
    i.overwrites pass o = Cells.at pass.program (Memory.written m (i.settings pass)) := by
  ext c
  simp [overwrites, Cells.at, hm]

theorem overwrites_eq_empty (i : Invocation) {pass : Pass} {o : Objects π}
    (hm : o.programs.get? pass.program = none) : i.overwrites pass o = ∅ := by
  ext c
  simp [overwrites, hm]

/-! ## On one side -/

section
variable {σ : Type} [Backend σ] [Depicting π δ] [Staged σ π δ] {p : ProgramId} {m₀ : π}
  {S : Cells} {o' : Objects π} {ds : List δ}

/-- Nothing is asked of the calls. -/
abbrev Anything : Discipline σ := fun _ _ _ => True

/-- A fair backend at work with a program, beside objects that are the same but for some
cells. -/
structure Aside (p : ProgramId) (m₀ : π) (S : Cells) (o' : Objects π) (ds : List δ) (b : σ) :
    Prop where
  fair : Fair b
  drawn : drawn b = ds
  working : Working p m₀ (objects b)
  same : Same S (objects b) o'

theorem aside_stage {a : Answer} {call : Call a} {f : StateM (Objects π) a.Of}
    (hf : Objects.stage call = some f) (hcall : ¬ call.uses) :
    Runs (σ := σ) id Anything (Aside p m₀ S o' ds) (Backend.perform call)
      fun _ => Aside p m₀ S o' ds := by
  refine Runs.call (fun _ _ => trivial) fun b h => ?_
  obtain ⟨-, hobjects, hdrawn⟩ := Staged.stages h.fair hf
  refine ⟨Staged.fair call h.fair, hdrawn.trans h.drawn, ?_, ?_⟩ <;> rw [hobjects]
  · exact h.working.stage hf hcall
  · exact h.same.stage_left hf

theorem aside_set {l : Location} {v : UniformValue} (hS : Cells.at p (Memory.cells l v m₀) ⊆ S) :
    Runs (σ := σ) id Anything (Aside p m₀ S o' ds) (discard (setUniform l v))
      fun _ => Aside p m₀ S o' ds := by
  refine Runs.discard (Runs.call (fun _ _ => trivial) fun b h => ?_)
  obtain ⟨hobjects, hdrawn⟩ := Staged.sets l v h.fair
  refine ⟨Staged.fair _ h.fair, hdrawn.trans h.drawn, ?_, ?_⟩
  · exact hobjects ▸ h.working.put l v
  · exact hobjects ▸ h.same.put_left l v h.working hS

theorem at_written_cons {a : Location × UniformValue} {as : List (Location × UniformValue)} :
    Cells.at p (Memory.written m₀ (a :: as)) ⊆ S ↔
      Cells.at p (Memory.cells a.1 a.2 m₀) ⊆ S ∧ Cells.at p (Memory.written m₀ as) ⊆ S := by
  rw [Memory.written_cons, Cells.at_union, Set.union_subset_iff]

theorem aside_setUniforms (ls : List (Option Location)) (vs : List (Option UniformValue))
    (hS : Cells.at p (Memory.written m₀ (uniformSettings ls vs)) ⊆ S) :
    Runs (σ := σ) id Anything (Aside p m₀ S o' ds) (setUniforms ls vs)
      fun _ => Aside p m₀ S o' ds := by
  induction ls generalizing vs with
  | nil => exact Runs.pure fun _ h => h
  | cons l ls ih =>
    rcases vs with _ | ⟨v, vs⟩
    · cases l <;> exact Runs.pure fun _ h => h
    · cases l <;> cases v
      case some.some l v =>
        obtain ⟨hS, hrest⟩ := at_written_cons.1 hS
        exact Runs.bind (aside_set hS) fun _ => ih vs hrest
      all_goals exact ih vs hS

theorem aside_bindSamplers (cache : ImageCache) (i : Invocation) (index : Nat)
    (ls : List (Option Location))
    (hS : Cells.at p (Memory.written m₀ (samplerSettings index ls)) ⊆ S) :
    Runs (σ := σ) id Anything (Aside p m₀ S o' ds) (i.bindSamplers cache index ls)
      fun _ => Aside p m₀ S o' ds := by
  induction ls generalizing index with
  | nil => exact Runs.pure fun _ h => h
  | cons l ls ih =>
    cases l with
    | none => exact Runs.bind (aside_stage rfl id) fun _ => ih (index + 1) hS
    | some l =>
      obtain ⟨hS, hrest⟩ := at_written_cons.1 hS
      exact Runs.bind (aside_set hS) fun _ =>
        Runs.bind (aside_stage rfl id) fun _ => ih (index + 1) hrest

theorem aside_attachAll (f : FramebufferId) (slots : List (UInt32 × Option TextureId)) :
    Runs (σ := σ) id Anything (Aside p m₀ S o' ds) (attachAll f slots)
      fun _ => Aside p m₀ S o' ds := by
  induction slots with
  | nil => exact Runs.pure fun _ h => h
  | cons s slots ih =>
    refine Runs.bind (aside_stage rfl id) fun answer => ?_
    cases answer with
    | error e => exact Runs.pure fun _ h => h
    | ok _ => exact ih

/-- What is left of an invocation: if it failed, there is no draw of it. -/
structure Left (S : Cells) (o' : Objects π) (ds : List δ) {ε : Type} (result : Except ε Unit)
    (b : σ) : Prop where
  fair : Fair b
  same : Same S (objects b) o'
  undrawn : (∃ e, result = .error e) → drawn b = ds

theorem Aside.left {b : σ} (h : Aside p m₀ S o' ds b) {ε : Type} (result : Except ε Unit) :
    Left S o' ds result b :=
  ⟨h.fair, h.same, fun _ => h.drawn⟩

theorem aside_drawInto (plan : DrawPlan) :
    Runs (σ := σ) id Anything (Aside p m₀ S o' ds) (drawInto plan) (Left S o' ds) := by
  have hdraw : Runs (σ := σ) id Anything (Aside p m₀ S o' ds) drawFullscreen
      (Left S o' ds) := by
    refine Runs.call (fun _ _ => trivial) fun b h => ?_
    obtain ⟨hobjects, hdrawn⟩ := Staged.draws h.fair
    refine ⟨Staged.fair _ h.fair, hobjects ▸ h.same, ?_⟩
    rintro ⟨e, he⟩
    rcases hdrawn with ⟨-, -, hok, -⟩ | ⟨-, -, hdrawn, -⟩
    · cases hok.symm.trans he
    · exact hdrawn.trans h.drawn
  refine Runs.bind (aside_stage rfl id) fun _ => Runs.bind (aside_stage rfl id) fun _ =>
    Runs.bind (aside_stage rfl id) fun _ => Runs.bind hdraw fun answer => ?_
  refine Runs.bind (Q := fun _ => Left S o' ds answer) ?_ fun _ => Runs.pure fun _ h => h
  refine Runs.call (fun _ _ => trivial) fun b h => ?_
  have hstage : Objects.stage (π := π) (.bindFramebuffer none) = some _ := rfl
  obtain ⟨-, hobjects, hdrawn⟩ := Staged.stages h.fair hstage
  exact ⟨Staged.fair _ h.fair, hobjects ▸ h.same.stage_left hstage,
    fun he => hdrawn.trans (h.undrawn he)⟩

theorem aside_render (plan : DrawPlan) :
    Runs (σ := σ) id Anything (Aside p m₀ S o' ds) (render plan) (Left S o' ds) := by
  refine Runs.bind (aside_attachAll _ _) fun answer => ?_
  cases answer with
  | error e => exact Runs.pure fun _ h => h.left _
  | ok _ =>
    refine Runs.bind (aside_stage rfl id) fun answer => ?_
    cases answer with
    | error e => exact Runs.pure fun _ h => h.left _
    | ok _ => exact aside_drawInto plan

theorem aside_useProgram_none {o : Objects π} (hm : o.programs.get? p = none)
    (hsame : Same S o o') :
    Runs (σ := σ) id Anything (fun b => Fair b ∧ drawn b = ds ∧ objects b = o)
      (useProgram p) fun r b => (∃ e, r = .error e) ∧ Left S o' ds r b := by
  refine Runs.call (fun _ _ => trivial) fun b ⟨hfair, hdrawn, ho⟩ => ?_
  have hstage : Objects.stage (π := π) (.useProgram p) = some _ := rfl
  obtain ⟨hanswer, hobjects, hdrawn'⟩ := Staged.stages hfair hstage
  rw [ho, attempt_of_error (Objects.useProgram_of_none hm)] at hanswer hobjects
  exact ⟨⟨_, hanswer⟩, Staged.fair _ hfair, hobjects ▸ hsame, fun _ => hdrawn'.trans hdrawn⟩

theorem aside_useProgram_some {o : Objects π} (hm : o.programs.get? p = some m₀)
    (hsame : Same S o o') :
    Runs (σ := σ) id Anything (fun b => Fair b ∧ drawn b = ds ∧ objects b = o)
      (useProgram p) fun r b => r = .ok () ∧ Aside p m₀ S o' ds b := by
  refine Runs.call (fun _ _ => trivial) fun b ⟨hfair, hdrawn, ho⟩ => ?_
  have hstage : Objects.stage (π := π) (.useProgram p) = some _ := rfl
  obtain ⟨hanswer, hobjects, hdrawn'⟩ := Staged.stages hfair hstage
  rw [ho, attempt_of_ok (Objects.useProgram_of_some hm)] at hanswer hobjects
  refine ⟨hanswer, Staged.fair _ hfair, hdrawn'.trans hdrawn, ?_, ?_⟩ <;> rw [hobjects]
  · exact ⟨rfl, m₀, hm, .refl m₀⟩
  · exact { hsame with }

/-- Apart from what was written before, an invocation that is carried out leaves behind at
most what it writes itself. -/
theorem aside_carryOut (cache : ImageCache) (i : Invocation) (plan : DrawPlan) {o : Objects π}
    (hsame : Same S o o') :
    Runs (σ := σ) id Anything (fun b => Fair b ∧ drawn b = ds ∧ objects b = o)
      (i.carryOut cache plan)
      fun a => Left (S ∪ i.overwrites plan.pass o) o' ds a.result := by
  let program := plan.pass.program
  cases hm : o.programs.get? program with
  | none =>
    rw [i.overwrites_eq_empty hm, Set.union_empty]
    refine Runs.bind (aside_useProgram_none hm hsame) fun answer => ?_
    cases answer with
    | error e => exact Runs.pure fun b h => ⟨h.2.fair, h.2.same, fun _ => h.2.undrawn ⟨e, rfl⟩⟩
    | ok _ =>
      rintro b ⟨⟨e, he⟩, -⟩
      cases he
  | some m =>
    rw [i.overwrites_eq hm]
    let S' := S ∪ Cells.at program (Memory.written m (i.settings plan.pass))
    have hsame' : Same S' o o' := hsame.mono Set.subset_union_left
    refine Runs.bind (aside_useProgram_some hm hsame') fun answer => ?_
    cases answer with
    | error e =>
      rintro b ⟨he, -⟩
      cases he
    | ok _ =>
      have hcells : Cells.at program (Memory.written m (i.settings plan.pass)) ⊆ S' :=
        Set.subset_union_right
      rw [settings, Memory.written_append, Cells.at_union, Set.union_subset_iff] at hcells
      refine Runs.weaken (P := Aside program m S' o' ds) ?_ (fun _ h => h.2) fun _ _ h => h
      refine Runs.bind (aside_setUniforms _ _ hcells.1) fun _ => ?_
      refine Runs.bind (aside_bindSamplers cache i 0 _ hcells.2) fun _ => ?_
      refine Runs.bind (aside_render plan) fun answer => Runs.pure fun b h =>
        ⟨h.fair, h.same, ?_⟩
      rintro ⟨e, he⟩
      cases answer with
      | ok _ => cases he
      | error e => exact h.undrawn ⟨e, rfl⟩

/-- An invocation that fails leaves behind at most what it writes, and no draw. -/
theorem aside_invoke (passes : PassTable) (cache : ImageCache) (i : Invocation)
    {o : Objects π} (hsame : Same S o o') :
    Runs (σ := σ) id Anything (fun b => Fair b ∧ drawn b = ds ∧ objects b = o)
      (i.invoke passes cache)
      fun a => Left (S ∪ i.writes passes cache o) o' ds a.result := by
  unfold invoke writes
  dsimp only
  cases plan passes cache i with
  | error e =>
    refine Runs.pure fun b ⟨hfair, hdrawn, ho⟩ => ⟨hfair, ?_, fun _ => hdrawn⟩
    rw [Set.union_empty, ho]
    exact hsame
  | ok p => exact Runs.bind (aside_carryOut cache i p hsame) fun _ => Runs.pure fun _ h => h

end
end Invocation
end FrameGraph
