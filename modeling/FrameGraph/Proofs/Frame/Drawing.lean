import FrameGraph.Frame.Invoke
import FrameGraph.Frame.Present
import FrameGraph.Proofs.Gpu.Balance

/-!
# Which draws an invocation makes

Invocations use the programs and framebuffers of the table they are given, and
nothing else: a uniform is set only while one of these programs is in use, and a
draw is made with the program and into the framebuffer of one pass. Showing the
display image draws to the surface.

Results:
* `runs_invokeAll`: invocations keep to `Drawing`.
* `runs_composite`: showing an image keeps to `Showing`.
-/
namespace FrameGraph

open Gpu

/-! ## Calls that change no binding of the account -/

/-- A call that neither creates, destroys nor binds anything the account has. -/
def Gpu.Call.quiet : {a : Answer} → Call a → Prop
  | _, .useProgram _ | _, .bindFramebuffer _ => False
  | _, call => call.keepsObjects

theorem Gpu.Account.after_of_quiet (k : Account) {a : Answer} {call : Call a} (answer : a.Of)
    (h : call.quiet) : k.after call answer = k := by
  cases call <;> first
    | exact h.elim
    | rfl

section
variable {σ : Type} [Backend σ] [Accounting σ]

/-- The account of the backend has this property. -/
def Gpu.At (φ : Account → Prop) (b : σ) : Prop := Sound b ∧ φ (account b)

namespace Gpu

variable {φ : Account → Prop} {C : Discipline σ}

theorem runs_quiet {a : Answer} (call : Call a) (hcall : call.quiet)
    (hC : ∀ b : σ, φ (account b) → C b call) :
    Runs id C (At φ) (Backend.perform call) (fun _ => At φ) := by
  refine Runs.call (fun b hb => hC b hb.2) fun b hb => ?_
  obtain ⟨hs, hacc, -⟩ := Accounting.follows call hb.1
  exact ⟨hs, by rw [hacc, Account.after_of_quiet _ _ hcall]; exact hb.2⟩

theorem runs_useProgram (p : ProgramId) (hC : ∀ b : σ, C b (.useProgram p)) :
    Runs id C (At φ) (useProgram p)
      (fun r b => Sound b ∧ (r = .ok () → (account b).inUse = some p)) := by
  refine Runs.call (fun b _ => hC b) fun b hb => ?_
  obtain ⟨hs, hacc, -⟩ := Accounting.follows (.useProgram p) hb.1
  refine ⟨hs, fun hr => ?_⟩
  rw [hacc, hr]
  rfl

theorem runs_bindFramebuffer (f : Option FramebufferId) {p : Option ProgramId}
    (hC : ∀ b : σ, C b (.bindFramebuffer f)) :
    Runs id C (At fun k => k.inUse = p) (bindFramebuffer f)
      (fun _ => At fun k => k.inUse = p ∧ k.bound = f) := by
  refine Runs.call (fun b _ => hC b) fun b hb => ?_
  obtain ⟨hs, hacc, -⟩ := Accounting.follows (.bindFramebuffer f) hb.1
  exact ⟨hs, by rw [hacc]; exact ⟨hb.2, rfl⟩⟩

end Gpu

/-! ## Invocations -/

/-- Only what a pass of the table owns is drawn with and into. -/
def Gpu.Drawing (t : PassTable) (b : σ) : {a : Answer} → Call a → Prop
  | _, .useProgram p => ∃ name pass, t.get? name = some pass ∧ p = pass.program
  | _, .setUniform .. =>
    ∃ name pass, t.get? name = some pass ∧ (account b).inUse = some pass.program
  | _, .attachColor f .. | _, .setDrawBuffers f _ | _, .bindFramebuffer (some f) =>
    ∃ name pass, t.get? name = some pass ∧ f = pass.framebuffer
  | _, .bindFramebuffer none | _, .bindTexture .. | _, .setViewport _ | _, .setBlend _ => True
  | _, .drawFullscreen =>
    ∃ name pass, t.get? name = some pass ∧ (account b).inUse = some pass.program ∧
      (account b).bound = some pass.framebuffer
  | _, _ => False

theorem Gpu.Drawing.keepsObjects {t : PassTable} {b : σ} {a : Answer} {call : Call a}
    (h : Drawing t b call) : call.keepsObjects := by
  cases call <;> trivial

namespace Invocation

variable {t : PassTable} {name : String} {pass : Pass}

/-- The state in which a pass of the table is worked with. -/
abbrev With (pass : Pass) (b : σ) : Prop := At (fun k => k.inUse = some pass.program) b

theorem runs_setUniforms (h : t.get? name = some pass) (ls : List (Option Program.Location))
    (vs : List (Option UniformValue)) :
    Runs (σ := σ) id (Drawing t) (With pass) (setUniforms ls vs) (fun _ => With pass) := by
  fun_induction setUniforms (σ := σ) ls vs with
  | case1 l ls v vs ih =>
    refine Runs.bind (Runs.discard (runs_quiet (.setUniform l v) trivial ?_)) fun _ => ih
    exact fun b hb => ⟨name, pass, h, hb⟩
  | case2 _ _ _ _ _ ih => exact ih
  | case3 => exact Runs.pure fun _ hb => hb

theorem runs_bindSamplers (h : t.get? name = some pass) (cache : ImageCache) (i : Invocation)
    (index : Nat) (ls : List (Option Program.Location)) :
    Runs (σ := σ) id (Drawing t) (With pass) (i.bindSamplers cache index ls)
      (fun _ => With pass) := by
  induction ls generalizing index with
  | nil => exact Runs.pure fun _ hb => hb
  | cons l ls ih =>
    let unit := UInt32.ofNat index
    have hrest : Runs (σ := σ) id (Drawing t) (With pass)
        (do bindTexture unit (samplerTexture cache i index); bindSamplers cache i (index + 1) ls)
        (fun _ => With pass) :=
      Runs.bind (runs_quiet (.bindTexture unit _) trivial fun _ _ => trivial)
        fun _ => ih (index + 1)
    cases l with
    | none => exact hrest
    | some l =>
      refine Runs.bind (Runs.discard (runs_quiet (.setUniform l (.int unit.toInt32)) trivial ?_))
        fun _ => hrest
      exact fun b hb => ⟨name, pass, h, hb⟩

theorem runs_attachAll (h : t.get? name = some pass) (slots : List (UInt32 × Option TextureId)) :
    Runs (σ := σ) id (Drawing t) (With pass) (attachAll pass.framebuffer slots)
      (fun _ => With pass) := by
  induction slots with
  | nil => exact Runs.pure fun _ hb => hb
  | cons s rest ih =>
    refine Runs.bind (runs_quiet (.attachColor pass.framebuffer s.1 s.2) trivial ?_)
      fun answer => ?_
    · exact fun b _ => ⟨name, pass, h, rfl⟩
    · cases answer with
      | error e => exact Runs.pure fun _ hb => hb
      | ok _ => exact ih

theorem runs_drawInto (h : t.get? name = some pass) {p : DrawPlan} (hp : p.pass = pass) :
    Runs (σ := σ) id (Drawing t) (With pass) (drawInto p) (fun _ => With pass) := by
  subst hp
  have hdraw : Runs (σ := σ) id (Drawing t)
      (At fun k => k.inUse = some p.pass.program ∧ k.bound = some p.pass.framebuffer)
      drawFullscreen (fun _ => With p.pass) :=
    (runs_quiet .drawFullscreen trivial fun b hb => ⟨name, p.pass, h, hb⟩).weaken
      (fun _ hb => hb) fun _ _ hb => ⟨hb.1, hb.2.1⟩
  refine Runs.bind (runs_bindFramebuffer (some p.pass.framebuffer) fun _ => ⟨name, p.pass, h, rfl⟩)
    fun _ => ?_
  refine Runs.bind (runs_quiet (.setViewport p.size) trivial fun _ _ => trivial) fun _ => ?_
  refine Runs.bind (runs_quiet (.setBlend _) trivial fun _ _ => trivial) fun _ => ?_
  refine Runs.bind hdraw fun _ => Runs.bind ((runs_bindFramebuffer none fun _ => trivial).weaken
    (fun _ hb => hb) fun _ _ hb => ⟨hb.1, hb.2.1⟩) fun _ => Runs.pure fun _ hb => hb

theorem runs_render (h : t.get? name = some pass) {p : DrawPlan} (hp : p.pass = pass) :
    Runs (σ := σ) id (Drawing t) (With pass) (render p) (fun _ => With pass) := by
  subst hp
  refine Runs.bind (runs_attachAll h p.slots) fun answer => ?_
  cases answer with
  | error e => exact Runs.pure fun _ hb => hb
  | ok _ =>
    refine Runs.bind (runs_quiet (.setDrawBuffers _ _) trivial fun b _ => ⟨name, p.pass, h, rfl⟩)
      fun answer => ?_
    cases answer with
    | error e => exact Runs.pure fun _ hb => hb
    | ok _ => exact runs_drawInto h rfl

theorem runs_carryOut (cache : ImageCache) (i : Invocation) {p : DrawPlan}
    (h : t.get? name = some p.pass) :
    Runs (σ := σ) id (Drawing t) Sound (i.carryOut cache p) (fun _ => Sound) := by
  refine Runs.bind ((runs_useProgram (φ := fun _ => True) p.pass.program
    fun _ => ⟨name, p.pass, h, rfl⟩).weaken (fun _ hb => ⟨hb, trivial⟩) fun _ _ hb => hb)
    fun answer => ?_
  cases answer with
  | error e => exact Runs.pure fun _ hb => hb.1
  | ok _ =>
    refine Runs.weaken (P := With p.pass) ?_ (fun _ hb => ⟨hb.1, hb.2 rfl⟩) fun _ _ hb => hb
    refine Runs.bind (runs_setUniforms h p.pass.uniforms i.uniforms) fun _ => ?_
    refine Runs.bind (runs_bindSamplers h cache i 0 p.pass.samplers) fun _ => ?_
    exact Runs.bind (runs_render h rfl) fun _ => Runs.pure fun _ hb => hb.1

theorem mapError_eq_ok_iff {ε ε' : Type} {f : ε → ε'} {r : Except ε Unit} :
    r.mapError f = .ok () ↔ r = .ok () := by
  cases r with
  | ok _ => exact ⟨fun _ => rfl, fun _ => rfl⟩
  | error e => exact ⟨fun h => (by cases h), fun h => (by cases h)⟩

theorem plan_pass {passes : PassTable} {cache : ImageCache} {i : Invocation} {p : DrawPlan}
    (h : plan passes cache i = .ok p) : passes.get? i.shader = some p.pass := by
  unfold plan at h
  split at h
  · cases h
  · next pass hpass =>
    split at h
    · cases h
    · split at h
      · cases h
      · cases h
      · cases h; exact hpass

theorem runs_invoke (passes : PassTable) (cache : ImageCache) (i : Invocation) :
    Runs (σ := σ) id (Drawing passes) Sound (i.invoke passes cache) (fun _ => Sound) := by
  unfold invoke
  dsimp only
  split
  · exact Runs.pure fun _ hb => hb
  · next p hp =>
    exact Runs.bind (runs_carryOut cache i (plan_pass hp)) fun _ => Runs.pure fun _ hb => hb

end Invocation

namespace FrameReport

theorem count_of_ok (r : FrameReport) {a : Attempt} (h : a.result = .ok ()) :
    (r.count a).executed = r.executed + 1 ∧ (r.count a).skipped = r.skipped := by
  rw [count, h]
  exact ⟨rfl, rfl⟩

theorem count_of_error (r : FrameReport) {a : Attempt} {e : ResourceError}
    (h : a.result = .error e) :
    (r.count a).executed = r.executed ∧ (r.count a).skipped = r.skipped + 1 := by
  rw [count, h]
  exact ⟨rfl, rfl⟩

end FrameReport

/-- Invocations draw with and into what the passes of the table own. -/
theorem runs_invokeAll (passes : PassTable) (cache : ImageCache) (is : List Invocation)
    (report : FrameReport) :
    Runs (σ := σ) id (Drawing passes) Sound (invokeAll passes cache is report)
      (fun _ => Sound) := by
  induction is generalizing report with
  | nil => exact Runs.pure fun _ hb => hb
  | cons i is ih => exact Runs.bind (Invocation.runs_invoke passes cache i) fun a => ih _

/-! ## The display image -/

/-- Only this program is used, its uniforms are set to zero, and what is drawn goes
to the surface. -/
def Gpu.Showing (program : ProgramId) (b : σ) : {a : Answer} → Call a → Prop
  | _, .useProgram p => p = program
  | _, .setUniform _ value => (account b).inUse = some program ∧ value = .int 0
  | _, .bindFramebuffer f => f = none
  | _, .drawFullscreen => (account b).inUse = some program ∧ (account b).bound = none
  | _, .bindTexture .. | _, .surfaceSize | _, .setViewport _ | _, .setBlend _ => True
  | _, _ => False

theorem Gpu.Showing.keepsObjects {program : ProgramId} {b : σ} {a : Answer} {call : Call a}
    (h : Showing program b call) : call.keepsObjects := by
  cases call <;> trivial

namespace Present

/-- The program is in use and the surface is drawn to. -/
abbrev Ready (program : ProgramId) (b : σ) : Prop :=
  At (fun k => k.inUse = some program ∧ k.bound = none) b

theorem runs_draw (pass : Pass) (display : TextureId) :
    Runs (σ := σ) id (Showing pass.program) (Ready pass.program) (draw pass display)
      (fun _ => Sound) := by
  refine Runs.bind (runs_quiet (.bindTexture 0 (some display)) trivial fun _ _ => trivial)
    fun _ => ?_
  refine Runs.bind (runs_quiet .surfaceSize trivial fun _ _ => trivial) fun size => ?_
  refine Runs.bind (runs_quiet (.setViewport size) trivial fun _ _ => trivial) fun _ => ?_
  refine Runs.bind (runs_quiet (.setBlend pass.blendMode.state) trivial fun _ _ => trivial)
    fun _ => ?_
  exact (runs_quiet .drawFullscreen trivial fun _ hb => hb).weaken (fun _ hb => hb)
    fun _ _ hb => hb.1

theorem runs_composite (pass : Pass) (display : TextureId) :
    Runs (σ := σ) id (Showing pass.program) Sound (composite pass display) (fun _ => Sound) := by
  have hbind : Runs (σ := σ) id (Showing pass.program) Sound (bindFramebuffer none)
      (fun _ => At fun k => k.bound = none) :=
    Runs.call (fun _ _ => rfl) fun b hb =>
      have h := Accounting.follows (.bindFramebuffer none) hb
      ⟨h.1, congrArg Account.bound h.2.1⟩
  have huse : Runs (σ := σ) id (Showing pass.program) (At fun k => k.bound = none)
      (useProgram pass.program) (fun r b => Sound b ∧ (r = .ok () → Ready pass.program b)) := by
    refine Runs.call (fun _ _ => rfl) fun b hb => ?_
    obtain ⟨hs, hacc, -⟩ := Accounting.follows (.useProgram pass.program) hb.1
    refine ⟨hs, fun hr => ⟨hs, ?_⟩⟩
    rw [hacc, hr]
    exact ⟨rfl, hb.2⟩
  refine Runs.bind hbind fun _ => Runs.bind huse fun answer => ?_
  cases answer with
  | error e => exact Runs.pure fun _ hb => hb.1
  | ok _ =>
    refine Runs.weaken (P := Ready pass.program) ?_ (fun _ hb => hb.2 rfl) fun _ _ hb => hb
    dsimp only
    split
    · next location _ =>
      refine Runs.bind (runs_quiet (.setUniform location (.int 0)) trivial
        fun _ hb => ⟨hb.1, rfl⟩) fun answer => ?_
      cases answer with
      | error e => exact Runs.pure fun _ hb => hb.1
      | ok _ => exact runs_draw pass display
    · exact runs_draw pass display

end Present

end

end FrameGraph
