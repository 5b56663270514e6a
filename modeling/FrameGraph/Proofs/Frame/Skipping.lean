import FrameGraph.Proofs.Frame.SideBySide
import FrameGraph.Proofs.Gpu.Reflecting

/-!
# Leaving out what is skipped

An invocation that fails after it has set uniforms leaves them set, and a later invocation
of the same pass that leaves them alone draws with them. Nothing else of it matters: if all
invocations that are skipped are left out of the list, the others draw again, and the same
but for such uniforms. `stale` follows the cells of these uniforms through a run.

Results:
* `draws_without_skipped`: the draws with and without the skipped invocations.
* `skipped_invocation_sets_uniform`: a draw that shows a uniform of a skipped invocation.
-/
namespace FrameGraph

open Gpu

variable {π δ : Type} [Memory π]

/-! ## Many invocations -/

section
variable {σ τ : Type} [Backend σ] [Backend τ] [Depicting π δ] [Staged σ π δ] [Staged τ π δ]

/-- The invocations that are not skipped. -/
def executed (passes : PassTable) (cache : ImageCache) : List Invocation → σ → List Invocation
  | [], _ => []
  | i :: is, b =>
    let a := i.invoke passes cache b
    match a.1.result with
    | .ok _ => i :: executed passes cache is a.2
    | .error _ => executed passes cache is a.2

/-- For each draw, the cells that were last written by an invocation that was skipped; `S` are
those there are at first. -/
def stale (passes : PassTable) (cache : ImageCache) : List Invocation → Cells → σ → List Cells
  | [], _, _ => []
  | i :: is, S, b =>
    let a := i.invoke passes cache b
    let written := i.writes passes cache (objects b)
    match a.1.result with
    | .ok _ => (S \ written) :: stale passes cache is (S \ written) a.2
    | .error _ => stale passes cache is (S ∪ written) a.2

/-- Draws that are the same one by one, but for the values of some cells. -/
inductive AlikeEach (π : Type) [Memory π] {δ : Type} [Depicting π δ] :
    List Cells → List δ → List δ → Prop
  | nil : AlikeEach π [] [] []
  | cons {S : Cells} {d d' : δ} {Ss : List Cells} {ds ds' : List δ}
      (head : Depicting.Alike π S d d') (tail : AlikeEach π Ss ds ds') :
      AlikeEach π (S :: Ss) (d :: ds) (d' :: ds')

namespace PassTable

/-- Programs keep their samplers. -/
theorem BindsSamplers.of_same {passes : PassTable} {S : Cells} {o o' : Objects π}
    (h : passes.BindsSamplers o) (hsame : Same S o' o) : passes.BindsSamplers o' := by
  intro name pass hpass m hm k hk
  obtain ⟨m', hm', hagree⟩ := hsame.memories _ m hm
  obtain ⟨hlayout, hsamplers⟩ := Memory.agree_shape hagree
  obtain ⟨l, hl, hsampler⟩ := h name pass hpass m' hm' k (hsamplers ▸ hk)
  refine ⟨l, hl, ?_⟩
  rw [Sampler, hlayout, hsamplers]
  exact hsampler

end PassTable

/-- Without what was skipped, all draws are made again, and the same but for stale cells. -/
theorem coupled_invokeAll (passes : PassTable) (cache : ImageCache) (is : List Invocation)
    (report report' : FrameReport) {S : Cells} {b : σ} {c : τ} (hfair : Fair b)
    (hwilling : Willing c) (hsame : Same S (objects b) (objects c))
    (hbinds : passes.BindsSamplers (objects b)) :
    let kept := executed passes cache is b
    let run := invokeAll passes cache is report b
    let rerun := invokeAll passes cache kept report' c
    (run.1.executed = report.executed + kept.length ∧
      rerun.1.executed = report'.executed + kept.length ∧ rerun.1.skipped = report'.skipped) ∧
    ∃ ds ds', drawn run.2 = drawn b ++ ds ∧ drawn rerun.2 = drawn c ++ ds' ∧
      ds.length = kept.length ∧ AlikeEach π (stale passes cache is S b) ds ds' := by
  induction is generalizing report report' S b c with
  | nil => exact ⟨⟨rfl, rfl, rfl⟩, [], [], (List.append_nil _).symm, (List.append_nil _).symm,
      rfl, .nil⟩
  | cons i is ih =>
    have haside := fun {S : Cells} {o' : Objects π} (h : Same S (objects b) o') =>
      (i.aside_invoke passes cache h b ⟨hfair, rfl, rfl⟩).2
    have hbinds' : passes.BindsSamplers (objects (i.invoke passes cache b).2) :=
      hbinds.of_same (haside (.refl _)).same
    simp only [executed, stale, invokeAll, run_bind]
    cases hresult : (i.invoke passes cache b).1.result with
    | error e =>
      have hleft := haside hsame
      obtain ⟨⟨hrun, hrerun⟩, ds, ds', hds, hrest⟩ :=
        ih (report.count (i.invoke passes cache b).1) report' hleft.fair hwilling hleft.same hbinds'
      rw [(report.count_of_error hresult).1] at hrun
      rw [hleft.undrawn ⟨e, hresult⟩] at hds
      exact ⟨⟨hrun, hrerun⟩, ds, ds', hds, hrest⟩
    | ok _ =>
      obtain ⟨hresult', d, d', halike, hfacing⟩ := i.coupled_invoke passes cache hbinds b c
        ⟨hfair, hwilling, rfl, rfl, rfl, hsame⟩ hresult
      obtain ⟨⟨hrun, hrerun, hskipped⟩, ds, ds', hds, hds', hlength, heach⟩ :=
        ih (report.count (i.invoke passes cache b).1) (report'.count (i.invoke passes cache c).1)
          hfacing.fair hfacing.willing hfacing.related hbinds'
      obtain ⟨hcount, -⟩ := report.count_of_ok hresult
      obtain ⟨hcount', hcount''⟩ := report'.count_of_ok hresult'
      simp only [invokeAll, run_bind, List.length_cons]
      refine ⟨⟨?_, ?_, ?_⟩, d :: ds, d' :: ds', ?_, ?_, ?_, .cons halike heach⟩
      · rw [hrun, hcount]
        omega
      · rw [hrerun, hcount']
        omega
      · rw [hskipped, hcount'']
      · rw [hds, hfacing.left, List.append_assoc]
        rfl
      · rw [hds', hfacing.right, List.append_assoc]
        rfl
      · rw [List.length_cons, hlength]

/-- If the invocations that were skipped are left out, all others draw again: with the same
program, targets, viewport, blending and textures, and with the same uniforms but for those
that an invocation which was skipped set last. -/
theorem draws_without_skipped (passes : PassTable) (cache : ImageCache) (is : List Invocation)
    (report report' : FrameReport) {b : σ} {c : τ} (hfair : Fair b) (hwilling : Willing c)
    (hobjects : objects b = objects c) (hbinds : passes.BindsSamplers (objects b)) :
    let kept := executed passes cache is b
    let run := invokeAll passes cache is report b
    let rerun := invokeAll passes cache kept report' c
    (run.1.executed = report.executed + kept.length ∧
      rerun.1.executed = report'.executed + kept.length ∧ rerun.1.skipped = report'.skipped) ∧
    ∃ ds ds', drawn run.2 = drawn b ++ ds ∧ drawn rerun.2 = drawn c ++ ds' ∧
      ds.length = kept.length ∧ AlikeEach π (stale passes cache is ∅ b) ds ds' :=
  coupled_invokeAll passes cache is report report' hfair hwilling (hobjects ▸ .refl _) hbinds

end

/-! ## A uniform that outlives its invocation -/

namespace Tinting

/-- A pass with one uniform. -/
def tint : ShaderDesc where
  name := "tint"
  includes := []
  uniforms := [⟨"color", "int"⟩]
  samplers := []
  outputs := [⟨"out_color", "vec4"⟩]
  body := ⟨"out_color = vec4(color);", 2⟩
  blendMode := .overwrite

def built : (Except CompileError BuildOutcome × PassTable) × Recorder Program.oneUniform :=
  PassTable.empty.build tint [] {}

def requested : (Except ResourceError TextureId × ImageCache) × Recorder Program.oneUniform :=
  ImageCache.empty.request ⟨1, .rgba8, ⟨4, 4⟩, .cached⟩ built.2

def passes : PassTable := built.1.2

def cache : ImageCache := requested.1.2

def recorder : Recorder Program.oneUniform := requested.2

/-- Refuses the first draw. -/
def refusing : Faulty (Recorder Program.oneUniform) where
  inner := recorder
  policy := fun calls _ call =>
    match call with
    | .drawFullscreen =>
      if calls.any fun e => e.call.name = "draw_fullscreen" then none else some {}
    | _ => none

/-- Sets the uniform and draws into the image. -/
def setting : Invocation := ⟨"tint", [some (.int 1)], [], [⟨1⟩]⟩

/-- Leaves the uniform alone. -/
def leaving : Invocation := ⟨"tint", [none], [], [⟨1⟩]⟩

def invocations : List Invocation := [setting, leaving]

end Tinting

open Tinting in
theorem skipped_invocation_sets_uniform :
    let kept := executed passes cache invocations refusing
    let run := invokeAll passes cache invocations ⟨.rendered, 0, 0, [], none⟩ refusing
    let rerun := invokeAll passes cache kept ⟨.rendered, 0, 0, [], none⟩ recorder
    kept = [leaving] ∧ run.1.executed = 1 ∧ run.1.skipped = 1 ∧
      rerun.1.executed = 1 ∧ rerun.1.skipped = 0 ∧
      run.2.inner.draws.map Draw.uniforms = [⟨[(0, .int 1)]⟩] ∧
      rerun.2.draws.map Draw.uniforms = [⟨[]⟩] := by
  decide +kernel

open Tinting in
theorem draws_without_skipped_sample :
    let run := invokeAll passes cache invocations ⟨.rendered, 0, 0, [], none⟩ refusing
    let rerun := invokeAll passes cache [leaving] ⟨.rendered, 0, 0, [], none⟩ recorder
    ∃ d d', run.2.inner.draws = [d] ∧ rerun.2.draws = [d'] ∧
      d' = { d with uniforms := d'.uniforms } := by
  have hfair : Fair refusing := by
    refine ⟨trivial, fun history _ call hcall => ?_⟩
    cases call <;> first
      | rfl
      | exact absurd trivial hcall
  have hprograms : recorder.objects.programs
      = ⟨[(⟨1⟩, { layout := { uniforms := [⟨"color", 0⟩], blockSize := 16 } })]⟩ := by
    decide +kernel
  have hbinds : passes.BindsSamplers (objects refusing) := by
    intro name pass _ m hm k hk
    rw [show (objects refusing).programs = _ from hprograms] at hm
    simp only [Dict.get?, Dict.find?] at hm
    split at hm
    · cases hm
      cases hk
    · cases hm
  have hkept : executed passes cache invocations refusing = [leaving] := by decide +kernel
  obtain ⟨-, ds, ds', hds, hds', -, heach⟩ :=
    draws_without_skipped passes cache invocations ⟨.rendered, 0, 0, [], none⟩
      ⟨.rendered, 0, 0, [], none⟩ hfair (c := recorder) trivial rfl hbinds
  rw [hkept] at hds'
  cases heach with
  | cons halike htail =>
    cases htail with
    | nil => exact ⟨_, _, hds, hds', halike.rest⟩

end FrameGraph
