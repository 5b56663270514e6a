import FrameGraph.Proofs.Frame.Drawing
import FrameGraph.Proofs.Gpu.Surface

/-!
# Invocations on record

On a recording backend an invocation records one draw, with the program and into the
framebuffer of its pass, if it is executed, and nothing if it is skipped: everything before
the draw is silent. So the draws of a frame are those of the executed invocations, in order,
whatever became of the others.

Results:
* `invoke_records`: one invocation.
* `invokeAll_records`: all invocations of a frame, and how many the report counts.
-/
namespace FrameGraph

open Gpu

variable {fe : Program.FrontEnd} {cs : List Command} {current : Option ProgramId}

/-- The record, and the program in use. -/
def Gpu.Recorder.Stands (cs : List Command) (current : Option ProgramId) (r : Recorder fe) : Prop :=
  r.commands = cs ∧ r.objects.current = current

theorem Gpu.keeps_silent {a : Answer} {call : Call a} (h : call.silent) :
    Keeps (τ := Recorder fe) (Recorder.Stands cs current) (Backend.perform call) := by
  rintro r ⟨hcommands, hcurrent⟩
  obtain ⟨hcommands', hcurrent'⟩ := Recorder.perform_silent (r := r) h
  exact ⟨hcommands'.trans hcommands, hcurrent'.trans hcurrent⟩

/-- The draw is made with the program and into the framebuffer of a pass. -/
structure Pass.Draws (p : Pass) (d : Draw) : Prop where
  program : d.program = p.program
  framebuffer : d.framebuffer = some p.framebuffer

namespace Invocation

/-! ## Before the draw -/

section
variable {σ : Type} [Backend σ] {I : σ → Prop}

/-- What every value that is set keeps is kept, and so on for the other steps. -/
theorem keeps_setUniforms (hset : ∀ l v, Keeps I (setUniform l v))
    (ls : List (Option Program.Location)) (vs : List (Option UniformValue)) :
    Keeps I (setUniforms ls vs) := by
  fun_induction setUniforms (σ := σ) ls vs with
  | case1 l ls v vs ih => exact .bind (.discard (hset l v)) fun _ => ih
  | case2 _ _ _ _ _ ih => exact ih
  | case3 => exact .pure ()

theorem keeps_bindSamplers (hset : ∀ l v, Keeps I (setUniform l v))
    (hbind : ∀ unit t, Keeps I (bindTexture unit t)) (cache : ImageCache) (i : Invocation)
    (index : Nat) (ls : List (Option Program.Location)) :
    Keeps I (i.bindSamplers cache index ls) := by
  induction ls generalizing index with
  | nil => exact .pure ()
  | cons l ls ih =>
    have hrest : Keeps I (do
        bindTexture (UInt32.ofNat index) (samplerTexture cache i index)
        bindSamplers cache i (index + 1) ls) :=
      .bind (hbind _ _) fun _ => ih (index + 1)
    cases l with
    | none => exact hrest
    | some l => exact .bind (.discard (hset l _)) fun _ => hrest

theorem keeps_attachAll {f : FramebufferId} (hattach : ∀ slot t, Keeps I (attachColor f slot t))
    (slots : List (UInt32 × Option TextureId)) : Keeps I (attachAll f slots) := by
  induction slots with
  | nil => exact .pure _
  | cons s rest ih =>
    refine .bind (hattach s.1 s.2) fun answer => ?_
    cases answer with
    | error e => exact .pure _
    | ok _ => exact ih

/-- An invocation keeps what every call keeps that leaves the size of the surface alone. -/
theorem keeps_invoke
    (h : ∀ {a : Answer} (call : Call a), call.keepsSurface → Keeps I (Backend.perform call))
    (passes : PassTable) (cache : ImageCache) (i : Invocation) :
    Keeps I (i.invoke passes cache) := by
  have hset (l : Program.Location) (v : UniformValue) : Keeps I (setUniform l v) := h _ trivial
  have hdraw (plan : DrawPlan) : Keeps I (drawInto plan) :=
    .bind (h _ trivial) fun _ => .bind (h _ trivial) fun _ => .bind (h _ trivial) fun _ =>
      .bind (h _ trivial) fun _ => .bind (h _ trivial) fun _ => .pure _
  have hrender (plan : DrawPlan) : Keeps I (render plan) := by
    have hattach (slot : UInt32) (t : Option TextureId) :
        Keeps I (attachColor plan.pass.framebuffer slot t) := h _ trivial
    refine .bind (keeps_attachAll hattach plan.slots) fun answer => ?_
    cases answer with
    | error e => exact .pure _
    | ok _ =>
      refine .bind (h _ trivial) fun answer => ?_
      cases answer with
      | error e => exact .pure _
      | ok _ => exact hdraw plan
  unfold invoke
  dsimp only
  split
  · exact .pure _
  · refine .bind (.bind (h _ trivial) fun answer => ?_) fun _ => .pure _
    cases answer with
    | error e => exact .pure _
    | ok _ =>
      exact .bind (keeps_setUniforms hset _ _) fun _ =>
        .bind (keeps_bindSamplers hset (fun _ _ => h _ trivial) cache i 0 _) fun _ =>
          .bind (hrender _) fun _ => .pure _

theorem keeps_invokeAll
    (h : ∀ {a : Answer} (call : Call a), call.keepsSurface → Keeps I (Backend.perform call))
    (passes : PassTable) (cache : ImageCache) (is : List Invocation) (report : FrameReport) :
    Keeps I (invokeAll passes cache is report) := by
  induction is generalizing report with
  | nil => exact .pure _
  | cons i is ih => exact .bind (i.keeps_invoke h passes cache) fun _ => ih _

end

/-! ## The draw -/

/-- What an attempt at a draw comes to, with the program in use that the pass has. -/
def Drawn (pass : Pass) (cs : List Command) (ok : Prop) (r : Recorder fe) : Prop :=
  (ok ∧ ∃ d, pass.Draws d ∧ r.commands = cs ++ [.draw d]) ∨ (¬ ok ∧ r.commands = cs)

theorem drawInto_cases (p : DrawPlan) (r : Recorder fe) :
    let o : Objects RecordedProgram := { r.objects with
      bound := some p.pass.framebuffer, viewport := p.size, blend := p.pass.blendMode.state }
    ((drawInto p r).1 = .ok () ∧ ∃ d, Recorder.currentDraw o = .ok d ∧
        (drawInto p r).2.commands = r.commands ++ [.draw d]) ∨
      ((∃ e, (drawInto p r).1 = .error e) ∧ (drawInto p r).2.commands = r.commands) := by
  intro o
  have hrun : drawInto p r = (do
      let drawn ← drawFullscreen
      bindFramebuffer none
      return drawn) { r with objects := o } := rfl
  have hdraw : drawFullscreen { r with objects := o }
      = attempt (fun r : Recorder fe => (Recorder.currentDraw r.objects).map fun d =>
          r.record (.draw d)) { r with objects := o } := rfl
  rw [hrun]
  simp only [run_bind, run_pure, hdraw]
  cases hlook : Recorder.currentDraw o with
  | error e =>
    simp only [attempt, hlook, Except.map]
    exact .inr ⟨⟨e, rfl⟩, rfl⟩
  | ok d =>
    simp only [attempt, hlook, Except.map]
    exact .inl ⟨trivial, d, rfl, rfl⟩

theorem drawInto_records (p : DrawPlan) {r : Recorder fe}
    (h : r.Stands cs (some p.pass.program)) :
    Drawn p.pass cs ((drawInto p r).1 = .ok ()) (drawInto p r).2 := by
  obtain ⟨rfl, hcurrent⟩ := h
  rcases drawInto_cases p r with ⟨hok, d, hd, hcommands⟩ | ⟨⟨e, he⟩, hcommands⟩
  · obtain ⟨-, hprogram, -⟩ := Recorder.currentDraw_eq hd
    have hsame : p.pass.program = d.program := Option.some.inj (hcurrent.symm.trans hprogram)
    exact .inl ⟨hok, d, ⟨hsame.symm, Recorder.currentDraw_ok hd⟩, hcommands⟩
  · exact .inr ⟨fun hok => (by cases he.symm.trans hok), hcommands⟩

theorem render_records (p : DrawPlan) {r : Recorder fe} (h : r.Stands cs (some p.pass.program)) :
    Drawn p.pass cs ((render p r).1 = .ok ()) (render p r).2 := by
  have hattach (slot : UInt32) (t : Option TextureId) :
      Keeps (τ := Recorder fe) (Recorder.Stands cs (some p.pass.program))
        (attachColor p.pass.framebuffer slot t) :=
    keeps_silent trivial
  have hattached := keeps_attachAll hattach p.slots r h
  unfold render
  simp only [run_bind]
  cases (attachAll p.pass.framebuffer p.slots r).1 with
  | error e => exact .inr ⟨fun h => (by cases h), hattached.1⟩
  | ok _ =>
    have hsilent : (Call.setDrawBuffers p.pass.framebuffer (p.targets.map Prod.fst)).silent :=
      trivial
    have hbuffers := keeps_silent hsilent _ hattached
    simp only [run_bind]
    cases (setDrawBuffers p.pass.framebuffer (p.targets.map Prod.fst)
      (attachAll p.pass.framebuffer p.slots r).2).1 with
    | error e => exact .inr ⟨fun h => (by cases h), hbuffers.1⟩
    | ok _ => exact drawInto_records p hbuffers

theorem carryOut_records (cache : ImageCache) (i : Invocation) (p : DrawPlan) (r : Recorder fe) :
    Drawn p.pass r.commands ((i.carryOut cache p r).1.result = .ok ())
      (i.carryOut cache p r).2 := by
  have huse : useProgram p.pass.program r
      = attempt (fun r : Recorder fe => r.update fun o => o.useProgram p.pass.program) r := rfl
  simp only [carryOut, run_bind, huse]
  cases hstep : r.objects.useProgram p.pass.program with
  | error e =>
    rw [Recorder.attempt_error hstep]
    exact .inr ⟨fun h => (by cases h), rfl⟩
  | ok o =>
    rw [Recorder.attempt_ok hstep]
    have hused : ({ r with objects := o } : Recorder fe).Stands r.commands
        (some p.pass.program) := by
      rw [Objects.useProgram_ok hstep]
      exact ⟨rfl, rfl⟩
    have hset (l : Program.Location) (v : UniformValue) :
        Keeps (τ := Recorder fe) (Recorder.Stands r.commands (some p.pass.program))
          (setUniform l v) :=
      keeps_silent trivial
    have hready := keeps_bindSamplers hset (fun _ _ => keeps_silent trivial) cache i 0
      p.pass.samplers _ (keeps_setUniforms hset p.pass.uniforms i.uniforms _ hused)
    simp only [run_bind, run_pure, mapError_eq_ok_iff]
    exact render_records p hready

/-- An invocation that is executed records one draw, and a skipped one nothing. -/
theorem invoke_records (passes : PassTable) (cache : ImageCache) (i : Invocation)
    (r : Recorder fe) :
    ((i.invoke passes cache r).1.result = .ok () ∧
        ∃ pass d, passes.get? i.shader = some pass ∧ pass.Draws d ∧
          (i.invoke passes cache r).2.commands = r.commands ++ [.draw d]) ∨
      ((∃ e, (i.invoke passes cache r).1.result = .error e) ∧
        (i.invoke passes cache r).2.commands = r.commands) := by
  unfold invoke
  cases hplan : plan passes cache i with
  | error e => exact .inr ⟨⟨e, rfl⟩, rfl⟩
  | ok p =>
    simp only [run_bind, run_pure]
    rcases carryOut_records cache i p r with ⟨hok, d, hd, hcommands⟩ | ⟨hnot, hcommands⟩
    · exact .inl ⟨hok, p.pass, d, plan_pass hplan, hd, hcommands⟩
    · refine .inr ⟨?_, hcommands⟩
      cases hresult : (carryOut cache i p r).1.result with
      | error e => exact ⟨e, rfl⟩
      | ok _ => exact absurd hresult hnot

end Invocation

/-- The draws of a frame are those of the executed invocations, in order. -/
theorem invokeAll_records (passes : PassTable) (cache : ImageCache) (is : List Invocation)
    (report : FrameReport) (r : Recorder fe) :
    ∃ executed draws, executed.Sublist is ∧
      List.Forall₂ (fun (i : Invocation) d => ∃ pass, passes.get? i.shader = some pass ∧
        pass.Draws d) executed draws ∧
      (invokeAll passes cache is report r).1.executed = report.executed + executed.length ∧
      (invokeAll passes cache is report r).1.skipped + executed.length
        = report.skipped + is.length ∧
      (invokeAll passes cache is report r).2.commands = r.commands ++ draws.map .draw := by
  induction is generalizing report r with
  | nil => exact ⟨[], [], .slnil, .nil, rfl, rfl, (List.append_nil _).symm⟩
  | cons i is ih =>
    obtain ⟨executed, draws, hsub, hdraws, hexecuted, hskipped, hcommands⟩ :=
      ih (report.count (i.invoke passes cache r).1) (i.invoke passes cache r).2
    simp only [invokeAll, run_bind]
    rw [hexecuted, hcommands]
    rcases i.invoke_records passes cache r with ⟨hok, pass, d, hpass, hd, hone⟩ | ⟨⟨e, he⟩, hnone⟩
    · obtain ⟨hcount, hcount'⟩ := report.count_of_ok hok
      refine ⟨i :: executed, d :: draws, hsub.cons_cons i, .cons ⟨pass, hpass, hd⟩ hdraws, ?_, ?_,
        ?_⟩
      · rw [hcount, List.length_cons]
        omega
      · rw [hcount'] at hskipped
        simp only [List.length_cons]
        omega
      · rw [hone, List.map_cons, List.append_assoc]
        rfl
    · obtain ⟨hcount, hcount'⟩ := report.count_of_error he
      refine ⟨executed, draws, hsub.cons i, hdraws, by rw [hcount], ?_, by rw [hnone]⟩
      rw [hcount'] at hskipped
      rw [List.length_cons]
      omega

end FrameGraph
