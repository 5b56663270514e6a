import FrameGraph.Proofs.Gpu.Alongside
import FrameGraph.Proofs.Pass.Building

/-!
# Building passes on two recorders

If one recorder lacks the program and the framebuffer of the pass that shows images, a table
without this pass is built on both alike: what is built has new numbers, and what goes is
what the table had.

Results:
* `PassTable.Avoids`: a table that has nothing of the pass that shows images.
* `agrees_buildAll`: building its passes has the same outcome on both recorders.
-/
namespace FrameGraph

open Gpu

/-- No pass of the table has the program or the framebuffer of the pass that shows images. -/
def PassTable.Avoids (shown : Pass) (t : PassTable) : Prop :=
  ∀ name pass, t.get? name = some pass →
    pass.program ≠ shown.program ∧ pass.framebuffer ≠ shown.framebuffer

namespace PassTable

variable {fe : Program.FrontEnd} {shown : Pass} {cs cs' : List Command} {t : PassTable}

theorem avoids_empty : empty.Avoids shown := fun _ _ h => by cases h

theorem Avoids.put (h : t.Avoids shown) {p : Pass}
    (hp : p.program ≠ shown.program ∧ p.framebuffer ≠ shown.framebuffer) :
    (t.put p).Avoids shown := by
  intro name pass hpass
  rw [get?_put] at hpass
  split at hpass
  · cases hpass
    exact hp
  · exact h name pass hpass

theorem agrees_compileProgram (source : String) :
    Agrees (σ := Recorder fe) (Alongside shown cs cs') (compileProgram source)
      fun answer r r' => Alongside shown cs cs' r r' ∧
        ∀ p, answer = .ok p → p ≠ shown.program := by
  intro r r' h
  obtain ⟨hsame, halong⟩ := h.perform (.compileProgram source) trivial
  refine ⟨hsame, halong, fun p hp => ?_⟩
  have hnew : p = ⟨r.objects.nextId⟩ := by
    change (Recorder.compileProgram source r).1 = .ok p at hp
    unfold Recorder.compileProgram at hp
    split at hp
    · cases hp
    · cases hp
      rfl
  rw [hnew]
  exact h.lacking.next_program

theorem agrees_createFramebuffer :
    Agrees (σ := Recorder fe) (Alongside shown cs cs') createFramebuffer
      fun answer r r' => Alongside shown cs cs' r r' ∧
        ∀ f, answer = .ok f → f ≠ shown.framebuffer := by
  intro r r' h
  obtain ⟨hsame, halong⟩ := h.perform .createFramebuffer trivial
  refine ⟨hsame, halong, fun f hf => ?_⟩
  cases hf
  exact h.lacking.next_framebuffer

theorem agrees_locations {p : ProgramId} (hp : p ≠ shown.program) (names : List TypedName) :
    Agrees (σ := Recorder fe) (Alongside shown cs cs') (Pass.locations p names)
      fun _ => Alongside shown cs cs' := by
  induction names with
  | nil => exact .pure fun _ _ h => h
  | cons n ns ih =>
    refine .bind (Q := fun _ => Alongside shown cs cs')
      (fun _ _ h => h.perform (.uniformLocation p n.name) hp) fun _ => ?_
    exact .bind ih fun _ => .pure fun _ _ h => h

theorem agrees_deleteProgram {p : ProgramId} (hp : p ≠ shown.program) :
    Agrees (σ := Recorder fe) (Alongside shown cs cs') (deleteProgram p)
      fun _ => Alongside shown cs cs' :=
  fun _ _ h => h.perform (.deleteProgram p) hp

theorem agrees_file (h : t.Avoids shown) (desc : ShaderDesc) (source : String)
    {program : ProgramId} (hprogram : program ≠ shown.program)
    (uniforms samplers : List (Option Program.Location)) :
    Agrees (σ := Recorder fe) (Alongside shown cs cs')
      (t.file desc source program uniforms samplers)
      fun a r r' => Alongside shown cs cs' r r' ∧ a.2.Avoids shown := by
  unfold file
  split
  · next old hold =>
    obtain ⟨hp, hf⟩ := h _ _ hold
    exact .bind (agrees_deleteProgram hp) fun _ =>
      .pure fun _ _ halong => ⟨halong, h.put ⟨hprogram, hf⟩⟩
  · refine .bind agrees_createFramebuffer fun answer => .of_fact fun hnew => ?_
    cases answer with
    | ok f => exact .pure fun _ _ halong => ⟨halong, h.put ⟨hprogram, hnew f rfl⟩⟩
    | error e =>
      exact .bind (agrees_deleteProgram hprogram) fun _ => .pure fun _ _ halong => ⟨halong, h⟩

theorem agrees_build (h : t.Avoids shown) (desc : ShaderDesc) (declarations : List Declaration) :
    Agrees (σ := Recorder fe) (Alongside shown cs cs') (t.build desc declarations)
      fun a r r' => Alongside shown cs cs' r r' ∧ a.2.Avoids shown := by
  unfold build
  dsimp only
  split
  · next p hp =>
    obtain ⟨hget, -⟩ := current?_eq_some hp
    obtain ⟨hprogram, hframebuffer⟩ := h _ _ hget
    exact .pure fun _ _ halong => ⟨halong, h.put ⟨hprogram, hframebuffer⟩⟩
  · refine .bind (agrees_compileProgram _) fun answer => .of_fact fun hnew => ?_
    cases answer with
    | error e => exact .pure fun _ _ halong => ⟨halong, h⟩
    | ok program =>
      have hprogram := hnew program rfl
      refine .bind (agrees_locations hprogram desc.uniforms) fun uniforms => ?_
      refine .bind (agrees_locations hprogram desc.samplers) fun samplers => ?_
      exact agrees_file h desc _ hprogram uniforms samplers

/-- Building all passes has the same outcome on both recorders, whichever fail. -/
theorem agrees_buildAll (h : t.Avoids shown) (declarations : List Declaration)
    (descs : List ShaderDesc) :
    Agrees (σ := Recorder fe) (Alongside shown cs cs') (t.buildAll declarations descs)
      fun a r r' => Alongside shown cs cs' r r' ∧ a.2.Avoids shown := by
  induction descs generalizing t with
  | nil => exact .pure fun _ _ halong => ⟨halong, h⟩
  | cons desc descs ih =>
    refine .bind (agrees_build h desc declarations) fun (built, t₁) => .of_fact fun h₁ => ?_
    refine .bind (ih h₁) fun (errors, t₂) => .of_fact fun h₂ => ?_
    cases built <;> exact .pure fun _ _ halong => ⟨halong, h₂⟩

end PassTable
end FrameGraph
