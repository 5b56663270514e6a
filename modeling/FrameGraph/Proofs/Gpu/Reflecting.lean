import FrameGraph.Gpu.Device
import FrameGraph.Gpu.Recorder
import FrameGraph.Pass.Table
import FrameGraph.Proofs.Gpu.Trail

/-!
# Backends that find locations in layouts

A `Reflecting` backend builds a program exactly if its front end accepts the text, keeps
the layout that the front end found, and looks locations up in it. What a look-up finds is
then settled by the text, whichever backend the program is on. The recording backend and
the device backend are such backends.

Results:
* `locations_eq`: looking up names one by one finds what the layout says.
* the instances for `Recorder` and `Device`.
-/
namespace FrameGraph

/-- Where a layout has each of some names. -/
def Program.Layout.locate (l : Layout) (names : List TypedName) : List (Option Location) :=
  names.map fun n => l.location? n.name

/-- Accepts every program, and finds one uniform in it. -/
def Program.oneUniform : FrontEnd := fun _ =>
  .ok ⟨[⟨some "params", .uniform, some ⟨0, 0⟩, .block [⟨some "color", 0, none⟩] 16⟩], []⟩

namespace Gpu

open Program (FrontEnd Layout)

class Reflecting (σ : Type) [Backend σ] (fe : outParam FrontEnd) where
  /-- The layout of a live program. -/
  layout? : σ → ProgramId → Option Layout
  accepts : ∀ {source : String} {layout : Layout} (b : σ),
    Program.compile fe source = .ok layout →
      ∃ p b', compileProgram source b = (.ok p, b') ∧ layout? b' p = some layout
  rejects : ∀ {source : String} {e : Program.ShaderError} (b : σ),
    Program.compile fe source = .error e → compileProgram source b = (.error e, b)
  locates : ∀ (p : ProgramId) (name : String) (b : σ),
    uniformLocation p name b = ((layout? b p).bind fun l => l.location? name, b)
  frames : ∀ b : σ, ∃ f b', createFramebuffer b = (.ok f, b')

variable {σ : Type} [Backend σ] {fe : FrontEnd} [Reflecting σ fe]

theorem locations_eq {p : ProgramId} {b : σ} {layout : Layout}
    (h : Reflecting.layout? b p = some layout) (names : List TypedName) :
    Pass.locations p names b = (layout.locate names, b) := by
  induction names with
  | nil => rfl
  | cons n ns ih =>
    simp only [Pass.locations, run_bind, Reflecting.locates, ih, h, run_pure]
    rfl

/-! ## Backends -/

theorem layout?_addProgram {π : Type} (o : Objects π) (state : π) :
    (o.addProgram state).2.programs.get? (o.addProgram state).1 = some state := by
  simp [Objects.addProgram]

instance : Reflecting (Recorder fe) fe where
  layout? r p := (r.objects.programs.get? p).map RecordedProgram.layout
  accepts {source layout} r h := by
    have hcompile : compileProgram source r = Recorder.compileProgram source r := rfl
    rw [hcompile, Recorder.compileProgram, h]
    refine ⟨_, _, rfl, ?_⟩
    exact congrArg (Option.map RecordedProgram.layout) (layout?_addProgram r.objects _)
  rejects {source e} r h := by
    have hcompile : compileProgram source r = Recorder.compileProgram source r := rfl
    rw [hcompile, Recorder.compileProgram, h]
  locates p name r := by
    have hlocate : uniformLocation p name r = (r.uniformLocation p name, r) := rfl
    rw [hlocate, Recorder.uniformLocation]
    cases r.objects.programs.get? p <;> rfl
  frames r := ⟨_, _, rfl⟩

instance : Reflecting (Device fe) fe where
  layout? d p := (d.objects.programs.get? p).map DeviceProgram.layout
  accepts {source layout} d h := by
    have hcompile : compileProgram source d = Device.compileProgram source d := rfl
    rw [hcompile, Device.compileProgram, h]
    refine ⟨_, _, rfl, ?_⟩
    exact congrArg (Option.map DeviceProgram.layout) (layout?_addProgram d.objects _)
  rejects {source e} d h := by
    have hcompile : compileProgram source d = Device.compileProgram source d := rfl
    rw [hcompile, Device.compileProgram, h]
  locates p name d := by
    have hlocate : uniformLocation p name d = (d.uniformLocation p name, d) := rfl
    rw [hlocate, Device.uniformLocation]
    cases d.objects.programs.get? p <;> rfl
  frames d := ⟨_, _, rfl⟩

end Gpu
end FrameGraph
