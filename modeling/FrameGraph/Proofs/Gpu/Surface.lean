import FrameGraph.Proofs.Gpu.Recording

/-!
# Silent calls, and the surface on record

Most calls that prepare a draw record nothing (`Call.silent`), and only one kind of call
sets the size of the surface. So the record tells which size the surface has: the one it
was last set to, or a single pixel (`Recorder.Sized`).

Results:
* `perform_silent`: a silent call adds nothing, and leaves the program in use.
* `perform_lastResize`, `perform_sized`: the size of the surface, and its record.
-/
namespace FrameGraph.Gpu

/-- The size that the surface was last set to. -/
def lastResize (cs : List Command) : Option Extent :=
  (cs.filterMap fun | .resizeSurface size => some size | _ => none).getLast?

theorem lastResize_append (cs cs' : List Command) :
    lastResize (cs ++ cs') = (lastResize cs').or (lastResize cs) := by
  rw [lastResize, List.filterMap_append, List.getLast?_append]
  rfl

/-- A call that leaves the size of the surface alone. -/
def Call.keepsSurface : {a : Answer} → Call a → Prop
  | _, .resizeSurface _ => False
  | _, _ => True

/-- A call that puts nothing on record and leaves the program in use. -/
def Call.silent : {a : Answer} → Call a → Prop
  | _, .attachColor .. | _, .setDrawBuffers .. | _, .uniformLocation .. | _, .setUniform ..
  | _, .bindTexture .. | _, .bindFramebuffer _ | _, .setViewport _ | _, .setBlend _
  | _, .surfaceSize | _, .readSurface => True
  | _, _ => False

namespace Recorder

variable {fe : Program.FrontEnd} {r : Recorder fe} {a : Answer} {call : Call a}

theorem perform_silent (h : call.silent) :
    (perform call r).2.commands = r.commands ∧
      (perform call r).2.objects.current = r.objects.current := by
  constructor
  · rcases perform_records r call with hcommands | ⟨c, -, hc⟩
    · exact hcommands
    · cases call <;> first | exact hc.elim | exact h.elim
  · have hchanged := r.perform_changed call
    generalize (perform call r).2.objects = o at hchanged ⊢
    cases hchanged with
    | useProgram | deleteProgram => exact h.elim
    | bindTexture unit t => cases t <;> rfl
    | _ => rfl

/-! ## The size of the surface -/

theorem perform_lastResize (h : call.keepsSurface) :
    lastResize (perform call r).2.commands = lastResize r.commands := by
  rcases perform_records r call with hcommands | ⟨c, hcommands, hc⟩
  · rw [hcommands]
  · rw [hcommands, lastResize_append]
    cases call <;> first
      | exact h.elim
      | exact hc.elim
      | (obtain ⟨x, rfl⟩ := hc; rfl)

theorem perform_surface (h : call.keepsSurface) :
    (perform call r).2.objects.surface = r.objects.surface := by
  have hchanged := r.perform_changed call
  generalize (perform call r).2.objects = o at hchanged ⊢
  cases hchanged with
  | resizeSurface => exact h.elim
  | bindTexture unit t => cases t <;> rfl
  | _ => rfl

/-- The surface has the size it was last set to; at first it is a single pixel. -/
def Sized (r : Recorder fe) : Prop :=
  r.objects.surface = (lastResize r.commands).getD ⟨1, 1⟩

/-- Every call keeps the size of the surface on record. -/
theorem perform_sized (h : r.Sized) (call : Call a) : (perform call r).2.Sized := by
  by_cases hcall : call.keepsSurface
  · rw [Sized, perform_surface hcall, perform_lastResize hcall]
    exact h
  · cases call with
    | resizeSurface size =>
      have hcommands : (perform (.resizeSurface size) r).2.commands
          = r.commands ++ [.resizeSurface size.atLeastOne] := rfl
      rw [Sized, hcommands, lastResize_append]
      rfl
    | _ => exact absurd trivial hcall

end Recorder

section
variable {fe : Program.FrontEnd} {r r' : Recorder fe} {C : Discipline (Recorder fe)}
  {es : List Event}

theorem Trail.sized (h : Trail C r es r') (hr : r.Sized) : r'.Sized :=
  h.keeps (fun _ _ call _ hr => Recorder.perform_sized hr call) hr

theorem Trail.lastResize (h : Trail C r es r')
    (hC : ∀ (b : Recorder fe) {a : Answer} (call : Call a), C b call → call.keepsSurface) :
    lastResize r'.commands = lastResize r.commands :=
  h.keeps (I := fun r' => Gpu.lastResize r'.commands = Gpu.lastResize r.commands)
    (fun b _ _ hcall hr => (Recorder.perform_lastResize (hC b _ hcall)).trans hr) rfl

end

end FrameGraph.Gpu
