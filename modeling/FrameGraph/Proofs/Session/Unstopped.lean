import FrameGraph.Checked
import FrameGraph.Proofs.Session.Play

/-!
# Checked runs of a session

A host may play a session checked: an act that makes a sum or a product that is no word is not
answered, and the run is over. As long as that does not happen, the run is the one that is
played without checks, so whatever holds of those runs holds of it.

Results:
* `loadChecked_eq_error_iff`: what stops a load.
* `playChecked_ok`: a run that is not stopped.
-/
namespace FrameGraph

open Gpu

variable {σ κ : Type} [Backend σ] [Reckoning σ] [ScriptCompiler κ]

namespace Act

/-- What an act reckons with. Without loads and pictures it makes no sum or product of
words. -/
def ops : Act → Session σ κ → List WordOp
  | load script, s => Session.loadOps script s
  | tick _ time, s => Session.tickOps time s
  | capture size time, s => Session.captureOps size time s
  | captureDefault time, s => Session.captureOps s.settings.thumbnailSize time s
  | frame .., _ | setValue .., _ | attachInbox, _ | send _, _ | release, _ => []

def performChecked (act : Act) : CheckedM (Session σ κ) Reply := checking act.ops act.perform

end Act

namespace Session

variable {s s' : Session σ κ}

/-- The session after a list of acts, unless one of them is stopped. -/
def playChecked (s : Session σ κ) : List Act → Except Overflow (Session σ κ)
  | [] => .ok s
  | act :: acts => do
    let (_, s) ← act.performChecked s
    playChecked s acts

/-- A load is stopped by the builds of a script that the compiler accepts. -/
theorem loadChecked_eq_error_iff {script : String} {overflow : Overflow} :
    let result := (ScriptCompiler.load script s.compiler).1
    let kept := s.passes.retain (result.shaders.map ShaderDesc.name) s.backend
    loadChecked script s = .error overflow ↔
      result.error = none ∧
        kept.1.buildAllChecked result.declarations result.shaders kept.2 = .error overflow := by
  intro result kept
  have hload : ScriptCompiler.load script s.compiler
      = (result, (ScriptCompiler.load script s.compiler).2) := rfl
  unfold loadChecked PassTable.buildAllChecked checking
  rw [checked_eq_error_iff, checked_eq_error_iff]
  unfold loadOps
  rw [hload]
  cases herror : result.error with
  | some e => simp [herror]
  | none =>
    simp only [herror, true_and]
    rfl

/-- A run that is not stopped is the run without checks, and nothing wraps around in it. -/
theorem playChecked_ok {acts : List Act} (h : s.playChecked acts = .ok s') :
    s.play acts = s' ∧ ∀ before act after, acts = before ++ act :: after →
      ∀ op ∈ act.ops (s.play before), op.word.toNat = op.number := by
  induction acts generalizing s with
  | nil =>
    cases h
    exact ⟨rfl, by simp⟩
  | cons act acts ih =>
    unfold playChecked at h
    cases hact : act.performChecked s with
    | error overflow =>
      rw [hact] at h
      cases h
    | ok r =>
      rw [hact] at h
      obtain rfl : act.perform s = r := (checked_eq_ok_iff.1 hact).2
      obtain ⟨hplay, hexact⟩ := ih h
      refine ⟨hplay, ?_⟩
      intro before act' after hsplit
      cases before with
      | nil =>
        cases hsplit
        exact exact_of_checked hact
      | cons first before =>
        cases hsplit
        exact hexact before act' after rfl

end Session
end FrameGraph
