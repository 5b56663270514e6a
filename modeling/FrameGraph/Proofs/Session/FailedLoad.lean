import FrameGraph.Proofs.Session.Ownership

/-!
# Loads whose passes cannot be built

A load that fails because some pass cannot be built has by then released the
passes that the new script does not have. So a pass survives such a load exactly if
the new script names it too, whichever passes fail.

Results:
* `rebuild_get?`: which of the passes are left by a rebuild, and that they are live.
* `survives_failed_build_iff`: the same for every failed load of every run.
* `renamed_pass_is_lost`: a run in which the only pass is lost.
-/
namespace FrameGraph.Session

open Gpu

variable {σ κ : Type} [Backend σ] [Accounting σ]

/-- A pass of the table has a live program. -/
def Running (s : Session σ κ) (name : String) : Prop :=
  ∃ pass, s.passes.get? name = some pass ∧ pass.program ∈ (account s.backend).programs

/-- An owned pass is a running one. -/
theorem Owned.running_iff {s : Session σ κ} (h : s.Owned) (name : String) :
    s.Running name ↔ (s.passes.get? name).isSome := by
  constructor
  · rintro ⟨pass, hpass, -⟩
    rw [hpass]
    rfl
  · intro hsome
    obtain ⟨pass, hpass⟩ := Option.isSome_iff_exists.1 hsome
    have hheld : pass.program ∈ s.heldPrograms :=
      Multiset.mem_add.2 (.inl (PassTable.mem_programs h.passes hpass))
    exact ⟨pass, hpass, (h.balanced.programs.2 _).2 hheld⟩

/-- Of the passes that were there, those are left that the result names. -/
theorem rebuild_get? {s : Session σ κ} (h : s.Owned) (result : LoadResult) {name : String}
    (hname : (s.passes.get? name).isSome) :
    (((rebuild result s).2.passes.get? name).isSome ↔
      name ∈ result.shaders.map ShaderDesc.name) := by
  obtain ⟨-, ⟨hretained, hget⟩, hb⟩ :=
    PassTable.runs_retain h.passes (result.shaders.map ShaderDesc.name) s.backend h.balanced
  obtain ⟨-, ⟨-, hgrown⟩, -⟩ :=
    PassTable.runs_buildAll result.declarations result.shaders hretained _ hb
  have hold := hget name
  constructor
  · intro hnew
    rcases hgrown.within name hnew with hkept | hbuilt
    · rw [hold] at hkept
      by_contra hnot
      rw [if_neg hnot] at hkept
      cases hkept
    · exact hbuilt
  · intro hmem
    rw [if_pos hmem] at hold
    exact hgrown.keeps name (hold ▸ hname)

variable [ScriptCompiler κ]

omit [Accounting σ] in
/-- A load that fails in its passes is a rebuild. -/
theorem loadScript_failed {s : Session σ κ} {script : String} {errors : List CompileError}
    (h : (loadScript script s).1 = .error (.compile errors)) :
    (loadScript script s).2 = (rebuild (ScriptCompiler.load script s.compiler).1
      { s with compiler := (ScriptCompiler.load script s.compiler).2 }).2 := by
  simp only [loadScript, run_bind, run_onCompiler] at h ⊢
  cases herror : (ScriptCompiler.load script s.compiler).1.error with
  | some d =>
    rw [herror] at h
    cases h
  | none =>
    simp only [herror, run_bind] at h ⊢
    cases hbuilt : (rebuild (ScriptCompiler.load script s.compiler).1
        { s with compiler := (ScriptCompiler.load script s.compiler).2 }).1 with
    | nil =>
      rw [hbuilt] at h
      cases h
    | cons e es => rfl

/-- After a load that failed in its passes, a pass that was there before is still there
and running exactly if the new script names it. -/
theorem survives_failed_build_iff {b : σ} (hb : Balanced 0 0 0 b) {compiler : κ}
    {settings : Settings} {s₀ : Session σ κ} (h₀ : (start b compiler settings).1 = .ok s₀)
    (acts : List Act) {script : String} {errors : List CompileError}
    (hfail : (loadScript script (s₀.play acts)).1 = .error (.compile errors)) {name : String}
    (hname : ((s₀.play acts).passes.get? name).isSome) :
    (loadScript script (s₀.play acts)).2.Running name ↔ name ∈
      (ScriptCompiler.load script (s₀.play acts).compiler).1.shaders.map ShaderDesc.name := by
  have howned := (runs_play s₀ (runs_start hb h₀).2 acts).2
  have hafter := (runs_loadScript script (s₀.play acts) ⟨howned, rfl⟩).2.1
  rw [hafter.running_iff, loadScript_failed hfail]
  exact rebuild_get? (s := { s₀.play acts with compiler := _ })
    ⟨howned.passes, howned.present, howned.images, howned.balanced⟩ _ hname

/-! ## A pass that is lost -/

/-- Finds no fault with the first two programs, and rejects all others. -/
def rejectingThird : Faulty (Recorder fun _ => .ok ⟨[], []⟩) where
  inner := {}
  policy := fun calls _ call =>
    match call with
    | .compileProgram _ => if calls.length < 5 then none else some {}
    | _ => none

/-- A script with one pass, called `wave` at first and `ripple` once it is renamed. -/
def renamed : Scripted LoadResult FrameResult (List ContextInput) where
  loads := .ofList [("a", ⟨[], [{ Present.desc with name := "wave" }], none⟩),
    ("b", ⟨[], [{ Present.desc with name := "ripple" }], none⟩)]
  frames := []

def unloaded : Session (Faulty (Recorder fun _ => .ok ⟨[], []⟩))
    (Scripted LoadResult FrameResult (List ContextInput)) :=
  fresh rejectingThird renamed {}

theorem renamed_pass_is_lost :
    (start rejectingThird renamed {}).1 = .ok unloaded ∧
      ((unloaded.play [.load "a"]).Running "wave") ∧
      (loadScript "b" (unloaded.play [.load "a"])).1 =
        .error (.compile [⟨"ripple", 0, "injected"⟩]) ∧
      ¬ (loadScript "b" (unloaded.play [.load "a"])).2.Running "wave" := by
  have hstart : (start rejectingThird renamed {}).1 = .ok unloaded := rfl
  have howned := runs_start (balanced_fresh Objects.numbered_empty Objects.account_empty) hstart
  have hbefore := runs_play unloaded howned.2 [.load "a"]
  have hafter := (runs_loadScript "b" (unloaded.play [.load "a"]) ⟨hbefore.2, rfl⟩).2.1
  refine ⟨hstart, (hbefore.2.running_iff _).2 (by decide +kernel), by decide +kernel, ?_⟩
  rw [hafter.running_iff]
  decide +kernel

theorem survives_failed_build_sample :
    (loadScript "b" (unloaded.play [.load "a"])).2.Running "wave" ↔ "wave" ∈ ["ripple"] :=
  survives_failed_build_iff (balanced_fresh Objects.numbered_empty Objects.account_empty)
    (show (start rejectingThird renamed {}).1 = .ok unloaded from rfl) [.load "a"]
    (show _ = Except.error (ScriptError.compile [⟨"ripple", 0, "injected"⟩]) by decide +kernel)
    (by decide +kernel)

end FrameGraph.Session
