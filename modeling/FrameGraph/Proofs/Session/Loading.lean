import FrameGraph.Compiler.Scripted
import FrameGraph.Gpu.Recorder
import FrameGraph.Proofs.Session.Churn

/-!
# When a session is ready

A session has one switch, which a load that succeeds turns on and a release turns off;
nothing else moves it. So whether frames are run is read off from the acts of the host and
the replies to them. A load that the compiler rejects leaves the session as it was but for
the compiler itself. A compiler behind a text interface rejects every text that is not the
record it should be, of a load as of a frame, and a frame that it rejects is opened and
closed again with nothing in between.

Results:
* `perform_state`: what an act does to the switch; `ready_iff`: what a run does to it.
* `loadScript_rejected`: a load that the compiler rejects.
* `readRecord_malformed`: whatever is wrong with a text, its reading is an error.
* `load_state_machine`: these together, for every run of every session.
-/
namespace FrameGraph

open Gpu Json Wire

/-! ## Texts that are no records -/

namespace JsonCompiler

/-- What can be wrong with the text of a record. -/
inductive Malformed {α : Type} (c : Codec α) (raw : String) : Prop
  | notJson {f : Fault} (h : (Reading.scan raw).value = .error f)
  | notObject {d : Doc} (h : (Reading.scan raw).value = .ok d)
      (hd : ∀ fields closed, d ≠ .record fields closed)
  | misfit {d : Doc} {f : Fault} (h : (Reading.scan raw).value = .ok d)
      (hd : c.ofValue d = .error f)

variable {α : Type} {c : Codec α} {raw : String}

/-- Whatever is wrong, the reading is an error that tells what should have been there. -/
theorem readRecord_malformed (h : Malformed c raw) (what : String) :
    ∃ reason, readRecord c what raw = .error (malformed what reason) := by
  cases h with
  | notJson h => exact ⟨_, by rw [readRecord, h]⟩
  | @notObject d h hd =>
    refine ⟨"expected a JSON object", ?_⟩
    rw [readRecord, h]
    cases d with
    | record fields closed => exact absurd rfl (hd fields closed)
    | _ => rfl
  | @misfit d f h hd =>
    simp only [readRecord, h]
    cases d with
    | record fields closed => exact ⟨f.message, by simp only [hd]; rfl⟩
    | _ => exact ⟨_, rfl⟩

theorem loadResult_malformed (h : Malformed LoadResult.codec raw) :
    ∃ reason, loadResult raw = .failed (malformed "load result" reason) := by
  obtain ⟨reason, h⟩ := readRecord_malformed h "load result"
  exact ⟨reason, by rw [loadResult, h]⟩

theorem frameResult_malformed (h : Malformed FrameResult.codec raw) :
    ∃ reason, frameResult raw = .failed (malformed "frame result" reason) := by
  obtain ⟨reason, h⟩ := readRecord_malformed h "frame result"
  exact ⟨reason, by rw [frameResult, h]⟩

end JsonCompiler

/-! ## The switch -/

/-- The load that a reply tells of. -/
def Reply.load? : Reply → Option (Except ScriptError Unit)
  | loaded r => some r
  | report r => r.load
  | _ => none

theorem invokeAll_load {σ : Type} [Backend σ] (passes : PassTable) (cache : ImageCache)
    (is : List Invocation) (report : FrameReport) (b : σ) :
    (invokeAll passes cache is report b).1.load = report.load := by
  have hcount : ∀ (r : FrameReport) (a : Attempt), (r.count a).load = r.load := fun r a => by
    unfold FrameReport.count
    split <;> rfl
  induction is generalizing report b with
  | nil => rfl
  | cons i is ih =>
    rw [invokeAll, run_bind, ih]
    exact hcount report _

namespace Session

variable {σ κ : Type} [Backend σ] [ScriptCompiler κ] {s : Session σ κ} {script : String}

/-- A load that the compiler rejects leaves everything but the compiler as it was. -/
theorem loadScript_rejected {d : Diagnostic}
    (h : (ScriptCompiler.load script s.compiler).1.error = some d) :
    loadScript script s = (.error (.load d),
      { s with compiler := (ScriptCompiler.load script s.compiler).2 }) := by
  simp only [loadScript, run_bind, run_onCompiler, h, run_pure]

theorem loadScript_state {e : ScriptError} (h : (loadScript script s).1 = .error e) :
    (loadScript script s).2.state = s.state := by
  cases herror : (ScriptCompiler.load script s.compiler).1.error with
  | some d => rw [loadScript_rejected herror]
  | none =>
    simp only [loadScript, run_bind, run_onCompiler, herror] at h ⊢
    cases herrors : (rebuild (ScriptCompiler.load script s.compiler).1
      { s with compiler := (ScriptCompiler.load script s.compiler).2 }).1 with
    | nil => rw [herrors] at h; cases h
    | cons e es => rfl

theorem runFrame_state (size : Extent) (time : Single) (s : Session σ κ) :
    (runFrame size time s).2.state = s.state := by
  cases hstate : s.state with
  | idle => rw [runFrame_idle hstate, hstate]
  | ready =>
    rw [runFrame_ready hstate]
    cases herror : (s.evaluation size.atLeastOne time).1.error with
    | some d =>
      rw [runReady_failed herror, closeFrame_fields, evaluated, openFrame_fields]
      exact hstate
    | none => rw [(runReady_fields herror).2.1, hstate]

/-- A frame by itself tells of no load. -/
theorem runFrame_load (size : Extent) (time : Single) (s : Session σ κ) :
    (runFrame size time s).1.load = none := by
  cases hstate : s.state with
  | idle => rw [runFrame_idle hstate]
  | ready =>
    rw [runFrame_ready hstate]
    cases herror : (s.evaluation size.atLeastOne time).1.error with
    | some d => rw [runReady_failed herror]
    | none =>
      rw [runReady_drawn herror]
      exact invokeAll_load ..

theorem capture_state (size : Extent) (time : Single) (s : Session σ κ) :
    (capture size time s).2.state = s.state := by
  let t : Session σ κ := (onBackend readSurface (runFrame size time s).2).2
  have ht : (capture size time s).2 = (restoreSize s.surfaceSize t).2 := rfl
  rw [ht, restoreSize_fields]
  exact runFrame_state size time s

theorem pictureLoad_state (load : Option (Except ScriptError Unit)) (time : Single)
    (s : Session σ κ) : (pictureLoad load time s).2.state = s.state := by
  match load with
  | none | some (.error _) => rfl
  | some (.ok ()) =>
    by_cases hthumbnail : s.settings.thumbnailOnLoad
    · have hcapture := capture_state s.settings.thumbnailSize time s
      simp only [pictureLoad, run_bind, run_get, hthumbnail, if_true, captureDefault]
      cases (capture s.settings.thumbnailSize time s).1 <;> exact hcapture
    · simp only [pictureLoad, run_bind, run_get, hthumbnail]
      rfl

omit [Backend σ] [ScriptCompiler κ] in
theorem takeScript_state (s : Session σ κ) : (takeScript s).2.state = s.state := by
  unfold takeScript
  split <;> rfl

theorem loadScript_ready_iff (script : String) (s : Session σ κ) :
    (loadScript script s).2.state = .ready ↔
      (loadScript script s).1 = .ok () ∨ s.state = .ready := by
  cases hload : (loadScript script s).1 with
  | ok u => simp [loadScript_ready hload]
  | error e => simp [loadScript_state hload]

theorem loadNewest_ready_iff (s : Session σ κ) :
    (loadNewest s).2.state = .ready ↔
      (loadNewest s).1 = some (.ok ()) ∨ s.state = .ready := by
  rw [← takeScript_state s]
  simp only [loadNewest, run_bind]
  cases (takeScript s).1 with
  | none => simp [run_pure]
  | some script =>
    simp only [run_bind, run_pure, Option.some.injEq]
    exact loadScript_ready_iff script (takeScript s).2

/-- After an act the session is ready if the act loaded a script, or if it was ready before
and the act did not release it. -/
theorem perform_ready_iff (act : Act) (s : Session σ κ) :
    (act.perform s).2.state = .ready ↔
      act ≠ .release ∧ ((act.perform s).1.load? = some (.ok ()) ∨ s.state = .ready) := by
  cases act with
  | load script =>
    have h := loadScript_ready_iff script s
    simpa [Act.perform, run_map, Reply.load?] using h
  | frame size time =>
    simp [Act.perform, run_map, Reply.load?, runFrame_load, runFrame_state]
  | tick size time =>
    have h := loadNewest_ready_iff s
    rw [← pictureLoad_state (loadNewest s).1 time, ← runFrame_state size time] at h
    simpa [Act.perform, run_map, Reply.load?, tick_eq, run_bind, run_pure] using h
  | capture size time => simp [Act.perform, run_map, Reply.load?, capture_state]
  | captureDefault time =>
    simp [Act.perform, run_map, Reply.load?, captureDefault, run_bind, run_get, capture_state]
  | setValue name value =>
    simp [Act.perform, run_map, Reply.load?, setValue, run_modify]
  | attachInbox => simp [Act.perform, run_map, Reply.load?, attachInbox, run_modify]
  | send script =>
    have hsend : (send script s).2.state = s.state := by
      unfold send
      split <;> rfl
    simp [Act.perform, run_map, Reply.load?, hsend]
  | release => simp [Act.perform, run_map, release, run_bind, run_get, run_modify]

/-- A session that starts idle is ready exactly if a load has succeeded since it was last
released. -/
theorem ready_iff (hidle : s.state = .idle) (acts : List Act) :
    (s.play acts).state = .ready ↔ ∃ before act after, acts = before ++ act :: after ∧
      (act.perform (s.play before)).1.load? = some (.ok ()) ∧ .release ∉ after := by
  induction acts using List.reverseRecOn with
  | nil => simp [play, hidle]
  | append_singleton acts last ih =>
    have hlast : s.play (acts ++ [last]) = (last.perform (s.play acts)).2 := play_append ..
    rw [hlast, perform_ready_iff, ih]
    constructor
    · rintro ⟨hact, hload | ⟨before, act, after, rfl, hload, hafter⟩⟩
      · exact ⟨acts, last, [], rfl, hload, by simp⟩
      · exact ⟨before, act, after ++ [last], by simp, hload, by simp [hafter, Ne.symm hact]⟩
    · rintro ⟨before, act, after, heq, hload, hafter⟩
      rcases List.eq_nil_or_concat' after with rfl | ⟨after, x, rfl⟩
      · obtain ⟨rfl, hx⟩ := List.append_inj' heq rfl
        cases hx
        refine ⟨?_, .inl hload⟩
        rintro rfl
        cases hload
      · rw [← List.cons_append, ← List.append_assoc] at heq
        obtain ⟨rfl, hx⟩ := List.append_inj' heq rfl
        cases hx
        simp only [List.mem_append, List.mem_singleton, not_or] at hafter
        exact ⟨Ne.symm hafter.2, .inr ⟨before, act, after, rfl, hload, hafter.1⟩⟩

/-! ## Compilers behind a text interface -/

section
variable {β : Type} [JsonBridge β] {j : Session σ (JsonCompiler β)}

theorem loadScript_malformed (h : JsonCompiler.Malformed LoadResult.codec
    (JsonBridge.load script j.compiler.bridge).1) :
    ∃ reason, loadScript script j
      = (.error (.load (JsonCompiler.malformed "load result" reason)),
        { j with compiler := ⟨(JsonBridge.load script j.compiler.bridge).2⟩ }) := by
  obtain ⟨reason, hresult⟩ := JsonCompiler.loadResult_malformed h
  have herror : (ScriptCompiler.load script j.compiler).1.error
      = some (JsonCompiler.malformed "load result" reason) :=
    congrArg LoadResult.error hresult
  exact ⟨reason, loadScript_rejected herror⟩

/-- The text that a bridge returns for a frame, and the bridge after it. -/
def frameText (j : Session σ (JsonCompiler β)) (size : Extent) (time : Single) : String × β :=
  JsonBridge.frame (JsonCompiler.inputsText (j.frameInputs size time)) j.compiler.bridge

/-- A frame whose text is malformed has neither requests nor invocations; it is opened and
closed again. -/
theorem runFrame_malformed (hready : j.state = .ready) {size : Extent} {time : Single}
    (h : JsonCompiler.Malformed FrameResult.codec (j.frameText size.atLeastOne time).1) :
    ∃ reason,
      (j.evaluation size.atLeastOne time).1
        = ⟨[], [], some (JsonCompiler.malformed "frame result" reason)⟩ ∧
      runFrame size time j
        = ({ outcome := .evaluationFailed (JsonCompiler.malformed "frame result" reason) },
          (closeFrame { (openFrame size.atLeastOne j).2 with
            compiler := ⟨(j.frameText size.atLeastOne time).2⟩ }).2) := by
  obtain ⟨reason, hresult⟩ := JsonCompiler.frameResult_malformed h
  have hresult : (j.evaluation size.atLeastOne time).1 = .failed _ := hresult
  refine ⟨reason, hresult, ?_⟩
  rw [runFrame_ready hready]
  exact runReady_failed (congrArg FrameResult.error hresult)

end

/-- For every run of a session, with any compiler:

* it is ready exactly if some load has succeeded since the start or the last release, in a
  call of its own or in a tick;
* a load that the compiler rejects is reported, and leaves everything but the compiler as
  it was;
* while it is idle, a frame does nothing.

With a compiler behind a text interface, a text that is no JSON, no object or not the record
it should be counts as a rejection, at whatever point of whatever run: of the load, or of the
frame, which is then opened and closed without requests and invocations. -/
theorem load_state_machine {b : σ} {compiler : κ} {settings : Settings} {s₀ : Session σ κ}
    (h₀ : (start b compiler settings).1 = .ok s₀) (acts : List Act) :
    let s := s₀.play acts
    (s.state = .ready ↔ ∃ before act after, acts = before ++ act :: after ∧
      (act.perform (s₀.play before)).1.load? = some (.ok ()) ∧ .release ∉ after) ∧
    (∀ script d, (ScriptCompiler.load script s.compiler).1.error = some d →
      loadScript script s = (.error (.load d),
        { s with compiler := (ScriptCompiler.load script s.compiler).2 })) ∧
    (s.state = .idle → ∀ size time, runFrame size time s = ({ outcome := .idle }, s)) ∧
    ∀ (β : Type) [JsonBridge β] (j : Session σ (JsonCompiler β)),
      (∀ script, JsonCompiler.Malformed LoadResult.codec
          (JsonBridge.load script j.compiler.bridge).1 →
        ∃ reason, loadScript script j
          = (.error (.load (JsonCompiler.malformed "load result" reason)),
            { j with compiler := ⟨(JsonBridge.load script j.compiler.bridge).2⟩ })) ∧
      (j.state = .ready → ∀ (size : Extent) (time : Single),
        JsonCompiler.Malformed FrameResult.codec (j.frameText size.atLeastOne time).1 →
        ∃ reason,
          (j.evaluation size.atLeastOne time).1
            = ⟨[], [], some (JsonCompiler.malformed "frame result" reason)⟩ ∧
          runFrame size time j
            = ({ outcome := .evaluationFailed (JsonCompiler.malformed "frame result" reason) },
              (closeFrame { (openFrame size.atLeastOne j).2 with
                compiler := ⟨(j.frameText size.atLeastOne time).2⟩ }).2) ∧
          (runFrame size time j).2 = { j with
            backend := (runFrame size time j).2.backend
            surfaceSize := (runFrame size time j).2.surfaceSize
            compiler := ⟨(j.frameText size.atLeastOne time).2⟩ }) := by
  intro s
  have hidle : s₀.state = .idle := by rw [(start_ok h₀).1]; rfl
  refine ⟨ready_iff hidle acts, fun script d => loadScript_rejected,
    fun hstate size time => runFrame_idle hstate, fun β _ j => ⟨fun script => loadScript_malformed,
      fun hready size time h => ?_⟩⟩
  obtain ⟨reason, hresult, hrun⟩ := runFrame_malformed hready h
  refine ⟨reason, hresult, hrun, ?_⟩
  rw [hrun, closeFrame_fields, openFrame_fields]

/-- A bridge that answers one script with a list, and breaks off every other frame. -/
def garbling : Scripted String String String where
  loads := .ofList [("good", "\x7b\x7d"), ("list", "[]")]
  frames := ["\x7b\x7d", "\x7b"]

def ungarbled : Session (Recorder fun _ => .ok ⟨[], []⟩)
    (JsonCompiler (Scripted String String String)) :=
  fresh {} ⟨garbling⟩ {}

theorem load_state_machine_garbling :
    let s := ungarbled.play [.load "good", .release, .load "list"]
    let j := ungarbled.play [.load "good", .frame ⟨4, 4⟩ .zero]
    runFrame ⟨4, 4⟩ .zero s = ({ outcome := .idle }, s) ∧
      (∃ d, loadScript "list" s = (.error (.load d), s)) ∧
      j.state = .ready ∧
      ∃ d, (runFrame ⟨4, 4⟩ .zero j).1 = { outcome := .evaluationFailed d } := by
  have hstart : (start ({} : Recorder fun _ => .ok ⟨[], []⟩) (⟨garbling⟩ : JsonCompiler _) {}).1
      = .ok ungarbled := rfl
  obtain ⟨-, hrejected, hidle, hmalformed⟩ :=
    load_state_machine hstart [.load "good", .release, .load "list"]
  obtain ⟨hready, -⟩ := load_state_machine hstart [.load "good", .frame ⟨4, 4⟩ .zero]
  have hloaded := hready.mpr ⟨[], .load "good", [.frame ⟨4, 4⟩ .zero], rfl,
    by decide +kernel, by decide⟩
  refine ⟨hidle (by rfl) _ _, ?_, hloaded, ?_⟩
  · let s := ungarbled.play [.load "good", .release, .load "list"]
    have htext : (JsonBridge.load "list" s.compiler.bridge).1 = "[]" := by decide +kernel
    have hlist : JsonCompiler.Malformed LoadResult.codec "[]" :=
      .notObject (d := .list [] true) (by rfl) nofun
    obtain ⟨reason, hload⟩ := (hmalformed _ s).1 "list" (htext ▸ hlist)
    exact ⟨_, hload⟩
  · let j := ungarbled.play [.load "good", .frame ⟨4, 4⟩ .zero]
    have htext : (j.frameText (Extent.atLeastOne ⟨4, 4⟩) .zero).1 = "\x7b" := by decide +kernel
    have hbroken : JsonCompiler.Malformed FrameResult.codec "\x7b" :=
      .notJson (f := .malformed) (by rfl)
    obtain ⟨reason, -, hrun, -⟩ := (hmalformed _ j).2 hloaded ⟨4, 4⟩ .zero (htext ▸ hbroken)
    exact ⟨_, congrArg Prod.fst hrun⟩

end Session
end FrameGraph
