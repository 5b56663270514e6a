import FrameGraph.Proofs.Gpu.Staging

/-!
# Backends that draw what is in place

A `Staged` backend prepares draws on its objects, and logs every draw that it accepts. It is
`Fair` if draws are all that it refuses although its objects allow them, and `Willing` if it
does not refuse these either. The recording backend and the device backend are always both;
a layer around a backend is fair if its policy refuses draws only.

Two backends that are told the same can be compared call by call (`Coupled`).

Results:
* the instances for `Recorder`, `Device` and `Faulty`.
* `Coupled.bind`, `coupled_stage`, `coupled_set`, `coupled_draw`: how two runs are put
  together.
-/
namespace FrameGraph.Gpu

variable {π δ : Type}

/-! ## What a draw shows -/

/-- The draw that objects amount to. -/
class Depicting (π : Type) [Memory π] (δ : outParam Type) where
  look : Objects π → Except Error δ
  /-- Both draws are the same but for the values of some cells. -/
  Alike : Cells → δ → δ → Prop
  look_poised : ∀ {S : Cells} {o o' : Objects π} {d : δ}, Poised S o o' → look o = .ok d →
    ∃ d', look o' = .ok d' ∧ Alike S d d'

structure Draw.Alike (S : Cells) (d d' : Draw) : Prop where
  rest : d' = { d with uniforms := d'.uniforms }
  uniforms : ∀ n ∉ S.of d.program, d.uniforms.get? n = d'.uniforms.get? n

structure Submission.Alike (S : Cells) (d d' : Submission) : Prop where
  rest : d' = { d with data := d'.data }
  data : ∀ n ∉ S.of d.program, d.data[n]? = d'.data[n]?

/-! ### The recording backend -/

section
variable {S : Cells}

theorem Recorder.attachments_poised {o o' : Objects RecordedProgram} (h : Poised S o o') :
    Recorder.attachments o = Recorder.attachments o' := by
  obtain ⟨f, t, t', hf, hf', ht, ht', hdrawn⟩ := h.target
  simp only [Recorder.attachments, hf, hf', ht, ht', bind, Except.bind, hdrawn]

theorem Recorder.currentDraw_poised {o o' : Objects RecordedProgram} {d : Draw}
    (h : Poised S o o') (hd : Recorder.currentDraw o = .ok d) :
    ∃ d', Recorder.currentDraw o' = .ok d' ∧ d.Alike S d' := by
  obtain ⟨p, m, m', hm, hm', hagree, hunits⟩ := h.program
  obtain ⟨f, -, -, hf, hf', -⟩ := h.target
  simp only [Recorder.currentDraw, hm, bind, Except.bind] at hd
  simp only [Recorder.currentDraw, hm', ← Recorder.attachments_poised h, bind, Except.bind]
  cases hattached : Recorder.attachments o with
  | error e =>
    rw [hattached] at hd
    cases hd
  | ok attached =>
    rw [hattached] at hd
    cases hd
    refine ⟨_, rfl, ⟨?_, hagree.uniforms⟩⟩
    have hsamplers : (List.range m'.layout.samplers.length).map (fun i => o'.units.get? (m'.unit i))
        = (List.range m.layout.samplers.length).map fun i => o.units.get? (m.unit i) := by
      rw [← hagree.layout]
      exact List.map_congr_left fun k hk => (hunits k (List.mem_range.1 hk)).symm
    simp only [hsamplers, hf, hf', h.viewport, h.blend]

instance : Depicting RecordedProgram Draw where
  look := Recorder.currentDraw
  Alike := Draw.Alike
  look_poised := Recorder.currentDraw_poised

/-! ### The device backend -/

variable {o o' : Objects DeviceProgram}

theorem Device.targets_poised (h : Poised S o o') (layout : Program.Layout) :
    Device.targets o layout = Device.targets o' layout := by
  obtain ⟨f, t, t', hf, hf', ht, ht', hdrawn⟩ := h.target
  simp only [Device.targets, hf, hf', ht, ht', bind, Except.bind, hdrawn]

theorem Device.targetInfo_poised (h : Poised S o o') (t : Target) :
    Device.targetInfo o t = Device.targetInfo o' t := by
  cases t <;> simp only [Device.targetInfo, Objects.texture, h.textures, h.surface]

theorem Device.samplerTextures_poised {m m' : DeviceProgram}
    (hlength : m.units.length = m'.units.length)
    (hunits : ∀ k < m.units.length, o.units.get? (m.unit k) = o'.units.get? (m'.unit k)) :
    Device.samplerTextures o m = Device.samplerTextures o' m' := by
  have hlengths : (Device.samplerTextures o m).length = (Device.samplerTextures o' m').length := by
    simpa only [Device.samplerTextures, List.length_map]
  refine List.ext_getElem hlengths fun k hk hk' => ?_
  simp only [Device.samplerTextures, List.length_map] at hk hk'
  have hk'' := hunits k hk
  simp only [DeviceProgram.unit, List.getD_eq_getElem?_getD, List.getElem?_eq_getElem hk,
    List.getElem?_eq_getElem hk', Option.getD_some] at hk''
  simpa only [Device.samplerTextures, List.getElem_map]

theorem Device.submission_poised {d : Submission} (h : Poised S o o')
    (hd : Device.submission o = .ok d) :
    ∃ d', Device.submission o' = .ok d' ∧ d.Alike S d' := by
  obtain ⟨p, m, m', hm, hm', hagree, hunits⟩ := h.program
  have hinfo : (fun t : UInt32 × Target => Device.targetInfo o' t.2)
      = fun t => Device.targetInfo o t.2 := funext fun t => (Device.targetInfo_poised h t.2).symm
  simp only [Device.submission, hm, bind, Except.bind] at hd
  simp only [Device.submission, hm', bind, Except.bind, ← hagree.layout,
    ← Device.targets_poised h, hinfo, ← Device.samplerTextures_poised hagree.units hunits,
    ← h.blend, ← h.viewport, ← h.textures]
  cases htargets : Device.targets o m.layout with
  | error e =>
    rw [htargets] at hd
    cases hd
  | ok targets =>
    simp only [htargets] at hd ⊢
    cases hinfos : targets.mapM fun t => Device.targetInfo o t.2 with
    | error e =>
      rw [hinfos] at hd
      cases hd
    | ok infos =>
      simp only [hinfos] at hd ⊢
      split at hd
      · cases hd
      · cases hd
        exact ⟨_, rfl, rfl, hagree.data⟩

instance : Depicting DeviceProgram Submission where
  look := Device.submission
  Alike := Submission.Alike
  look_poised := Device.submission_poised

end

/-! ## Backends -/

class Staged (σ : Type) (π δ : outParam Type) [Backend σ] [Memory π] [Depicting π δ] where
  objects : σ → Objects π
  /-- The draws that were accepted. -/
  drawn : σ → List δ
  Fair : σ → Prop
  Willing : σ → Prop
  fair_of_willing : ∀ {b : σ}, Willing b → Fair b
  fair : ∀ {a : Answer} (call : Call a) {b : σ}, Fair b → Fair (Backend.perform call b).2
  willing : ∀ {a : Answer} (call : Call a) {b : σ}, Willing b →
    Willing (Backend.perform call b).2
  stages : ∀ {a : Answer} {call : Call a} {f : StateM (Objects π) a.Of} {b : σ}, Fair b →
    Objects.stage call = some f → (Backend.perform call b).1 = (f (objects b)).1 ∧
      objects (Backend.perform call b).2 = (f (objects b)).2 ∧
      drawn (Backend.perform call b).2 = drawn b
  sets : ∀ (l : Program.Location) (v : UniformValue) {b : σ}, Fair b →
    objects (setUniform l v b).2 = (objects b).put l v ∧ drawn (setUniform l v b).2 = drawn b
  draws : ∀ {b : σ}, Fair b → objects (drawFullscreen b).2 = objects b ∧
    ((∃ d, Depicting.look (objects b) = .ok d ∧ (drawFullscreen b).1 = .ok () ∧
        drawn (drawFullscreen b).2 = drawn b ++ [d]) ∨
      ∃ e, (drawFullscreen b).1 = .error e ∧ drawn (drawFullscreen b).2 = drawn b ∧
        (Willing b → ∃ e, Depicting.look (objects b) = .error e))

export Staged (objects drawn Fair Willing)

section
variable {fe : Program.FrontEnd}

/-- A step of the objects that may fail is one of the backend, and draws nothing. -/
theorem Recorder.attempt_update
    (step : Objects RecordedProgram → Except Error (Objects RecordedProgram)) (r : Recorder fe) :
    (attempt (fun r => r.update step) r).1 = (attempt step r.objects).1 ∧
      (attempt (fun r => r.update step) r).2.objects = (attempt step r.objects).2 ∧
      (attempt (fun r => r.update step) r).2.draws = r.draws := by
  cases h : step r.objects with
  | error e =>
    have hupdate : r.update step = .error e := congrArg (Except.map _) h
    rw [attempt_of_error h, attempt_of_error hupdate]
    exact ⟨rfl, rfl, rfl⟩
  | ok o =>
    have hupdate : r.update step = .ok { r with objects := o } := congrArg (Except.map _) h
    rw [attempt_of_ok h, attempt_of_ok hupdate]
    exact ⟨rfl, rfl, rfl⟩

theorem Recorder.setUniform_eq (l : Program.Location) (v : UniformValue)
    (o : Objects RecordedProgram) : (attempt (Recorder.setUniform l v) o).2 = o.put l v := by
  simp only [attempt, Recorder.setUniform, Objects.put, Memory.take, RecordedProgram.take]
  cases o.inUse with
  | error e => rfl
  | ok used =>
    simp only [bind, Except.bind]
    cases settable used.2.layout l v <;> rfl

instance : Staged (Recorder fe) RecordedProgram Draw where
  objects r := r.objects
  drawn r := r.draws
  Fair _ := True
  Willing _ := True
  fair_of_willing _ := trivial
  fair _ _ _ := trivial
  willing _ _ _ := trivial
  stages {a call f r} _ hf := by
    cases call <;> cases hf
    case useProgram p => exact r.attempt_update _
    case attachColor f slot t => exact r.attempt_update _
    case setDrawBuffers f slots => exact r.attempt_update _
    all_goals exact ⟨rfl, rfl, rfl⟩
  sets l v r _ := by
    obtain ⟨-, hobjects, hdrawn⟩ := r.attempt_update (Recorder.setUniform l v)
    exact ⟨hobjects.trans (Recorder.setUniform_eq l v r.objects), hdrawn⟩
  draws {r} _ := by
    let step (r : Recorder fe) := (Recorder.currentDraw r.objects).map fun d => r.record (.draw d)
    have hrun : drawFullscreen r = attempt step r := rfl
    cases hlook : Recorder.currentDraw r.objects with
    | error e =>
      have hstep : step r = .error e := congrArg (Except.map _) hlook
      rw [hrun, attempt_of_error hstep]
      exact ⟨rfl, .inr ⟨e, rfl, rfl, fun _ => ⟨e, hlook⟩⟩⟩
    | ok d =>
      have hstep : step r = .ok (r.record (.draw d)) := congrArg (Except.map _) hlook
      rw [hrun, attempt_of_ok hstep]
      refine ⟨rfl, .inl ⟨d, hlook, rfl, ?_⟩⟩
      simp [Recorder.draws, Recorder.record]

theorem Device.attempt_update
    (step : Objects DeviceProgram → Except Error (Objects DeviceProgram)) (d : Device fe) :
    (attempt (fun d => d.update step) d).1 = (attempt step d.objects).1 ∧
      (attempt (fun d => d.update step) d).2.objects = (attempt step d.objects).2 ∧
      (attempt (fun d => d.update step) d).2.submitted = d.submitted := by
  cases h : step d.objects with
  | error e =>
    have hupdate : d.update step = .error e := congrArg (Except.map _) h
    rw [attempt_of_error h, attempt_of_error hupdate]
    exact ⟨rfl, rfl, rfl⟩
  | ok o =>
    have hupdate : d.update step = .ok { d with objects := o } := congrArg (Except.map _) h
    rw [attempt_of_ok h, attempt_of_ok hupdate]
    exact ⟨rfl, rfl, rfl⟩

theorem Device.setUniform_eq (l : Program.Location) (v : UniformValue)
    (o : Objects DeviceProgram) : (attempt (Device.setUniform l v) o).2 = o.put l v := by
  simp only [attempt, Device.setUniform, Objects.put, Memory.take, DeviceProgram.take]
  cases o.inUse with
  | error e => rfl
  | ok used =>
    simp only [bind, Except.bind]
    cases settable used.2.layout l v with
    | error e => rfl
    | ok slot =>
      dsimp only
      cases Device.assign used.2 l v slot <;> rfl

instance : Staged (Device fe) DeviceProgram Submission where
  objects d := d.objects
  drawn d := d.submitted
  Fair _ := True
  Willing _ := True
  fair_of_willing _ := trivial
  fair _ _ _ := trivial
  willing _ _ _ := trivial
  stages {a call f d} _ hf := by
    cases call <;> cases hf
    case useProgram p => exact d.attempt_update _
    case attachColor f slot t => exact d.attempt_update _
    case setDrawBuffers f slots => exact d.attempt_update _
    all_goals exact ⟨rfl, rfl, rfl⟩
  sets l v d _ := by
    obtain ⟨-, hobjects, hdrawn⟩ := d.attempt_update (Device.setUniform l v)
    exact ⟨hobjects.trans (Device.setUniform_eq l v d.objects), hdrawn⟩
  draws {d} _ := by
    let step (d : Device fe) : Except Error (Device fe) :=
      (Device.submission d.objects).map fun s => { d with submitted := d.submitted ++ [s] }
    have hrun : drawFullscreen d = attempt step d := rfl
    cases hlook : Device.submission d.objects with
    | error e =>
      have hstep : step d = .error e := congrArg (Except.map _) hlook
      rw [hrun, attempt_of_error hstep]
      exact ⟨rfl, .inr ⟨e, rfl, rfl, fun _ => ⟨e, hlook⟩⟩⟩
    | ok s =>
      have hstep : step d = .ok { d with submitted := d.submitted ++ [s] } :=
        congrArg (Except.map _) hlook
      rw [hrun, attempt_of_ok hstep]
      exact ⟨rfl, .inl ⟨s, hlook, rfl, rfl⟩⟩

end

/-! ## A layer that refuses draws -/

/-- A call that draws. -/
def Call.draws : {a : Answer} → Call a → Prop
  | _, .drawFullscreen => True
  | _, _ => False

/-- Refuses nothing but draws. -/
def Policy.DrawsOnly (policy : Policy) : Prop :=
  ∀ history {a : Answer} (call : Call a), ¬ call.draws → policy history call = none

/-- Refuses nothing. -/
def Policy.Accepting (policy : Policy) : Prop :=
  ∀ history {a : Answer} (call : Call a), policy history call = none

section
variable {σ : Type} [Backend σ]

theorem Faulty.perform_of_none {f : Faulty σ} {a : Answer} {call : Call a}
    (h : f.policy f.history call = none) :
    Backend.perform call f = ((Backend.perform call f.inner).1,
      ({ f with inner := (Backend.perform call f.inner).2 }).note
        ⟨call, (Backend.perform call f.inner).1⟩) := by
  have hrefusal : f.refusal? call = none := by
    rw [Faulty.refusal?, h]
    rfl
  simp only [Backend.perform, Faulty.perform, hrefusal]
  rfl

theorem Faulty.policy_perform {a : Answer} (call : Call a) (f : Faulty σ) :
    (Backend.perform call f).2.policy = f.policy := by
  simp only [Backend.perform, Faulty.perform]
  split <;> rfl

theorem Faulty.history_perform {a : Answer} (call : Call a) (f : Faulty σ) :
    (Backend.perform call f).2.history
      = f.history ++ [⟨call, (Backend.perform call f).1⟩] := by
  simp only [Backend.perform, Faulty.perform]
  split <;> rfl

theorem Faulty.inner_perform {a : Answer} (call : Call a) (f : Faulty σ) :
    (Backend.perform call f).2.inner = f.inner ∨
      (Backend.perform call f).2.inner = (Backend.perform call f.inner).2 := by
  simp only [Backend.perform, Faulty.perform]
  split
  · exact .inl rfl
  · exact .inr rfl

variable [Memory π] [Depicting π δ] [Staged σ π δ]

instance : Staged (Faulty σ) π δ where
  objects f := objects f.inner
  drawn f := drawn f.inner
  Fair f := Fair f.inner ∧ f.policy.DrawsOnly
  Willing f := Willing f.inner ∧ f.policy.Accepting
  fair_of_willing h := ⟨Staged.fair_of_willing h.1, fun history _ call _ => h.2 history call⟩
  fair call f h := by
    refine ⟨?_, ?_⟩
    · rcases f.inner_perform call with hinner | hinner <;> rw [hinner]
      · exact h.1
      · exact Staged.fair call h.1
    · rw [f.policy_perform call]
      exact h.2
  willing call f h := by
    refine ⟨?_, ?_⟩
    · rcases f.inner_perform call with hinner | hinner <;> rw [hinner]
      · exact h.1
      · exact Staged.willing call h.1
    · rw [f.policy_perform call]
      exact h.2
  stages {a call g f} h hg := by
    have hnone : f.policy f.history call = none := by
      refine h.2 f.history call ?_
      cases call <;> first
        | exact id
        | cases hg
    rw [Faulty.perform_of_none hnone]
    exact Staged.stages h.1 hg
  sets l v f h := by
    have hnone : f.policy f.history (.setUniform l v) = none := h.2 _ _ id
    have hrun : setUniform l v f = _ := Faulty.perform_of_none hnone
    rw [hrun]
    exact Staged.sets l v h.1
  draws {f} h := by
    have hrun : drawFullscreen f = Backend.perform .drawFullscreen f := rfl
    cases hpolicy : f.policy f.history .drawFullscreen with
    | none =>
      rw [hrun, Faulty.perform_of_none hpolicy]
      obtain ⟨hobjects, hdraw | ⟨e, he, hdrawn, hwilling⟩⟩ := Staged.draws h.1
      · exact ⟨hobjects, .inl hdraw⟩
      · exact ⟨hobjects, .inr ⟨e, he, hdrawn, fun hf => hwilling hf.1⟩⟩
    | some refusal =>
      have hrefused : drawFullscreen f = (.error (.draw Call.injected),
          f.note ⟨.drawFullscreen, .error (.draw Call.injected)⟩) := by
        simp only [hrun, Backend.perform, Faulty.perform, Faulty.refusal?, hpolicy]
        rfl
      rw [hrefused]
      refine ⟨rfl, .inr ⟨_, rfl, rfl, fun hf => ?_⟩⟩
      rw [hf.2] at hpolicy
      cases hpolicy

end

/-! ## Two runs side by side -/

/-- Both computations, run from states that are related, end in related states. -/
def Coupled {σ τ α β : Type} (P : σ → τ → Prop) (m : StateM σ α) (n : StateM τ β)
    (Q : α → β → σ → τ → Prop) : Prop :=
  ∀ b c, P b c → Q (m b).1 (n c).1 (m b).2 (n c).2

namespace Coupled

variable {σ τ α α' β β' : Type} {P : σ → τ → Prop} {m : StateM σ α} {n : StateM τ β}
  {k : α → StateM σ α'} {k' : β → StateM τ β'} {R : α' → β' → σ → τ → Prop}

theorem bind {Q : α → β → σ → τ → Prop} (h : Coupled P m n Q)
    (hk : ∀ a a', Coupled (Q a a') (k a) (k' a') R) : Coupled P (m >>= k) (n >>= k') R :=
  fun _ _ hP => hk _ _ _ _ (h _ _ hP)

/-- Computations with one answer go on with it. -/
theorem bind_same {n : StateM τ α} {k' : α → StateM τ β'} {Q : α → σ → τ → Prop}
    (h : Coupled P m n fun a a' b c => a = a' ∧ Q a b c)
    (hk : ∀ a, Coupled (Q a) (k a) (k' a) R) : Coupled P (m >>= k) (n >>= k') R := by
  intro b c hP
  obtain ⟨ha, hQ⟩ := h b c hP
  have hrun := hk (m b).1 _ _ hQ
  rw [run_bind, run_bind, ← ha]
  exact hrun

theorem pure {a : α} {a' : β} {Q : α → β → σ → τ → Prop} (h : ∀ b c, P b c → Q a a' b c) :
    Coupled P (pure a) (pure a') Q := h

theorem discard {Q : σ → τ → Prop} (h : Coupled P m n fun _ _ => Q) :
    Coupled P (discard m) (discard n) fun _ _ => Q := h

theorem weaken {P' : σ → τ → Prop} {Q Q' : α → β → σ → τ → Prop} (h : Coupled P m n Q)
    (hP : ∀ b c, P' b c → P b c) (hQ : ∀ a a' b c, Q a a' b c → Q' a a' b c) :
    Coupled P' m n Q' :=
  fun _ _ h' => hQ _ _ _ _ (h _ _ (hP _ _ h'))

end Coupled

/-- From states that are related, the computation has the same answer. -/
abbrev Agrees {σ α : Type} (P : σ → σ → Prop) (m : StateM σ α) (Q : α → σ → σ → Prop) : Prop :=
  Coupled P m m fun a a' b c => a = a' ∧ Q a b c

namespace Agrees

variable {σ α β : Type} {P : σ → σ → Prop} {m : StateM σ α} {k : α → StateM σ β}
  {Q : α → σ → σ → Prop} {R : β → σ → σ → Prop}

theorem bind (h : Agrees P m Q) (hk : ∀ a, Agrees (Q a) (k a) R) : Agrees P (m >>= k) R :=
  Coupled.bind_same h hk

theorem pure {a : α} (h : ∀ b c, P b c → Q a b c) : Agrees P (pure a) Q :=
  fun b c hP => ⟨rfl, h b c hP⟩

/-- A fact that does not depend on the states can be taken out of them. -/
theorem of_fact {φ : Prop} (h : φ → Agrees P m Q) : Agrees (fun b c => P b c ∧ φ) m Q :=
  fun b c hP => h hP.2 b c hP.1

end Agrees

section
variable {σ τ : Type} [Backend σ] [Backend τ] [Memory π] [Depicting π δ] [Staged σ π δ]
  [Staged τ π δ]

/-- A fair backend beside a willing one, with these draws, and objects that are so related. -/
structure Facing (R : Objects π → Objects π → Prop) (ds ds' : List δ) (b : σ) (c : τ) : Prop where
  fair : Fair b
  willing : Willing c
  left : drawn b = ds
  right : drawn c = ds'
  related : R (objects b) (objects c)

variable {R : Objects π → Objects π → Prop} {ds ds' : List δ}

theorem Facing.imp {R' : Objects π → Objects π → Prop} {b : σ} {c : τ} (h : Facing R ds ds' b c)
    (hR : R (objects b) (objects c) → R' (objects b) (objects c)) : Facing R' ds ds' b c :=
  ⟨h.fair, h.willing, h.left, h.right, hR h.related⟩

theorem coupled_stage {a : Answer} {call : Call a} {f : StateM (Objects π) a.Of}
    {R' : a.Of → Objects π → Objects π → Prop} (hf : Objects.stage call = some f)
    (hR : ∀ o o', R o o' → (f o).1 = (f o').1 ∧ R' (f o).1 (f o).2 (f o').2) :
    Coupled (σ := σ) (τ := τ) (Facing R ds ds') (Backend.perform call) (Backend.perform call)
      fun r r' b c => r = r' ∧ Facing (R' r) ds ds' b c := by
  intro b c h
  obtain ⟨hanswer, hobjects, hdrawn⟩ := Staged.stages h.fair hf
  obtain ⟨hanswer', hobjects', hdrawn'⟩ := Staged.stages (Staged.fair_of_willing h.willing) hf
  obtain ⟨hsame, hR'⟩ := hR _ _ h.related
  rw [hanswer, hanswer']
  refine ⟨hsame, Staged.fair call h.fair, Staged.willing call h.willing, hdrawn.trans h.left,
    hdrawn'.trans h.right, ?_⟩
  rw [hobjects, hobjects']
  exact hR'

theorem coupled_set (l : Program.Location) (v : UniformValue)
    {R' : Objects π → Objects π → Prop} (hR : ∀ o o', R o o' → R' (o.put l v) (o'.put l v)) :
    Coupled (σ := σ) (τ := τ) (Facing R ds ds') (setUniform l v) (setUniform l v)
      fun _ _ => Facing R' ds ds' := by
  intro b c h
  obtain ⟨hobjects, hdrawn⟩ := Staged.sets l v h.fair
  obtain ⟨hobjects', hdrawn'⟩ := Staged.sets l v (Staged.fair_of_willing h.willing)
  refine ⟨Staged.fair _ h.fair, Staged.willing _ h.willing, hdrawn.trans h.left,
    hdrawn'.trans h.right, ?_⟩
  rw [hobjects, hobjects']
  exact hR _ _ h.related

/-- If the fair backend accepts a draw, so does the willing one, and draws the same. -/
theorem coupled_draw {S : Cells} (hR : ∀ o o', R o o' → Poised S o o') :
    Coupled (σ := σ) (τ := τ) (Facing R ds ds') drawFullscreen drawFullscreen
      fun r r' b c => r = .ok () → r' = .ok () ∧ ∃ d d', Depicting.Alike π S d d' ∧
        Facing R (ds ++ [d]) (ds' ++ [d']) b c := by
  intro b c h hr
  obtain ⟨hobjects, ⟨d, hlook, -, hdrawn⟩ | ⟨e, he, -⟩⟩ := Staged.draws h.fair
  · obtain ⟨d', hlook', halike⟩ := Depicting.look_poised (hR _ _ h.related) hlook
    obtain ⟨hobjects', ⟨d'', hlook'', hok', hdrawn'⟩ | ⟨e, -, -, hwilling⟩⟩ :=
      Staged.draws (Staged.fair_of_willing h.willing)
    · rw [hlook'] at hlook''
      cases hlook''
      refine ⟨hok', d, d', halike, Staged.fair _ h.fair, Staged.willing _ h.willing, ?_, ?_, ?_⟩
      · rw [hdrawn, h.left]
      · rw [hdrawn', h.right]
      · rw [hobjects, hobjects']
        exact h.related
    · obtain ⟨e, he⟩ := hwilling h.willing
      rw [hlook'] at he
      cases he
  · rw [he] at hr
    cases hr

end

end FrameGraph.Gpu
