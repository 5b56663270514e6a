import FrameGraph.Compiler.Scripted
import FrameGraph.Proofs.Frame.OnRecord
import FrameGraph.Proofs.Gpu.Acceptance
import FrameGraph.Proofs.Session.Invariant

/-!
# The size of the surface

A session notes the size that it last set the surface to, and does not set it again to the
size it has. A resize that is refused leaves the surface as it was, and the note too. So a
note, where there is one, is the size of the surface (`Noted`), whatever was refused before.
A frame sets the surface first of all, and nothing else in it does.

To take a picture a session runs a frame at the size of the picture and then sets the surface
back to the size it noted before. It has noted one as soon as a frame has set the surface, and
until it is released.

Backends whose surface changes in this way are `Surfaced`. In front of them stands a layer that
refuses whatever it likes.

Results:
* `Session.resize_cases`: the ways of setting the surface.
* `Session.runFrame_sized`, `Session.capture_sized`: a frame and a picture.
* `Session.surface_size_noted`: the same along every run.
-/
namespace FrameGraph

open Gpu

/-- A backend that only a resize can change the surface of. -/
class Gpu.Surfaced (σ : Type) [Backend σ] where
  surface : σ → Extent
  kept : ∀ {a : Answer} (call : Call a) (b : σ), call.keepsSurface →
    surface (Backend.perform call b).2 = surface b
  resized : ∀ (size : Extent) (b : σ),
    ((resizeSurface size b).1 = .ok () ∧ surface (resizeSurface size b).2 = size.atLeastOne) ∨
    ((∃ e, (resizeSurface size b).1 = .error e) ∧ surface (resizeSurface size b).2 = surface b)
  read : ∀ b : σ, ∃ picture, (readSurface b).1 = .ok picture ∧ picture.size = surface b

namespace Gpu

instance {fe : Program.FrontEnd} : Surfaced (Recorder fe) where
  surface r := r.objects.surface
  kept _ _ h := Recorder.perform_surface h
  resized _ _ := .inl ⟨rfl, rfl⟩
  read _ := ⟨_, rfl, rfl⟩

theorem Device.perform_surface {fe : Program.FrontEnd} {d : Device fe} {a : Answer} {call : Call a}
    (h : call.keepsSurface) : (Device.perform call d).2.objects.surface = d.objects.surface := by
  have hstep := d.perform_step call
  generalize (Device.perform call d).2.objects = o, (Device.perform call d).1 = answer at hstep ⊢
  cases hstep with
  | resizeSurface => exact h.elim
  | bindTexture unit t => cases t <;> rfl
  | _ => rfl

instance {fe : Program.FrontEnd} : Surfaced (Device fe) where
  surface d := d.objects.surface
  kept _ _ h := Device.perform_surface h
  resized _ _ := .inl ⟨rfl, rfl⟩
  read _ := ⟨_, rfl, rfl⟩

/-- The answers that the resizes among some calls got. -/
def resizes (es : List Event) : List (Except Error Unit) :=
  es.filterMap fun
    | ⟨.resizeSurface _, answer⟩ => some answer
    | _ => none

theorem resizes_append (es es' : List Event) : resizes (es ++ es') = resizes es ++ resizes es' :=
  List.filterMap_append

/-- The policy, the size of the surface, and how resizes of it fared. -/
def Faulty.At {σ : Type} [Backend σ] [Surfaced σ] (policy : Policy) (size : Extent)
    (rs : List (Except Error Unit)) (f : Faulty σ) : Prop :=
  f.policy = policy ∧ Surfaced.surface f.inner = size ∧ resizes f.journal = rs

section
variable {σ : Type} [Backend σ] [Surfaced σ] {policy : Policy} {size : Extent}
  {rs : List (Except Error Unit)} {f : Faulty σ}

theorem Faulty.At.perform (h : f.At policy size rs) {a : Answer} {call : Call a}
    (hcall : call.keepsSurface) : (Backend.perform call f).2.At policy size rs := by
  obtain ⟨hpolicy, hsurface, hresizes⟩ := h
  refine ⟨(f.policy_perform call).trans hpolicy, ?_, ?_⟩
  · rcases f.inner_perform call with hinner | hinner <;> rw [hinner]
    · exact hsurface
    · exact (Surfaced.kept call f.inner hcall).trans hsurface
  · have hnone : resizes [⟨call, (Backend.perform call f).1⟩] = [] := by
      cases call <;> first | rfl | exact hcall.elim
    rw [f.journal_perform call, resizes_append, hnone, List.append_nil, hresizes]

/-- A resize that succeeds sets the surface, and one that fails leaves it. -/
theorem Faulty.At.resize (h : f.At policy size rs) (new : Extent) :
    ((resizeSurface new f).1 = .ok () ∧
        (resizeSurface new f).2.At policy new.atLeastOne (rs ++ [.ok ()])) ∨
    ∃ e, (resizeSurface new f).1 = .error e ∧
        (resizeSurface new f).2.At policy size (rs ++ [.error e]) := by
  obtain ⟨hpolicy, hsurface, hresizes⟩ := h
  have hpolicy' : (resizeSurface new f).2.policy = policy :=
    (f.policy_perform (.resizeSurface new)).trans hpolicy
  have hresizes' : resizes (resizeSurface new f).2.journal
      = rs ++ [(resizeSurface new f).1] := by
    rw [resizeSurface, f.journal_perform, resizes_append, hresizes]
    rfl
  rcases Faulty.perform_cases (.resizeSurface new) f with
    ⟨r, answer, hr, hanswer, hinner⟩ | ⟨hanswer, hinner⟩
  · cases hr
    have hfailed : (resizeSurface new f).1 = .error (.allocation Call.injected) := hanswer
    refine .inr ⟨_, hfailed, hpolicy', ?_, by rw [hresizes', hfailed]⟩
    exact (congrArg Surfaced.surface hinner).trans hsurface
  · have hinner' : Surfaced.surface (resizeSurface new f).2.inner
        = Surfaced.surface (resizeSurface new f.inner).2 := congrArg Surfaced.surface hinner
    rcases Surfaced.resized new f.inner with ⟨hok, hset⟩ | ⟨⟨e, he⟩, hleft⟩
    · have hdone : (resizeSurface new f).1 = .ok () := hanswer.trans hok
      exact .inl ⟨hdone, hpolicy', hinner'.trans hset, by rw [hresizes', hdone]⟩
    · have hfailed : (resizeSurface new f).1 = .error e := hanswer.trans he
      exact .inr ⟨e, hfailed, hpolicy', (hinner'.trans hleft).trans hsurface,
        by rw [hresizes', hfailed]⟩

/-- A surface that may be read shows a picture of its size. -/
theorem Faulty.At.read (h : f.At policy size rs)
    (hread : ∀ es, policy es .readSurface = none) :
    ∃ picture, (readSurface f).1 = .ok picture ∧ picture.size = size := by
  obtain ⟨hpolicy, hsurface, -⟩ := h
  obtain ⟨picture, hpicture, hsize⟩ := Surfaced.read f.inner
  have hnone : f.policy f.history .readSurface = none := by rw [hpolicy]; exact hread _
  exact ⟨picture, by rw [readSurface, Faulty.perform_of_none hnone]; exact hpicture,
    hsize.trans hsurface⟩

end
end Gpu

/-! ## Everything but resizes -/

section
variable {σ : Type} [Backend σ] {I : σ → Prop}

/-- Every call keeps it that leaves the size of the surface alone. -/
def Gpu.Lasts (I : σ → Prop) : Prop :=
  ∀ {a : Answer} (call : Call a), call.keepsSurface → Keeps I (Backend.perform call)

theorem Pass.keeps_locations (h : Lasts I) (program : ProgramId) (names : List TypedName) :
    Keeps I (locations program names) := by
  induction names with
  | nil => exact .pure _
  | cons n ns ih => exact .bind (h _ trivial) fun _ => .bind ih fun _ => .pure _

theorem Pass.keeps_releaseEach (h : Lasts I) (ps : List Pass) : Keeps I (releaseEach ps) := by
  induction ps with
  | nil => exact .pure _
  | cons p ps ih =>
    exact .bind (.bind (h (.deleteProgram p.program) trivial) fun _ =>
      h (.destroyFramebuffer p.framebuffer) trivial) fun _ => ih

namespace PassTable

theorem keeps_build (h : Lasts I) (t : PassTable) (desc : ShaderDesc)
    (declarations : List Declaration) : Keeps I (t.build desc declarations) := by
  have hfile (source : String) (p : ProgramId) (us ss : List (Option Program.Location)) :
      Keeps I (t.file desc source p us ss) := by
    unfold file
    split
    · next old _ => exact .bind (h (.deleteProgram old.program) trivial) fun _ => .pure _
    · refine .bind (h .createFramebuffer trivial) fun answer => ?_
      cases answer with
      | ok f => exact .pure _
      | error e => exact .bind (h (.deleteProgram p) trivial) fun _ => .pure _
  unfold build
  dsimp only
  split
  · exact .pure _
  · refine .bind (h (.compileProgram _) trivial) fun answer => ?_
    cases answer with
    | error e => exact .pure _
    | ok p =>
      exact .bind (Pass.keeps_locations h p desc.uniforms) fun us =>
        .bind (Pass.keeps_locations h p desc.samplers) fun ss => hfile _ p us ss

theorem keeps_buildAll (h : Lasts I) (t : PassTable) (declarations : List Declaration)
    (descs : List ShaderDesc) : Keeps I (t.buildAll declarations descs) := by
  induction descs generalizing t with
  | nil => exact .pure _
  | cons desc descs ih =>
    refine .bind (t.keeps_build h desc declarations) fun built => .bind (ih built.2) fun rest => ?_
    obtain ⟨outcome | e, -⟩ := built <;> exact .pure _

end PassTable

namespace ImageCache

theorem keeps_request (h : Lasts I) (c : ImageCache) (r : ImageRequest) :
    Keeps I (c.request r) := by
  have hallocate (c : ImageCache) : Keeps I (c.allocate r) := by
    refine .bind (h (.createTexture r.format r.size) trivial) fun answer => ?_
    cases answer <;> exact .pure _
  unfold request
  split
  · exact hallocate c
  · next image _ =>
    split
    · exact .pure _
    · exact .bind (h (.destroyTexture image.texture) trivial) fun _ => hallocate _

theorem keeps_releaseAll (h : Lasts I) (c : ImageCache) : Keeps I c.releaseAll := by
  have hdestroy (is : List CachedImage) : Keeps I (destroyEach is) := by
    induction is with
    | nil => exact .pure _
    | cons i is ih => exact .bind (h (.destroyTexture i.texture) trivial) fun _ => ih
  exact .bind (hdestroy _) fun _ => .pure _

end ImageCache

theorem Present.keeps_composite (h : Lasts I) (pass : Pass) (display : TextureId) :
    Keeps I (composite pass display) := by
  have hdraw : Keeps I (draw pass display) :=
    .bind (h (.bindTexture 0 (some display)) trivial) fun _ => .bind (h .surfaceSize trivial)
      fun size => .bind (h (.setViewport size) trivial) fun _ =>
        .bind (h (.setBlend pass.blendMode.state) trivial) fun _ => h .drawFullscreen trivial
  refine .bind (h (.bindFramebuffer none) trivial) fun _ =>
    .bind (h (.useProgram pass.program) trivial) fun answer => ?_
  cases answer with
  | error e => exact .pure _
  | ok _ =>
    dsimp only
    split
    · next location _ =>
      refine .bind (h (.setUniform location (.int 0)) trivial) fun answer => ?_
      cases answer with
      | error e => exact .pure _
      | ok _ => exact hdraw
    · exact hdraw

end

namespace Session

section
variable {σ κ α : Type} [Backend σ] {I : σ → Prop} {n : Option Extent}

/-- The backend is as `I` says, and this size is noted. -/
def Resting (κ : Type) (I : σ → Prop) (n : Option Extent) (s : Session σ κ) : Prop :=
  I s.backend ∧ s.surfaceSize = n

omit [Backend σ] in
theorem resting_onBackend {m : StateM σ α} (hm : Keeps I m) :
    Keeps (Resting κ I n) (onBackend m) :=
  fun s hs => ⟨hm s.backend hs.1, hs.2⟩

omit [Backend σ] in
theorem resting_onCompiler (m : StateM κ α) : Keeps (Resting κ I n) (onCompiler m) := fun _ hs => hs

omit [Backend σ] in
theorem resting_modify {f : Session σ κ → Session σ κ}
    (hf : ∀ s, (f s).backend = s.backend ∧ (f s).surfaceSize = s.surfaceSize) :
    Keeps (Resting κ I n) (modify f) := by
  intro s hs
  rw [run_modify, Resting, (hf s).1, (hf s).2]
  exact hs

theorem resting_rebuild (h : Lasts I) (result : LoadResult) :
    Keeps (Resting κ I n) (rebuild result) := by
  refine .bind .get fun s => .bind (resting_onBackend ?_) fun passes =>
    .bind (resting_onBackend (passes.keeps_buildAll h _ _)) fun built =>
      .bind (resting_modify fun _ => ⟨rfl, rfl⟩) fun _ => .pure _
  exact .bind (Pass.keeps_releaseEach h _) fun _ => .pure _

theorem resting_requestImage (h : Lasts I) (r : ImageRequest) :
    Keeps (Resting κ I n) (requestImage r) := by
  refine .bind .get fun s => .bind (resting_onBackend (s.cache.keeps_request h r)) fun answer =>
    .bind (resting_modify fun _ => ⟨rfl, rfl⟩) fun _ => ?_
  obtain ⟨texture | e, -⟩ := answer <;> exact .pure _

theorem resting_meetAll (h : Lasts I) (rs : List ContextRequest) :
    Keeps (Resting κ I n) (meetAll rs) := by
  induction rs with
  | nil => exact .pure _
  | cons r rs ih =>
    refine .bind ?_ fun _ => .bind ih fun _ => .pure _
    unfold meet
    split
    · next image _ => exact resting_requestImage h image
    · exact .bind (resting_modify fun _ => ⟨rfl, rfl⟩) fun _ => .pure _

theorem resting_renderFrame (h : Lasts I) (size : Extent) (frame : FrameResult) :
    Keeps (Resting κ I n) (renderFrame size frame) :=
  .bind (resting_modify fun _ => ⟨rfl, rfl⟩) fun _ => .bind .get fun _ =>
    .bind (resting_requestImage h _) fun _ => .bind (resting_meetAll h frame.requests) fun _ =>
      .bind .get fun s => resting_onBackend (Invocation.keeps_invokeAll h s.passes s.cache _ _)

theorem resting_closeFrame (h : Lasts I) : Keeps (Resting κ I n) closeFrame := by
  refine .bind (.bind .get fun s => ?_) fun _ => resting_onBackend (h .endFrame trivial)
  split
  · exact .discard (resting_onBackend (Present.keeps_composite h _ _))
  · exact .pure _

theorem resting_release (h : Lasts I) {s : Session σ κ} (hs : I s.backend) :
    Resting κ I none (release s).2 := by
  have hpasses := Pass.keeps_releaseEach h s.passes.passes.values s.backend hs
  have hpresent := Pass.keeps_releaseEach h s.present.passes.values _ hpasses
  exact ⟨s.cache.keeps_releaseAll h _ hpresent, rfl⟩

variable [ScriptCompiler κ]

theorem resting_loadScript (h : Lasts I) (script : String) :
    Keeps (Resting κ I n) (loadScript script) := by
  refine .bind (resting_onCompiler _) fun result => ?_
  split
  · exact .pure _
  · refine .bind (resting_rebuild h result) fun errors => ?_
    cases errors with
    | nil => exact .bind (resting_modify fun _ => ⟨rfl, rfl⟩) fun _ => .pure _
    | cons e es => exact .pure _

/-- What is left of a frame once the surface is set. -/
theorem resting_runReady (h : Lasts I) {size : Extent} {time : Single} {s : Session σ κ}
    (hs : Resting κ I n (resize size s).2) : Resting κ I n (runReady size time s).2 := by
  have hopen : Resting κ I n (openFrame size s).2 :=
    resting_onBackend (h (.clear (resize size s).2.settings.clearColor) trivial) _
      (resting_onBackend (h (.bindFramebuffer none) trivial) _ hs)
  have hevaluated : Resting κ I n (s.evaluated size time) := hopen
  cases herror : (s.evaluation size time).1.error with
  | some d =>
    rw [runReady_failed herror]
    exact resting_closeFrame h _ hevaluated
  | none =>
    rw [runReady_rendered herror]
    exact resting_closeFrame h _ (resting_renderFrame h size _ _ hevaluated)

end

/-! ## Setting the surface -/

section
variable {σ κ : Type} [Backend σ] [Surfaced σ] {policy : Policy} {size : Extent}
  {n : Option Extent} {rs : List (Except Error Unit)} {s : Session (Faulty σ) κ}

/-- Policy, surface and resizes so far of the backend, and the size that is noted. -/
abbrev At (policy : Policy) (size : Extent) (rs : List (Except Error Unit)) (n : Option Extent)
    (s : Session (Faulty σ) κ) : Prop :=
  Resting κ (Faulty.At policy size rs) n s

theorem lasts_at : Lasts (Faulty.At (σ := σ) policy size rs) := fun _ hcall _ h => h.perform hcall

theorem resize_cases (h : s.At policy size rs n) (new : Extent) :
    (n = some new ∧ (resize new s).2 = s) ∨
    (n ≠ some new ∧
      ((resize new s).2.At policy new.atLeastOne (rs ++ [.ok ()]) (some new) ∨
        ∃ e, (resize new s).2.At policy size (rs ++ [.error e]) n)) := by
  obtain ⟨hbackend, rfl⟩ := h
  by_cases hnoted : s.surfaceSize = some new
  · exact .inl ⟨hnoted, by rw [resize_same hnoted]⟩
  · refine .inr ⟨hnoted, ?_⟩
    rw [resize_new hnoted]
    rcases hbackend.resize new with ⟨hok, hat⟩ | ⟨e, he, hat⟩
    · exact .inl ⟨hat, by simp only [hok]⟩
    · exact .inr ⟨e, hat, by simp only [he]⟩

/-- A size that is noted is that of the surface, and one is noted if one of the resizes since
`rs₀` was accepted. -/
structure Tracked (policy : Policy) (rs₀ : List (Except Error Unit)) (size : Extent)
    (rs : List (Except Error Unit)) (n : Option Extent) (s : Session (Faulty σ) κ) : Prop where
  state : s.At policy size (rs₀ ++ rs) n
  truthful : ∀ noted, n = some noted → size = noted ∧ noted.atLeastOne = noted
  noted : .ok () ∈ rs → n ≠ none

/-- The same, whatever the surface is. -/
def Noted (policy : Policy) (rs₀ : List (Except Error Unit)) (s : Session (Faulty σ) κ) : Prop :=
  ∃ size rs n, s.Tracked policy rs₀ size rs n

variable {rs₀ : List (Except Error Unit)}

theorem Tracked.resting (h : s.Tracked policy rs₀ size rs n) {s' : Session (Faulty σ) κ}
    (hs : s'.At policy size (rs₀ ++ rs) n) : s'.Tracked policy rs₀ size rs n :=
  ⟨hs, h.truthful, h.noted⟩

theorem tracked_set {s' : Session (Faulty σ) κ} {new : Extent} (hnew : new.atLeastOne = new)
    (hs : s'.At policy new ((rs₀ ++ rs) ++ [.ok ()]) (some new)) :
    s'.Tracked policy rs₀ new (rs ++ [.ok ()]) (some new) := by
  rw [List.append_assoc] at hs
  exact ⟨hs, fun noted hnoted => by cases hnoted; exact ⟨rfl, hnew⟩, fun _ => nofun⟩

theorem Tracked.refuse (h : s.Tracked policy rs₀ size rs n) {s' : Session (Faulty σ) κ} {e : Error}
    (hs : s'.At policy size ((rs₀ ++ rs) ++ [.error e]) n) :
    s'.Tracked policy rs₀ size (rs ++ [.error e]) n := by
  rw [List.append_assoc] at hs
  refine ⟨hs, h.truthful, fun hmem => h.noted ?_⟩
  simpa using hmem

variable [ScriptCompiler κ]

/-- A frame sets the surface to its size, unless that is noted or the resize is refused. -/
theorem runFrame_cases (h : s.At policy size rs n) (hready : s.state = .ready) (new : Extent)
    (time : Single) :
    (n = some new.atLeastOne ∧ (runFrame new time s).2.At policy size rs n) ∨
    (n ≠ some new.atLeastOne ∧
      ((runFrame new time s).2.At policy new.atLeastOne (rs ++ [.ok ()]) (some new.atLeastOne) ∨
        ∃ e, (runFrame new time s).2.At policy size (rs ++ [.error e]) n)) := by
  rw [runFrame_ready hready]
  rcases resize_cases h new.atLeastOne with ⟨hnoted, hsame⟩ | ⟨hnew, hset | ⟨e, hleft⟩⟩
  · exact .inl ⟨hnoted, resting_runReady lasts_at (by rw [hsame]; exact h)⟩
  · rw [Extent.atLeastOne_atLeastOne] at hset
    exact .inr ⟨hnew, .inl (resting_runReady lasts_at hset)⟩
  · exact .inr ⟨hnew, .inr ⟨e, resting_runReady lasts_at hleft⟩⟩

theorem lasting_noted : Lasting (Noted (σ := σ) (κ := κ) policy rs₀) where
  frame new time := by
    rintro s ⟨size, rs, n, h⟩
    cases hstate : s.state with
    | idle =>
      rw [runFrame_idle hstate]
      exact ⟨size, rs, n, h⟩
    | ready =>
      rcases runFrame_cases h.state hstate new time with ⟨-, hsame⟩ | ⟨-, hset | ⟨e, hleft⟩⟩
      · exact ⟨_, _, _, h.resting hsame⟩
      · exact ⟨_, _, _, tracked_set new.atLeastOne_atLeastOne hset⟩
      · exact ⟨_, _, _, h.refuse hleft⟩
  read := fun s ⟨_, _, _, h⟩ =>
    ⟨_, _, _, h.resting (resting_onBackend (lasts_at .readSurface trivial) s h.state)⟩
  restore := by
    rintro s₁ ⟨size₁, rs₁, n₁, h₁⟩ s ⟨size, rs, n, h⟩
    rw [h₁.state.2]
    cases n₁ with
    | none => exact ⟨_, _, _, h⟩
    | some previous =>
      have hprevious := (h₁.truthful previous rfl).2
      rcases resize_cases h.state previous with ⟨-, hsame⟩ | ⟨-, hset | ⟨e, hleft⟩⟩
      · exact ⟨_, _, _, h.resting (by rw [restoreSize, hsame]; exact h.state)⟩
      · rw [hprevious] at hset
        exact ⟨_, _, _, tracked_set hprevious hset⟩
      · exact ⟨_, _, _, h.refuse hleft⟩
  notes _ _ _ _ := fun ⟨_, _, _, h⟩ => ⟨_, _, _, h.resting h.state⟩
  load script := fun s ⟨_, _, _, h⟩ =>
    ⟨_, _, _, h.resting (resting_loadScript lasts_at script s h.state)⟩

theorem noted_perform (h : s.Noted policy rs₀) (act : Act) :
    ∃ rs₁, (act.perform s).2.Noted policy rs₁ := by
  by_cases hact : act = .release
  · subst hact
    obtain ⟨size, rs, n, h⟩ := h
    have hreleased := resting_release lasts_at (s := s) h.state.1
    exact ⟨rs₀ ++ rs, size, [], none, by rwa [List.append_nil], nofun, nofun⟩
  · exact ⟨rs₀, lasting_noted.perform hact s h⟩

theorem noted_play (h : s.Noted policy rs₀) (acts : List Act) :
    ∃ rs₁, (s.play acts).Noted policy rs₁ := by
  induction acts generalizing s rs₀ with
  | nil => exact ⟨rs₀, h⟩
  | cons act acts ih =>
    obtain ⟨rs₁, h₁⟩ := noted_perform h act
    exact ih h₁

omit [ScriptCompiler κ] in
/-- Resizes are counted from here on. -/
theorem Noted.anew (h : s.Noted policy rs₀) : s.Noted policy (resizes s.backend.journal) := by
  obtain ⟨size, rs, n, h⟩ := h
  have hresizes : resizes s.backend.journal = rs₀ ++ rs := h.state.1.2.2
  rw [hresizes]
  exact ⟨size, [], n, by rw [List.append_nil]; exact h.state, h.truthful, nofun⟩

omit [ScriptCompiler κ] in
theorem noted_start {b : Faulty σ} {compiler : κ} {settings : Settings}
    (h : (start b compiler settings).1 = .ok s) :
    s.Noted b.policy (resizes b.journal) := by
  obtain ⟨rfl, -⟩ := start_ok h
  have hb : b.At b.policy (Surfaced.surface b.inner) (resizes b.journal) := ⟨rfl, rfl, rfl⟩
  exact ⟨_, [], none, ⟨by rw [List.append_nil]; exact PassTable.empty.keeps_build lasts_at _ _ b hb,
    rfl⟩, nofun, nofun⟩

/-- A frame whose resize is not refused ends with the surface at its size. -/
theorem runFrame_sized (h : s.Noted policy rs₀) (hready : s.state = .ready) (new : Extent)
    (time : Single) :
    ∃ rs, resizes (runFrame new time s).2.backend.journal = resizes s.backend.journal ++ rs ∧
      ((∀ r ∈ rs, r = .ok ()) →
        (runFrame new time s).2.surfaceSize = some new.atLeastOne ∧
          Surfaced.surface (runFrame new time s).2.backend.inner = new.atLeastOne) := by
  obtain ⟨size, rs, n, h⟩ := h
  have hresizes : resizes s.backend.journal = rs₀ ++ rs := h.state.1.2.2
  rw [hresizes]
  rcases runFrame_cases h.state hready new time with ⟨hnoted, hsame⟩ | ⟨-, hset | ⟨e, hleft⟩⟩
  · exact ⟨[], hsame.1.2.2.trans (List.append_nil _).symm, fun _ =>
      ⟨hsame.2.trans hnoted, hsame.1.2.1.trans (h.truthful _ hnoted).1⟩⟩
  · exact ⟨[.ok ()], hset.1.2.2, fun _ => ⟨hset.2, hset.1.2.1⟩⟩
  · exact ⟨[.error e], hleft.1.2.2, fun hok => nomatch hok _ List.mem_cons_self⟩

omit [ScriptCompiler κ] in
/-- Setting the surface back succeeds unless it is refused. -/
theorem restoreSize_sized (h : s.Noted policy rs₀) {previous : Extent}
    (hprevious : previous.atLeastOne = previous) :
    ∃ rs, resizes (restoreSize (some previous) s).2.backend.journal
        = resizes s.backend.journal ++ rs ∧
      ((∀ r ∈ rs, r = .ok ()) →
        Surfaced.surface (restoreSize (some previous) s).2.backend.inner = previous) := by
  obtain ⟨size, rs, n, h⟩ := h
  have hresizes : resizes s.backend.journal = rs₀ ++ rs := h.state.1.2.2
  rw [restoreSize]
  rcases resize_cases h.state previous with ⟨hnoted, hsame⟩ | ⟨-, hset | ⟨e, hleft⟩⟩
  · rw [hsame]
    exact ⟨[], (List.append_nil _).symm, fun _ => h.state.1.2.1.trans (h.truthful _ hnoted).1⟩
  · rw [hresizes]
    exact ⟨[.ok ()], hset.1.2.2, fun _ => hset.1.2.1.trans hprevious⟩
  · rw [hresizes]
    exact ⟨[.error e], hleft.1.2.2, fun hok => nomatch hok _ List.mem_cons_self⟩

/-- A picture has its size, and leaves the surface as it was, if no resize is refused. -/
theorem capture_sized (h : s.Noted policy rs₀) (hready : s.state = .ready)
    (hnoted : s.surfaceSize ≠ none) (hread : ∀ es, policy es .readSurface = none) (new : Extent)
    (time : Single) :
    ∃ rs, resizes (capture new time s).2.backend.journal = resizes s.backend.journal ++ rs ∧
      ((∀ r ∈ rs, r = .ok ()) →
        (∃ picture, (capture new time s).1 = .ok picture ∧ picture.size = new.atLeastOne) ∧
          Surfaced.surface (capture new time s).2.backend.inner
            = Surfaced.surface s.backend.inner) := by
  obtain ⟨previous, hprevious⟩ := Option.ne_none_iff_exists'.1 hnoted
  obtain ⟨hsurface, hwhole⟩ : Surfaced.surface s.backend.inner = previous ∧
      previous.atLeastOne = previous := by
    obtain ⟨size, rs, n, h⟩ := h
    obtain ⟨rfl, hwhole⟩ := h.truthful previous (h.state.2.symm.trans hprevious)
    exact ⟨h.state.1.2.1, hwhole⟩
  let framed := (runFrame new time s).2
  let read := (onBackend readSurface framed).2
  have hrun : capture new time s
      = ((readSurface framed.backend).1, (restoreSize (some previous) read).2) := by
    rw [← hprevious]
    rfl
  have hframed : framed.Noted policy rs₀ := lasting_noted.frame new time s h
  obtain ⟨rs, hresizes, hsized⟩ := runFrame_sized h hready new time
  obtain ⟨rs', hresizes', hrestored⟩ :=
    restoreSize_sized (lasting_noted.read framed hframed) hwhole
  obtain ⟨size, rs₁, n, htracked⟩ := hframed
  have hquiet : resizes read.backend.journal = resizes framed.backend.journal :=
    (resting_onBackend (lasts_at .readSurface trivial) framed htracked.state).1.2.2.trans
      htracked.state.1.2.2.symm
  obtain ⟨picture, hpicture, hsize⟩ := htracked.state.1.read hread
  rw [hrun]
  refine ⟨rs ++ rs', ?_, fun hok => ?_⟩
  · rw [← List.append_assoc, ← hresizes, ← hquiet]
    exact hresizes'
  · rw [List.forall_mem_append] at hok
    refine ⟨⟨picture, hpicture, ?_⟩, (hrestored hok.2).trans hsurface.symm⟩
    rw [hsize, ← htracked.state.1.2.1]
    exact (hsized hok.1).2

/-- Along every run a size that is noted is that of the surface, at the end and where a frame
starts on the way, and a frame whose resize is not refused ends with the surface at its size. A
picture can be taken once a resize was accepted and the session was not released since: it has
its size, and leaves the surface as it was, if no resize is refused for it. -/
theorem surface_size_noted {b : Faulty σ} {compiler : κ} {settings : Settings}
    {s₀ : Session (Faulty σ) κ} (hstart : (start b compiler settings).1 = .ok s₀)
    (before after : List Act) :
    let s := s₀.play (before ++ after)
    (∀ t, Frames s t →
      (∀ size, t.surfaceSize = some size → Surfaced.surface t.backend.inner = size) ∧
      (t.state = .ready → ∀ size time, ∃ rs,
        resizes (runFrame size time t).2.backend.journal = resizes t.backend.journal ++ rs ∧
        ((∀ r ∈ rs, r = .ok ()) →
          Surfaced.surface (runFrame size time t).2.backend.inner = size.atLeastOne))) ∧
    (.release ∉ after → (∃ rs, .ok () ∈ rs ∧
        resizes s.backend.journal = resizes (s₀.play before).backend.journal ++ rs) →
      s.state = .ready → (∀ es, b.policy es .readSurface = none) → ∀ size time, ∃ rs,
        resizes (capture size time s).2.backend.journal = resizes s.backend.journal ++ rs ∧
        ((∀ r ∈ rs, r = .ok ()) →
          (∃ picture, (capture size time s).1 = .ok picture ∧ picture.size = size.atLeastOne) ∧
            Surfaced.surface (capture size time s).2.backend.inner
              = Surfaced.surface s.backend.inner)) := by
  intro s
  obtain ⟨rs₁, hnoted⟩ := noted_play (noted_start hstart) (before ++ after)
  refine ⟨fun t ht => ?_, fun hafter hset hready hread size time => ?_⟩
  · have ht := lasting_noted.frames hnoted ht
    refine ⟨fun size hsize => ?_, fun hready size time => ?_⟩
    · obtain ⟨x, rs, n, h⟩ := ht
      rw [h.state.1.2.1, (h.truthful size (h.state.2.symm.trans hsize)).1]
    · obtain ⟨rs, hresizes, hsized⟩ := runFrame_sized ht hready size time
      exact ⟨rs, hresizes, fun hok => (hsized hok).2⟩
  · refine capture_sized hnoted hready ?_ hread size time
    obtain ⟨rs₂, hbefore⟩ := noted_play (noted_start hstart) before
    obtain ⟨x, rs, n, h⟩ := lasting_noted.play hbefore.anew hafter
    obtain ⟨rs', hok, hresizes⟩ := hset
    have hs : s = (s₀.play before).play after := play_append s₀ before after
    rw [← hs] at h
    have hrs : rs' = rs := List.append_cancel_left (hresizes.symm.trans h.state.1.2.2)
    rw [h.state.2]
    exact h.noted (hrs ▸ hok)

end

/-- Refuses the second resize. -/
def refuseSecond : Policy := fun es _ call =>
  if call.name = "resize_surface" ∧ (resizes es).length = 1 then some {} else none

def blank : Scripted LoadResult FrameResult (List ContextInput) where
  loads := .ofList [("a", ⟨[], [], none⟩)]
  frames := []

def resized : Session (Faulty (Recorder Program.oneUniform))
    (Scripted LoadResult FrameResult (List ContextInput)) :=
  fresh { inner := {}, policy := refuseSecond } blank {}

/-- The second frame is refused its size, and the third one asks for it again. -/
def growing : List Act :=
  [.load "a", .frame ⟨4, 4⟩ .zero, .frame ⟨8, 8⟩ .zero, .frame ⟨8, 8⟩ .zero]

theorem surface_size_noted_sample :
    (resized.play (growing.take 3)).backend.inner.objects.surface = ⟨4, 4⟩ ∧
      (resized.play growing).backend.inner.objects.surface = ⟨8, 8⟩ ∧
      (∃ picture, (capture ⟨2, 0⟩ .zero (resized.play growing)).1 = .ok picture ∧
        picture.size = ⟨2, 1⟩) ∧
      (capture ⟨2, 0⟩ .zero (resized.play growing)).2.backend.inner.objects.surface = ⟨8, 8⟩ := by
  have hstart : (start ({ inner := {}, policy := refuseSecond } :
      Faulty (Recorder Program.oneUniform)) blank {}).1 = .ok resized := rfl
  have h := surface_size_noted hstart [] growing
  rw [List.nil_append] at h
  obtain ⟨hframes, hcapture⟩ := h
  have hread : ∀ es, refuseSecond es .readSurface = none := fun es =>
    if_neg fun h => absurd h.1 (by decide)
  have hset : ∃ rs, Except.ok () ∈ rs ∧ resizes (resized.play growing).backend.journal
      = resizes (resized.play []).backend.journal ++ rs :=
    ⟨_, by decide +kernel, (List.nil_append _).symm⟩
  have hready : (resized.play growing).state = .ready := by decide +kernel
  have hnoted : (resized.play growing).surfaceSize = some ⟨8, 8⟩ := by decide +kernel
  obtain ⟨rs, hrs, hpicture⟩ := hcapture (by decide) hset hready hread ⟨2, 0⟩ .zero
  have hanswers : rs = [.ok (), .ok ()] := by
    have hall : resizes (capture ⟨2, 0⟩ .zero (resized.play growing)).2.backend.journal
        = resizes (resized.play growing).backend.journal ++ [.ok (), .ok ()] := by
      decide +kernel
    exact List.append_cancel_left (hrs.symm.trans hall)
  obtain ⟨hshown, hrestored⟩ := hpicture (by rw [hanswers]; decide)
  have hsurface : Surfaced.surface (resized.play growing).backend.inner = ⟨8, 8⟩ :=
    (hframes _ .act).1 _ hnoted
  exact ⟨by decide +kernel, hsurface, hshown, hrestored.trans hsurface⟩

end Session
end FrameGraph
