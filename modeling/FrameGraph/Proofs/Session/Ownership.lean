import FrameGraph.Compiler.Scripted
import FrameGraph.Proofs.Frame.Drawing
import FrameGraph.Proofs.Gpu.Surface
import FrameGraph.Proofs.Image.Requests
import FrameGraph.Proofs.Pass.Building
import FrameGraph.Proofs.Session.Invariant

/-!
# Who owns what is live

A session owns the textures of its cache and the programs and framebuffers of its
two pass tables. `Owned` says that these are exactly the live objects, each of
them held once, and that the tables are in order.

What a session does between two showings (`Behind`) destroys only what is live, and
leaves the pass that shows the display image alone. Loading a script and meeting the
requests of a frame leave the size of the surface alone as well (`Inside`), and so does
showing the display image (`Closing`).

Results:
* `runs_loadScript`, `runs_renderFrame` and the like: one triple for each
  operation, which keeps `Owned`.
* `lasting_holdingSince`: what these give for whatever is made of them.
* `runs_play`: `Owned` holds after every run, whatever is refused and whatever the
  compiler answers, and no act destroys what is not live.
* `live_objects_are_held`: the same for a recording backend behind a layer that refuses
  calls.
-/
namespace FrameGraph

open Gpu

namespace Session

variable {σ κ : Type}

def heldTextures (s : Session σ κ) : Multiset TextureId := s.cache.textures

def heldFramebuffers (s : Session σ κ) : Multiset FramebufferId :=
  s.passes.framebuffers + s.present.framebuffers

def heldPrograms (s : Session σ κ) : Multiset ProgramId := s.passes.programs + s.present.programs

variable [Backend σ] [Accounting σ]

structure Owned (s : Session σ κ) : Prop where
  passes : s.passes.Filed
  present : s.present.Filed
  images : s.cache.images.Ordered
  balanced : Balanced s.heldTextures s.heldFramebuffers s.heldPrograms s.backend

/-- Owned, with this table of the pass that shows the display image. -/
def Holding (present : PassTable) (s : Session σ κ) : Prop := s.Owned ∧ s.present = present

/-- The computation keeps to the discipline, and what the session holds in order. -/
abbrev Upholds (σ κ : Type) [Backend σ] [Accounting σ] (C : Discipline σ) (present : PassTable)
    {α : Type} (m : StateM (Session σ κ) α) : Prop :=
  Runs backend C (Holding present) m fun _ => Holding present

end Session

/-! ## Between two showings -/

section
variable {σ : Type} [Backend σ] [Accounting σ] {shown : Multiset ProgramId} {b : σ} {a : Answer}
  {call : Call a}

/-- Between two showings, and the size of the surface is left alone. -/
def Gpu.Inside (shown : Multiset ProgramId) (b : σ) {a : Answer} (call : Call a) : Prop :=
  Behind shown b call ∧ call.keepsSurface

theorem Gpu.Requesting.inside (h : Requesting b call) : Inside shown b call := by
  cases call <;> first | exact ⟨h, trivial⟩ | exact h.elim

theorem Gpu.Building.inside (h : Building shown b call) : Inside shown b call := by
  cases call <;> first | exact ⟨h, trivial⟩ | exact h.elim

/-- Invocations leave the programs of other tables alone. -/
theorem Gpu.Drawing.inside {t : PassTable}
    (ht : ∀ {name : String} {pass : Pass}, t.get? name = some pass → pass.program ∉ shown)
    (h : Drawing t b call) : Inside shown b call := by
  refine ⟨?_, by cases call <;> first | exact h | trivial⟩
  cases call with
  | setUniform l v =>
    obtain ⟨name, pass, hpass, hin⟩ := h
    intro p hp hin'
    rw [hin] at hin'
    cases hin'
    exact ht hpass hp
  | drawFullscreen =>
    obtain ⟨name, pass, -, -, hbound⟩ := h
    exact fun hn => by rw [hbound] at hn; cases hn
  | bindFramebuffer f => trivial
  | useProgram | attachColor | setDrawBuffers | bindTexture | setViewport | setBlend => trivial
  | createTexture | destroyTexture | createFramebuffer | destroyFramebuffer | compileProgram
  | deleteProgram | uniformLocation | clear | surfaceSize | resizeSurface | readSurface
  | endFrame => exact h.elim

/-- Only what is live is destroyed, and the size of the surface is left alone. -/
def Gpu.Closing (b : σ) {a : Answer} (call : Call a) : Prop := Careful b call ∧ call.keepsSurface

theorem Gpu.Showing.closing {program : ProgramId} (h : Showing program b call) :
    Closing b call := by
  refine ⟨by cases call <;> trivial, ?_⟩
  cases call <;> first | exact h.elim | trivial

end

namespace Session

section
variable {σ κ : Type} [Backend σ] [Accounting σ] {present : PassTable} {C : Discipline σ}
  {s s' : Session σ κ}

/-- What a session holds does not depend on the rest of it. -/
theorem Holding.congr (h : Holding present s) (hbackend : s'.backend = s.backend)
    (hpasses : s'.passes = s.passes) (hpresent : s'.present = s.present)
    (hcache : s'.cache.images = s.cache.images) : Holding present s' := by
  obtain ⟨⟨hp, hq, hi, hb⟩, rfl⟩ := h
  refine ⟨⟨hpasses ▸ hp, hpresent ▸ hq, hcache ▸ hi, ?_⟩, hpresent⟩
  simpa only [heldTextures, heldFramebuffers, heldPrograms, ImageCache.textures, hbackend, hpasses,
    hpresent, hcache] using hb

theorem runs_modify {f : Session σ κ → Session σ κ}
    (h : ∀ s, (f s).backend = s.backend ∧ (f s).passes = s.passes ∧ (f s).present = s.present ∧
      (f s).cache.images = s.cache.images) :
    Upholds σ κ C present (modify f) :=
  Runs.modify fun s hs => ⟨(h s).1, hs.congr (h s).1 (h s).2.1 (h s).2.2.1 (h s).2.2.2⟩

theorem runs_onCompiler {α : Type} (run : StateM κ α) : Upholds σ κ C present (onCompiler run) :=
  fun s hs => ⟨⟨[], .nil _⟩, hs.congr (s := s) rfl rfl rfl rfl⟩

/-- A run of calls that neither create nor destroy anything. -/
theorem Holding.run {α : Type} (h : Holding present s) {run : StateM σ α}
    (hrun : Runs id C Sound run fun _ => Sound)
    (hC : ∀ (b : σ) {a : Answer} (call : Call a), C b call → call.keepsObjects) :
    (∃ es, Trail C s.backend es (run s.backend).2) ∧
      Holding present { s with backend := (run s.backend).2 } := by
  obtain ⟨h, rfl⟩ := h
  obtain ⟨htrail, -, hb⟩ := hrun.keeps
    (I := Balanced s.heldTextures s.heldFramebuffers s.heldPrograms)
    (fun b _ call hcall hb => hb.keep (hC b call hcall)) s.backend ⟨h.balanced.sound, h.balanced⟩
  exact ⟨htrail, ⟨h.passes, h.present, h.images, hb⟩, rfl⟩

theorem runs_call {a : Answer} (call : Call a) (hcall : call.keepsObjects)
    (hC : ∀ b : σ, C b call) :
    Upholds σ κ C present (onBackend (Backend.perform call)) := by
  rintro s ⟨h, rfl⟩
  exact ⟨⟨_, .single call (hC s.backend)⟩, ⟨h.passes, h.present, h.images, h.balanced.keep hcall⟩,
    rfl⟩

/-! ## Loading -/

theorem runs_rebuild (result : LoadResult) :
    Upholds σ κ (Inside present.programs) present (rebuild result) := by
  rintro s ⟨h, rfl⟩
  obtain ⟨⟨es, hes⟩, ⟨hretained, -⟩, hb⟩ :=
    PassTable.runs_retain h.passes (result.shaders.map ShaderDesc.name) s.backend h.balanced
  obtain ⟨⟨es', hes'⟩, ⟨hbuilt, -⟩, hb'⟩ :=
    PassTable.runs_buildAll result.declarations result.shaders hretained _ hb
  exact ⟨⟨es ++ es', (hes.append hes').mono fun _ _ _ => Building.inside⟩,
    ⟨hbuilt, h.present, h.images, hb'⟩, rfl⟩

/-! ## Frames -/

theorem runs_requestImage (r : ImageRequest) :
    Upholds σ κ (Inside present.programs) present (requestImage r) := by
  rintro s ⟨h, rfl⟩
  have hbal : Balanced (s.cache.textures + 0) s.heldFramebuffers s.heldPrograms s.backend := by
    rw [Multiset.add_zero]
    exact h.balanced
  obtain ⟨⟨es, hes⟩, himages, hb⟩ := ImageCache.runs_request h.images r s.backend hbal
  rw [Multiset.add_zero] at hb
  rw [requestImage_snd]
  exact ⟨⟨es, hes.mono fun _ _ _ => Requesting.inside⟩, ⟨h.passes, h.present, himages, hb⟩, rfl⟩

theorem runs_meet (r : ContextRequest) :
    Upholds σ κ (Inside present.programs) present (meet r) := by
  unfold meet
  split
  · next image _ => exact runs_requestImage image
  · exact Runs.bind (runs_modify fun _ => ⟨rfl, rfl, rfl, rfl⟩) fun _ => Runs.pure fun _ h => h

theorem runs_meetAll (rs : List ContextRequest) :
    Upholds σ κ (Inside present.programs) present (meetAll rs) := by
  induction rs with
  | nil => exact Runs.pure fun _ h => h
  | cons r rs ih =>
    exact Runs.bind (runs_meet r) fun _ => Runs.bind ih fun _ => Runs.pure fun _ h => h

/-- The passes of the script are others than those that show the display image. -/
theorem Owned.apart (h : s.Owned) {name : String} {pass : Pass}
    (hpass : s.passes.get? name = some pass) : pass.program ∉ s.present.programs := by
  intro hmem
  have hp : pass.program ∈ s.passes.programs := PassTable.mem_programs h.passes hpass
  exact Multiset.disjoint_left.1 (Multiset.nodup_add.1 h.balanced.programs.1).2.2 hp hmem

/-- Sessions that hold the same have the same live objects. -/
theorem Owned.live_eq (h : s.Owned) (h' : s'.Owned) (hcache : s'.cache = s.cache)
    (hpasses : s'.passes = s.passes) (hpresent : s'.present = s.present) :
    (account s'.backend).textures = (account s.backend).textures ∧
      (account s'.backend).programs = (account s.backend).programs ∧
      (account s'.backend).framebuffers = (account s.backend).framebuffers := by
  have hb' := h'.balanced
  simp only [heldTextures, heldFramebuffers, heldPrograms, hcache, hpasses, hpresent] at hb'
  exact ⟨hb'.textures.unique h.balanced.textures, hb'.programs.unique h.balanced.programs,
    hb'.framebuffers.unique h.balanced.framebuffers⟩

theorem runs_renderFrame (size : Extent) (frame : FrameResult) :
    Upholds σ κ (Inside present.programs) present (renderFrame size frame) := by
  refine Runs.bind (runs_modify fun _ => ⟨rfl, rfl, rfl, rfl⟩) fun _ => ?_
  refine Runs.bind (Runs.get (Q := fun _ => Holding present) fun _ h => h) fun s => ?_
  refine Runs.bind (runs_requestImage (s.displayRequest size)) fun display => ?_
  refine Runs.bind (runs_meetAll frame.requests) fun others => ?_
  intro s h
  obtain ⟨⟨es, hes⟩, h'⟩ := h.run (runs_invokeAll s.passes s.cache frame.invocations
    { outcome := .rendered, errors := display ++ others }) fun _ _ _ => Drawing.keepsObjects
  exact ⟨⟨es, hes.mono fun _ _ _ => Drawing.inside (h.2 ▸ h.1.apart)⟩, h'⟩

theorem runs_presentDisplay : Upholds σ κ Closing present presentDisplay := by
  refine Runs.bind (Runs.get (Q := fun _ => Holding present) fun _ h => h) fun s => ?_
  split
  · next display pass _ _ =>
    intro s h
    obtain ⟨⟨es, hes⟩, h'⟩ := h.run (Present.runs_composite pass display)
      fun _ _ _ => Showing.keepsObjects
    exact ⟨⟨es, hes.mono fun _ _ _ => Showing.closing⟩, h'⟩
  · exact Runs.pure fun _ h => h

/-! ## Everything a host can do -/

theorem runs_resize (size : Extent) :
    Upholds σ κ (Behind present.programs) present (resize size) := by
  refine Runs.bind (Runs.get (Q := fun _ => Holding present) fun _ h => h) fun s => ?_
  split
  · exact Runs.pure fun _ h => h
  · refine Runs.bind (runs_call (.resizeSurface size) trivial fun _ => trivial) fun answer => ?_
    cases answer with
    | ok _ => exact runs_modify fun _ => ⟨rfl, rfl, rfl, rfl⟩
    | error e => exact Runs.pure fun _ h => h

theorem runs_openFrame (size : Extent) :
    Upholds σ κ (Behind present.programs) present (openFrame size) := by
  refine Runs.bind (runs_resize size) fun _ => ?_
  refine Runs.bind (runs_call (.bindFramebuffer none) trivial fun _ => trivial) fun _ => ?_
  refine Runs.bind (Runs.get (Q := fun _ => Holding present) fun _ h => h) fun s => ?_
  exact runs_call (.clear s.settings.clearColor) trivial fun _ => trivial

theorem runs_closeFrame : Upholds σ κ Closing present closeFrame :=
  Runs.bind runs_presentDisplay fun _ =>
    runs_call .endFrame trivial fun _ => ⟨trivial, trivial⟩

/-- The tables go first, then the cache, and nothing is left. -/
theorem release_trails (h : s.Owned) :
    ∃ b₁ b₂ es₁ es₂ es₃, Trail (Building s.present.programs) s.backend es₁ b₁ ∧
      Trail (Building 0) b₁ es₂ b₂ ∧ Trail Requesting b₂ es₃ (release s).2.backend ∧
      Balanced 0 0 0 (release s).2.backend := by
  obtain ⟨⟨es₁, h₁⟩, -, hb⟩ := PassTable.runs_releaseAll s.passes s.backend h.balanced
  rw [← Multiset.add_zero s.present.framebuffers, ← Multiset.add_zero s.present.programs] at hb
  obtain ⟨⟨es₂, h₂⟩, -, hb⟩ := PassTable.runs_releaseAll s.present _ hb
  rw [show s.heldTextures = s.cache.textures + 0 from (Multiset.add_zero _).symm] at hb
  obtain ⟨⟨es₃, h₃⟩, -, hb⟩ := ImageCache.runs_releaseAll _ hb
  exact ⟨_, _, es₁, es₂, es₃, h₁, h₂, h₃, hb⟩

/-- Everything the session held is gone, and it holds nothing. -/
theorem runs_release :
    Runs backend (Behind 0) Owned (release (σ := σ) (κ := κ))
      (fun _ s => s.Owned ∧ s.heldTextures = 0 ∧ s.heldFramebuffers = 0 ∧ s.heldPrograms = 0) := by
  intro s h
  obtain ⟨b₁, b₂, es₁, es₂, es₃, h₁, h₂, h₃, hb⟩ := release_trails h
  have c₁ := h₁.mono fun _ _ _ hc => hc.inside.1.of_none
  have c₂ := h₂.mono fun _ _ _ hc => hc.inside.1.of_none
  have c₃ := h₃.mono fun _ _ call (hc : Requesting _ call) => (hc.inside.1 : Behind 0 _ call)
  exact ⟨⟨_, (c₁.append c₂).append c₃⟩,
    ⟨PassTable.filed_empty, PassTable.filed_empty, Dict.ordered_empty, hb⟩, rfl, rfl, rfl⟩

/-- On a backend without objects, a session that starts owns all there are then. -/
theorem runs_start {b : σ} {compiler : κ} {settings : Settings} (hb : Balanced 0 0 0 b)
    (h : (start b compiler settings).1 = .ok s) :
    (∃ es, Trail (Behind 0) b es s.backend) ∧ s.Owned := by
  have hb' : Balanced 0 (PassTable.empty.framebuffers + 0) (PassTable.empty.programs + 0) b := by
    simpa using hb
  obtain ⟨⟨es, hes⟩, ⟨hfiled, -⟩, hbal⟩ :=
    PassTable.runs_build PassTable.filed_empty Present.desc [] b hb'
  obtain ⟨rfl, -⟩ := start_ok h
  exact ⟨⟨es, hes.mono fun _ _ _ hc => hc.inside.1⟩, ⟨PassTable.filed_empty, hfiled,
    Dict.ordered_empty, by simpa [heldTextures, heldFramebuffers, heldPrograms, fresh] using hbal⟩⟩

/-- Owned, with this table of the pass that shows the display image, and since `b` nothing
was destroyed that was not live. -/
def HoldingSince (b : σ) (present : PassTable) (s : Session σ κ) : Prop :=
  Holding present s ∧ ∃ es, Trail Careful b es s.backend

theorem Upholds.since {α : Type} {m : StateM (Session σ κ) α} (h : Upholds σ κ Careful present m)
    (b : σ) : Keeps (HoldingSince b present) m := by
  intro s ⟨hs, es, hes⟩
  obtain ⟨⟨es', hes'⟩, hs'⟩ := h s hs
  exact ⟨hs', es ++ es', hes.append hes'⟩

variable [ScriptCompiler κ]

theorem runs_loadScript (script : String) :
    Upholds σ κ (Inside present.programs) present (loadScript script) := by
  refine Runs.bind (runs_onCompiler _) fun result => ?_
  split
  · exact Runs.pure fun _ h => h
  · refine Runs.bind (runs_rebuild result) fun errors => ?_
    split
    · exact Runs.bind (runs_modify fun _ => ⟨rfl, rfl, rfl, rfl⟩) fun _ => Runs.pure fun _ h => h
    · exact Runs.pure fun _ h => h

theorem runs_runFrame (size : Extent) (time : Single) :
    Upholds σ κ Careful present (runFrame size time) := by
  refine Runs.bind (Runs.get (Q := fun _ => Holding present) fun _ h => h) fun s => ?_
  split
  · exact Runs.pure fun _ h => h
  · rw [runReady_eq]
    refine Runs.bind ((runs_openFrame size.atLeastOne).mono fun _ _ _ => Behind.careful) fun _ => ?_
    refine Runs.bind (Runs.get (Q := fun _ => Holding present) fun _ h => h) fun s => ?_
    refine Runs.bind (runs_onCompiler _) fun frame => ?_
    have hclose : Upholds σ κ Careful present closeFrame :=
      runs_closeFrame.mono fun _ _ _ => And.left
    split
    · exact Runs.bind hclose fun _ => Runs.pure fun _ h => h
    · refine Runs.bind ((runs_renderFrame size.atLeastOne frame).mono fun _ _ _ h => h.1.careful)
        fun report => ?_
      exact Runs.bind hclose fun _ => Runs.pure fun _ h => h

theorem lasting_holdingSince (b : σ) : Lasting (HoldingSince (κ := κ) b present) where
  frame size time := (runs_runFrame size time).since b
  read := (runs_call .readSurface trivial fun _ => trivial).since b
  restore := by
    intro s _
    cases s.surfaceSize with
    | none => exact .pure ()
    | some size => exact Upholds.since ((runs_resize size).mono fun _ _ _ => Behind.careful) b
  notes _ _ _ _ := fun ⟨hs, htrail⟩ => ⟨hs.congr rfl rfl rfl rfl, htrail⟩
  load script := Upholds.since ((runs_loadScript script).mono fun _ _ _ h => h.1.careful) b

theorem runs_perform (act : Act) :
    Runs backend Careful (Owned (σ := σ) (κ := κ)) act.perform (fun _ => Owned) := by
  -- all acts but the last keep the pass that shows the display image
  by_cases hact : act = .release
  · subst hact
    have hrelease := (runs_release (σ := σ) (κ := κ)).mono fun _ _ _ => Behind.careful
    exact (hrelease.weaken (fun _ h => h) fun _ _ h => h.1).map _
  · intro s hs
    obtain ⟨⟨hs', -⟩, htrail⟩ :=
      (lasting_holdingSince s.backend).perform hact s ⟨⟨hs, rfl⟩, [], .nil _⟩
    exact ⟨htrail, hs'⟩

theorem runs_play (s : Session σ κ) (h : s.Owned) (acts : List Act) :
    (∃ es, Trail Careful s.backend es (s.play acts).backend) ∧ (s.play acts).Owned := by
  induction acts generalizing s with
  | nil => exact ⟨⟨[], .nil _⟩, h⟩
  | cons act acts ih =>
    obtain ⟨⟨es, hes⟩, h'⟩ := runs_perform act s h
    obtain ⟨⟨es', hes'⟩, h''⟩ := ih _ h'
    exact ⟨⟨es ++ es', hes.append hes'⟩, h''⟩

end

/-! ## Behind a layer that refuses calls -/

variable {fe : Program.FrontEnd} {κ : Type} [ScriptCompiler κ]

/-- Whatever is refused and whatever the compiler answers: after every run of acts the
live objects are those that the cache and the two tables hold, each held once, and
whatever was destroyed was live when it was. After a release nothing is live. -/
theorem live_objects_are_held (limit : UInt32) (policy : Policy) (compiler : κ)
    (settings : Settings) {s₀ : Session (Faulty (Recorder fe)) κ}
    (h : (start ({ inner := { limit }, policy } : Faulty (Recorder fe)) compiler settings).1
      = .ok s₀) (acts : List Act) :
    let s := s₀.play acts
    let live := s.backend.inner.objects
    (Listed {t | live.textures.contains t} s.heldTextures ∧
      Listed {p | live.programs.contains p} s.heldPrograms ∧
      Listed {f | live.framebuffers.contains f} s.heldFramebuffers) ∧
    Trail Careful { inner := { limit }, policy } s.backend.journal s.backend ∧
    let left := (s₀.play (acts ++ [.release])).backend.inner.objects
    (∀ t, ¬ left.textures.contains t) ∧ (∀ p, ¬ left.programs.contains p) ∧
      ∀ f, ¬ left.framebuffers.contains f := by
  have hfresh : Balanced 0 0 0 ({ inner := { limit }, policy } : Faulty (Recorder fe)) :=
    balanced_fresh Objects.numbered_empty Objects.account_empty
  obtain ⟨⟨es₀, hes₀⟩, howned₀⟩ := runs_start hfresh h
  obtain ⟨⟨es, hes⟩, howned⟩ := runs_play s₀ howned₀ acts
  have htrail := (hes₀.mono fun _ _ _ => Behind.careful).append hes
  obtain ⟨-, hend, ht, hf, hp⟩ := runs_release (s₀.play acts) howned
  have hleft := hend.balanced
  rw [ht, hf, hp] at hleft
  refine ⟨⟨howned.balanced.textures, howned.balanced.programs, howned.balanced.framebuffers⟩,
    ?_, ?_⟩
  · have hjournal : (s₀.play acts).backend.journal = es₀ ++ es := htrail.journal_eq
    rw [hjournal]
    exact htrail
  · rw [play_append]
    exact ⟨hleft.textures.not_mem, hleft.programs.not_mem, hleft.framebuffers.not_mem⟩

/-- Finds no fault with any program, and refuses the first image. -/
def refusingImage : Faulty (Recorder fun _ => .ok ⟨[], []⟩) where
  inner := { limit := 16 }
  policy := fun calls _ call =>
    match call with
    | .createTexture .. => if calls.length < 10 then some {} else none
    | _ => none

/-- A script with one pass. -/
def onePass : Scripted LoadResult FrameResult (List ContextInput) where
  loads := .ofList [("a", ⟨[], [{ Present.desc with name := "wave" }], none⟩)]
  frames := []

def unheld : Session (Faulty (Recorder fun _ => .ok ⟨[], []⟩))
    (Scripted LoadResult FrameResult (List ContextInput)) :=
  fresh refusingImage onePass {}

/-- The second frame gets the image that the first one did not. -/
def twoFrames : List Act := [.load "a", .frame ⟨4, 4⟩ .zero, .frame ⟨4, 4⟩ .zero]

theorem live_objects_are_held_sample :
    let s := unheld.play twoFrames
    Listed {t | s.backend.inner.objects.textures.contains t} {⟨5⟩} ∧
      Listed {p | s.backend.inner.objects.programs.contains p} {⟨1⟩, ⟨3⟩} := by
  have hstart : (start refusingImage onePass {}).1 = .ok unheld := rfl
  obtain ⟨htextures, hprograms, -⟩ := (live_objects_are_held 16 _ _ _ hstart twoFrames).1
  have hheld : (unheld.play twoFrames).heldTextures = {⟨5⟩} ∧
      (unheld.play twoFrames).heldPrograms = {⟨1⟩, ⟨3⟩} := by decide +kernel
  rw [hheld.1] at htextures
  rw [hheld.2] at hprograms
  exact ⟨htextures, hprograms⟩

end Session
end FrameGraph
