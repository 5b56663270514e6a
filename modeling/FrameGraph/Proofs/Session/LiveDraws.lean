import FrameGraph.Proofs.Frame.Watching
import FrameGraph.Proofs.Session.Invariant
import FrameGraph.Proofs.Session.Ownership

/-!
# No draw uses what is not live

However a session is driven, whatever the layer in front of its backend refuses and whatever
the compiler answers: when a draw is recorded, its program, its framebuffer and its attachments
are live. So are the textures that its samplers read, if the pass declares all samplers of its
program, and either takes none of them for a uniform or no call before the draw was refused that
finds or sets one. A pass that takes a sampler for a uniform may have an invocation set it to any
unit; if the pass is then refused to set it back, it reads what that unit was left with.

Results:
* `clean_rebuild`: loading leaves all passes wired.
* `clean_perform`: every act keeps the session clean, by one lemma for each operation.
* `draws_use_live`: what the draws of a run use.
* `confused_sampler_reads_destroyed`: a pass that reads what was destroyed.
-/
namespace FrameGraph

open Gpu

/-! ## Building and requesting do not draw -/

section
variable {σ : Type} [Backend σ] [Accounting σ] {b : σ} {a : Answer} {call : Call a}

theorem Gpu.Building.plain {others : Multiset ProgramId} (h : Building others b call) :
    call.plain := by
  cases call <;> first | exact h.elim | trivial

theorem Gpu.Requesting.plain (h : Requesting b call) : call.plain := by
  cases call <;> first | exact h.elim | trivial

end

section
variable {fe : Program.FrontEnd} {w : Watch} {b b' : Faulty (Recorder fe)} {es : List Event}
  {C : Discipline (Faulty (Recorder fe))}

theorem Gpu.Trail.watched (h : Trail C b es b')
    (hC : ∀ b {a : Answer} (call : Call a), C b call → call.plain) (hb : Watched w b) :
    Watched w b' :=
  h.keeps (I := Watched w) (fun b _ call hcall hb => hb.plain call (hC b call hcall)) hb

theorem Gpu.Trail.wired {policy : Policy} {t : PassTable} (h : Trail C b es b')
    (hC : ∀ b {a : Answer} (call : Call a), C b call → call.plain) (hb : t.Wired fe policy b) :
    t.Wired fe policy b' :=
  h.keeps (I := fun b => t.Wired fe policy b)
    (fun b _ call hcall hb => hb.call call (hC b call hcall)) hb

/-- Nobody may draw. -/
def Watch.idle (policy : Policy) (cs : List Command) : Watch := ⟨policy, fun _ => False, cs⟩

/-- As long as nobody draws, the passes may change. -/
theorem Watched.of_idle {policy : Policy} {cs : List Command} {passes : Pass → Prop}
    (h : Watched (Watch.idle policy cs) b)
    (hwired : ∀ p, passes p → p.Wired fe policy b.history b.inner.objects)
    (hapart : ∀ p q, passes p → passes q → p.program = q.program → p = q) :
    Watched ⟨policy, passes, cs⟩ b := by
  refine ⟨h.policy, h.numbered, h.tallied, hwired, hapart, h.counted, ?_⟩
  obtain ⟨cs', hcs', hno⟩ := h.drawn
  refine ⟨cs', hcs', fun before d after heq => ?_⟩
  obtain ⟨_, -, hlive⟩ := hno before d after heq
  obtain ⟨p, hp, -⟩ := hlive.samplers
  exact hp.elim

/-- What is on record already is not looked at. -/
theorem Watched.from_now {policy : Policy} {cs : List Command} {passes passes' : Pass → Prop}
    (h : Watched ⟨policy, passes, cs⟩ b) (hpasses : ∀ p, passes' p → passes p) :
    Watched ⟨policy, passes', b.inner.commands⟩ b :=
  ⟨h.policy, h.numbered, h.tallied, fun p hp => h.wired p (hpasses p hp),
    fun p q hp hq => h.apart p q (hpasses p hp) (hpasses q hq), h.counted,
    ⟨[], (List.append_nil _).symm, fun _ _ _ heq => absurd heq (by simp)⟩⟩

end

namespace Session

section
variable {σ κ : Type} [Backend σ] [Accounting σ] {s : Session σ κ} {p q : Pass}

/-- A pass of the script, or one that shows the display image. -/
def Plays (s : Session σ κ) (p : Pass) : Prop :=
  (∃ name, s.passes.get? name = some p) ∨ ∃ name, s.present.get? name = some p

theorem Owned.mem_held (h : s.Owned) (hp : s.Plays p) :
    p ∈ s.passes.passes.held + s.present.passes.held := by
  rw [Multiset.mem_add, Dict.mem_held_iff h.passes.ordered, Dict.mem_held_iff h.present.ordered]
  exact hp

/-- No two passes of a session have the same program. -/
theorem Owned.eq_of_program (h : s.Owned) (hp : s.Plays p) (hq : s.Plays q)
    (hsame : p.program = q.program) : p = q := by
  have hnodup := h.balanced.programs.1
  rw [heldPrograms, PassTable.programs, PassTable.programs, ← Multiset.map_add] at hnodup
  exact Multiset.inj_on_of_nodup_map hnodup p (h.mem_held hp) q (h.mem_held hq) hsame

end

variable {fe : Program.FrontEnd} {κ α β : Type} {policy : Policy} {cs : List Command}
  {s s' : Session (Faulty (Recorder fe)) κ}

/-- What the session holds is in order, and its backend is watched for its passes. The pass
that shows the display image has one sampler. -/
structure Clean (policy : Policy) (cs : List Command) (s : Session (Faulty (Recorder fe)) κ) :
    Prop where
  owned : s.Owned
  watched : Watched ⟨policy, s.Plays, cs⟩ s.backend
  single : ∀ name p, s.present.get? name = some p → p.samplers.length = 1

namespace Clean

theorem cached (h : Clean policy cs s) (id : UInt32) (t : TextureId)
    (ht : s.cache.texture? id = some t) : s.backend.inner.objects.textures.contains t := by
  obtain ⟨image, himage, rfl⟩ := Option.map_eq_some_iff.1 ht
  have hmem : image.texture ∈ s.heldTextures :=
    Multiset.mem_map_of_mem _ ((Dict.mem_held_iff h.owned.images).2 ⟨id, himage⟩)
  exact (h.owned.balanced.textures.2 _).2 hmem

theorem stocked (h : Clean policy cs s) : Stocked ⟨policy, s.Plays, cs⟩ s.cache s.backend :=
  ⟨h.watched, h.cached⟩

/-- The state a session is in does not depend on its compiler, its variables and the like. -/
theorem congr (h : Clean policy cs s) (hbackend : s'.backend = s.backend)
    (hpasses : s'.passes = s.passes) (hpresent : s'.present = s.present)
    (hcache : s'.cache.images = s.cache.images) : Clean policy cs s' := by
  have hplays : s'.Plays = s.Plays := by
    funext p
    rw [Plays, Plays, hpasses, hpresent]
  refine ⟨?_, hplays.symm ▸ hbackend.symm ▸ h.watched, hpresent.symm ▸ h.single⟩
  exact (Holding.congr (s := s) ⟨h.owned, rfl⟩ hbackend hpasses hpresent hcache).1

/-- The acts before are done with. -/
theorem from_now (h : Clean policy cs s) : Clean policy s.backend.inner.commands s :=
  ⟨h.owned, h.watched.from_now fun _ hp => hp, h.single⟩

/-- Something is done on the backend that leaves what is held in order. -/
theorem onBackend {run : StateM (Faulty (Recorder fe)) α} (h : Clean policy cs s)
    (howned : (Session.onBackend run s).2.Owned)
    (hwatched : Watched ⟨policy, s.Plays, cs⟩ (run s.backend).2) :
    Clean policy cs (Session.onBackend run s).2 :=
  ⟨howned, hwatched, h.single⟩

end Clean

/-! ## Loading and releasing -/

/-- Once the passes are rebuilt they are wired, whichever of them fail. -/
theorem clean_rebuild (result : LoadResult) (h : Clean policy s.backend.inner.commands s) :
    Clean policy s.backend.inner.commands (rebuild result s).2 := by
  obtain ⟨⟨es, hes⟩, ⟨hretained, hget⟩, hb⟩ := PassTable.runs_retain h.owned.passes
    (result.shaders.map ShaderDesc.name) s.backend h.owned.balanced
  obtain ⟨⟨es', hes'⟩, -, -⟩ :=
    PassTable.runs_buildAll result.declarations result.shaders hretained _ hb
  have hpasses : s.passes.Wired fe policy s.backend :=
    ⟨h.watched.policy, fun name p hp => h.watched.wired p (.inl ⟨name, hp⟩)⟩
  have hpresent : s.present.Wired fe policy s.backend :=
    ⟨h.watched.policy, fun name p hp => h.watched.wired p (.inr ⟨name, hp⟩)⟩
  have hidle : Watched (Watch.idle policy s.backend.inner.commands) s.backend :=
    h.watched.from_now fun _ hp => hp.elim
  have hplain : ∀ (b : Faulty (Recorder fe)) {a : Answer} (call : Call a),
      Building s.present.programs b call → call.plain := fun _ _ _ => Building.plain
  -- what is kept is wired, and what is built besides is
  have hkept := hes.wired hplain hpasses
  have hbuilt := PassTable.wired_buildAll result.declarations result.shaders
    (t := (s.passes.retain (result.shaders.map ShaderDesc.name) s.backend).1)
    ⟨hkept.1, fun name p hp => by
      rw [hget] at hp
      split at hp
      · exact hkept.2 name p hp
      · cases hp⟩
  have htrail := hes.append hes'
  have howned : (rebuild result s).2.Owned := (runs_rebuild result s ⟨h.owned, rfl⟩).2.1
  refine ⟨howned, (htrail.watched hplain hidle).of_idle ?_ fun _ _ => howned.eq_of_program,
    h.single⟩
  rintro p (⟨name, hp⟩ | ⟨name, hp⟩)
  · exact hbuilt.2 name p hp
  · exact (htrail.wired hplain hpresent).2 name p hp

/-- A release does not draw, and leaves no pass. -/
theorem clean_release (h : Clean policy s.backend.inner.commands s) :
    Clean policy s.backend.inner.commands (release s).2 := by
  obtain ⟨_, _, _, _, _, hpasses, hpresent, himages, hb⟩ := release_trails h.owned
  have hidle : Watched (Watch.idle policy s.backend.inner.commands) s.backend :=
    h.watched.from_now fun _ hp => hp.elim
  have hreleased := himages.watched (fun _ _ _ => Requesting.plain)
    (hpresent.watched (fun _ _ _ => Building.plain)
      (hpasses.watched (fun _ _ _ => Building.plain) hidle))
  have hnone (p : Pass) : ¬ (release s).2.Plays p := by
    rintro (⟨_, hp⟩ | ⟨_, hp⟩) <;> cases hp
  refine ⟨(runs_release s h.owned).2.1, ?_, fun _ _ hp => by cases hp⟩
  exact hreleased.of_idle (fun p hp => (hnone p hp).elim) fun p _ hp => (hnone p hp).elim

/-! ## Frames -/

/-- The computation keeps the session clean, whatever was drawn before. -/
abbrev StaysClean (fe : Program.FrontEnd) (κ : Type) (policy : Policy) (cs : List Command)
    {α : Type} (m : StateM (Session (Faulty (Recorder fe)) κ) α) : Prop :=
  Keeps (Clean policy cs) m

/-- One call that creates and destroys nothing, sets no uniform and does not draw. -/
theorem clean_call {a : Answer} (call : Call a) (hkeeps : call.keepsObjects)
    (hplain : call.plain) : StaysClean fe κ policy cs (onBackend (Backend.perform call)) :=
  fun s h => h.onBackend
    (runs_call (C := fun _ _ _ => True) call hkeeps (fun _ => trivial) s ⟨h.owned, rfl⟩).2.1
    (h.watched.plain call hplain)

theorem clean_modify {f : Session (Faulty (Recorder fe)) κ → Session (Faulty (Recorder fe)) κ}
    (hf : ∀ s, (f s).backend = s.backend ∧ (f s).passes = s.passes ∧ (f s).present = s.present ∧
      (f s).cache.images = s.cache.images) : StaysClean fe κ policy cs (modify f) :=
  fun s h => h.congr (hf s).1 (hf s).2.1 (hf s).2.2.1 (hf s).2.2.2

theorem clean_onCompiler (run : StateM κ α) : StaysClean fe κ policy cs (onCompiler run) :=
  fun _ h => h.congr rfl rfl rfl rfl

theorem clean_resize (size : Extent) : StaysClean fe κ policy cs (resize size) := by
  refine .bind .get fun s => ?_
  split
  · exact .pure ()
  · refine .bind (clean_call (.resizeSurface size) trivial trivial) fun answer => ?_
    cases answer with
    | ok _ => exact clean_modify fun _ => ⟨rfl, rfl, rfl, rfl⟩
    | error e => exact .pure ()

theorem clean_openFrame (size : Extent) : StaysClean fe κ policy cs (openFrame size) := by
  refine .bind (clean_resize size) fun _ => ?_
  refine .bind (clean_call (.bindFramebuffer none) trivial trivial) fun _ => ?_
  exact .bind .get fun s => clean_call (.clear s.settings.clearColor) trivial trivial

theorem clean_requestImage (r : ImageRequest) :
    StaysClean fe κ policy cs (requestImage r) := by
  intro s h
  obtain ⟨-, howned, -⟩ := runs_requestImage r s ⟨h.owned, rfl⟩
  have hbal : Balanced (s.cache.textures + 0) s.heldFramebuffers s.heldPrograms s.backend := by
    rw [Multiset.add_zero]
    exact h.owned.balanced
  obtain ⟨⟨es, hes⟩, -⟩ := ImageCache.runs_request h.owned.images r s.backend hbal
  rw [requestImage_snd] at howned ⊢
  exact ⟨howned, hes.watched (fun _ _ _ => Requesting.plain) h.watched, h.single⟩

theorem clean_meet (r : ContextRequest) : StaysClean fe κ policy cs (meet r) := by
  unfold meet
  split
  · next image _ => exact clean_requestImage image
  · exact .bind (clean_modify fun _ => ⟨rfl, rfl, rfl, rfl⟩) fun _ => .pure _

theorem clean_meetAll (rs : List ContextRequest) : StaysClean fe κ policy cs (meetAll rs) := by
  induction rs with
  | nil => exact .pure _
  | cons r rs ih => exact .bind (clean_meet r) fun _ => .bind ih fun _ => .pure _

/-- The invocations of a frame draw with the passes of the session and the images it has. -/
theorem clean_invokeAll (is : List Invocation) (report : FrameReport) :
    StaysClean fe κ policy cs (do
      let s ← get
      onBackend (invokeAll s.passes s.cache is report)) := by
  intro s h
  have hruns := (runs_invokeAll (σ := Faulty (Recorder fe)) s.passes s.cache is report)
  obtain ⟨-, howned, -⟩ := Holding.run ⟨h.owned, rfl⟩ hruns fun _ _ _ => Drawing.keepsObjects
  exact h.onBackend howned
    (stocked_invokeAll h.stocked (fun name p hp => .inl ⟨name, hp⟩) is report).toWatched

theorem clean_renderFrame (size : Extent) (frame : FrameResult) :
    StaysClean fe κ policy cs (renderFrame size frame) := by
  refine .bind (clean_modify fun _ => ⟨rfl, rfl, rfl, rfl⟩) fun _ => ?_
  refine .bind .get fun s => .bind (clean_requestImage (s.displayRequest size)) fun display => ?_
  exact .bind (clean_meetAll frame.requests) fun others => clean_invokeAll _ _

theorem clean_presentDisplay : StaysClean fe κ policy cs presentDisplay := by
  intro s h
  unfold presentDisplay
  simp only [run_bind, run_get]
  cases hdisplay : s.cache.texture? ImageCache.displayId with
  | none => exact h
  | some display =>
    cases hpass : s.present.get? Present.passName with
    | none => exact h
    | some pass =>
      have hruns := Present.runs_composite (σ := Faulty (Recorder fe)) pass display
      obtain ⟨-, howned, -⟩ := Holding.run ⟨h.owned, rfl⟩ hruns fun _ _ _ => Showing.keepsObjects
      exact h.onBackend howned
        (Present.stocked_composite h.stocked (.inr ⟨_, hpass⟩) (h.single _ _ hpass)
          hdisplay).toWatched

theorem clean_closeFrame : StaysClean fe κ policy cs closeFrame :=
  .bind clean_presentDisplay fun _ => clean_call .endFrame trivial trivial

variable [ScriptCompiler κ]

theorem clean_runFrame (size : Extent) (time : Single) :
    StaysClean fe κ policy cs (runFrame size time) := by
  refine .bind .get fun s => ?_
  split
  · exact .pure _
  · rw [runReady_eq]
    refine .bind (clean_openFrame size.atLeastOne) fun _ => .bind .get fun s => ?_
    refine .bind (clean_onCompiler _) fun frame => ?_
    split
    · exact .bind clean_closeFrame fun _ => .pure _
    · exact .bind (clean_renderFrame size.atLeastOne frame) fun report =>
        .bind clean_closeFrame fun _ => .pure _

theorem framing_clean : Framing (@Clean fe κ policy cs) where
  frame := clean_runFrame
  read := clean_call .readSurface trivial trivial
  restore s _ := by
    cases s.surfaceSize with
    | none => exact .pure ()
    | some size => exact clean_resize size
  notes _ _ _ _ h := h.congr rfl rfl rfl rfl

/-! ## Everything a host can do -/

theorem clean_loadScript (script : String) (h : Clean policy s.backend.inner.commands s) :
    Clean policy s.backend.inner.commands (loadScript script s).2 := by
  let loaded := ScriptCompiler.load script s.compiler
  simp only [loadScript, run_bind, run_onCompiler]
  cases loaded.1.error with
  | some d => exact h.congr rfl rfl rfl rfl
  | none =>
    have hrebuilt := clean_rebuild loaded.1 (s := { s with compiler := loaded.2 })
      (h.congr rfl rfl rfl rfl)
    simp only [run_bind]
    cases (rebuild loaded.1 { s with compiler := loaded.2 }).1 with
    | nil => exact hrebuilt.congr rfl rfl rfl rfl
    | cons e es => exact hrebuilt

theorem clean_loadNewest (h : Clean policy s.backend.inner.commands s) :
    Clean policy s.backend.inner.commands (loadNewest s).2 := by
  have hbackend : (takeScript s).2.backend = s.backend := by
    unfold takeScript
    split <;> rfl
  have htaken := framing_clean.takeScript s h
  rw [← hbackend] at htaken ⊢
  simp only [loadNewest, run_bind]
  cases (takeScript s).1 with
  | none => exact htaken
  | some script => exact clean_loadScript script htaken

theorem clean_tick (size : Extent) (time : Single) (h : Clean policy s.backend.inner.commands s) :
    Clean policy s.backend.inner.commands (tick size time s).2 := by
  rw [tick_eq]
  have hpictured := framing_clean.pictureLoad (loadNewest s).1 time _ (clean_loadNewest h)
  exact clean_runFrame size time _ hpictured

/-- No act makes a draw that uses what is not live. -/
theorem clean_perform (act : Act) (h : Clean policy s.backend.inner.commands s) :
    Clean policy s.backend.inner.commands (act.perform s).2 := by
  cases act with
  | load script => exact clean_loadScript script h
  | frame size time => exact clean_runFrame size time s h
  | tick size time => exact clean_tick size time h
  | capture size time => exact framing_clean.capture size time s h
  | captureDefault time => exact framing_clean.captureDefault time s h
  | setValue name value => exact h.congr rfl rfl rfl rfl
  | attachInbox => exact h.congr rfl rfl rfl rfl
  | send script => exact framing_clean.send script s h
  | release => exact clean_release h

/-! ## Runs -/

section
omit [ScriptCompiler κ]

/-- The pass that shows the display image has its one sampler. -/
theorem single_fresh (b : Faulty (Recorder fe)) (compiler : κ) (settings : Settings)
    (name : String) (p : Pass) (hp : (fresh b compiler settings).present.get? name = some p) :
    p.samplers.length = 1 := by
  rcases PassTable.build_table (t := .empty) Present.desc [] b rfl with
    htable | ⟨source, program, framebuffer, uniforms, b', htable⟩ <;>
    simp only [fresh, htable, PassTable.get?_put] at hp
  · cases hp
  · split at hp
    · cases hp
      exact PassTable.length_locations _ _ _
    · cases hp

/-- Nothing is drawn when a session starts. -/
theorem watched_start {limit : UInt32} {compiler : κ} {settings : Settings}
    (h : (start ({ inner := { limit }, policy } : Faulty (Recorder fe)) compiler settings).1
      = .ok s) : Watched (Watch.idle policy []) s.backend := by
  let b : Faulty (Recorder fe) := { inner := { limit }, policy }
  have hidle : Watched (Watch.idle policy []) b :=
    ⟨rfl, Objects.numbered_empty, Recorder.tallied_empty, fun _ hp => hp.elim,
      fun _ _ hp => hp.elim, rfl, [], rfl, fun _ _ _ heq => absurd heq (by simp)⟩
  have hnone : Balanced 0 (PassTable.empty.framebuffers + 0) (PassTable.empty.programs + 0) b := by
    simpa using balanced_fresh Objects.numbered_empty Objects.account_empty
  obtain ⟨⟨es, hes⟩, -⟩ := PassTable.runs_build PassTable.filed_empty Present.desc [] b hnone
  obtain ⟨rfl, -⟩ := start_ok h
  exact hes.watched (fun _ _ _ => Building.plain) hidle

theorem clean_start {limit : UInt32} {compiler : κ} {settings : Settings}
    (h : (start ({ inner := { limit }, policy } : Faulty (Recorder fe)) compiler settings).1
      = .ok s) : Clean policy [] s := by
  let b : Faulty (Recorder fe) := { inner := { limit }, policy }
  have howned := (runs_start (balanced_fresh Objects.numbered_empty Objects.account_empty) h).2
  have hempty : PassTable.empty.Wired fe policy b := ⟨rfl, fun _ _ hp => by cases hp⟩
  have hwatched := watched_start h
  obtain ⟨rfl, -⟩ := start_ok h
  refine ⟨howned, hwatched.of_idle ?_ fun _ _ => howned.eq_of_program,
    single_fresh b compiler settings⟩
  rintro p (⟨name, hp⟩ | ⟨name, hp⟩)
  · cases hp
  · exact (PassTable.wired_build hempty Present.desc []).2 name p hp

end

theorem clean_play (h : Clean policy s.backend.inner.commands s) (acts : List Act) :
    Clean policy (s.play acts).backend.inner.commands (s.play acts) := by
  induction acts generalizing s with
  | nil => exact h
  | cons act acts ih => exact ih (clean_perform act h).from_now

/-- After these calls, the act puts this draw on record, behind what is there `before`. -/
structure Draws (s : Session (Faulty (Recorder fe)) κ) (act : Act) (calls : List Event)
    (before : List Command) (d : Draw) : Prop where
  since : s.backend.inner.commands <+: before
  recorded : before ++ [.draw d] <+: (act.perform s).2.backend.inner.commands
  called : CallsBefore (act.perform s).2.backend.history calls before

/-- Whatever is refused and whatever the compiler answers: every draw on record was made by one
of the acts, with one of the passes that the session has after it, and when it was recorded it
used what was live. What was refused after it does not matter. -/
theorem draws_use_live (limit : UInt32) (policy : Policy) (compiler : κ)
    (settings : Settings) {s₀ : Session (Faulty (Recorder fe)) κ}
    (h : (start ({ inner := { limit }, policy } : Faulty (Recorder fe)) compiler settings).1
      = .ok s₀) (acts : List Act) {before after : List Command} {d : Draw}
    (hdraw : (s₀.play acts).backend.inner.commands = before ++ .draw d :: after) :
    ∃ acts' act rest calls, acts = acts' ++ act :: rest ∧
      (s₀.play acts').Draws act calls before d ∧
      d.UsesLive fe policy calls (act.perform (s₀.play acts')).2.Plays
        (Live.ofRecord before) := by
  induction acts using List.reverseRecOn generalizing after with
  | nil =>
    obtain ⟨cs, hcs, hno⟩ := (watched_start h).drawn
    obtain ⟨_, -, hlive⟩ := hno before d after (hcs.symm.trans hdraw)
    obtain ⟨p, hp, -⟩ := hlive.samplers
    exact hp.elim
  | append_singleton acts act ih =>
    rw [play_append] at hdraw
    have hclean := clean_perform act (clean_play (clean_start h).from_now acts)
    obtain ⟨cs, hcs, hlive⟩ := hclean.watched.drawn
    have hparts := hcs.symm.trans hdraw
    rcases append_eq_append_cons hparts with ⟨rest, hold⟩ | ⟨before', rfl, hnew⟩
    · obtain ⟨acts', act', rest', calls, rfl, hdraws⟩ := ih hold
      exact ⟨acts', act', rest' ++ [act], calls, by simp, hdraws⟩
    · obtain ⟨calls, hcalls, hlive⟩ := hlive before' d after hnew
      refine ⟨acts, act, [], calls, rfl, ⟨List.prefix_append _ _, ?_, hcalls⟩, hlive⟩
      exact ⟨after, by rw [List.append_assoc]; exact hdraw.symm⟩

/-- A list taken apart at one of its elements. -/
theorem eq_take_cons_drop {α : Type} {l : List α} {n : Nat} {x : α} (h : l[n]? = some x) :
    l = l.take n ++ x :: l.drop (n + 1) := by
  obtain ⟨hlt, rfl⟩ := List.getElem?_eq_some_iff.1 h
  rw [List.getElem_cons_drop, List.take_append_drop]

namespace Confusing

/-- A pass with two samplers. -/
def wide : ShaderDesc where
  name := "wide"
  includes := []
  uniforms := []
  samplers := [⟨"tex", "sampler2D"⟩, ⟨"other", "sampler2D"⟩]
  outputs := [⟨"out_color", "vec4"⟩]
  body := ⟨"out_color = texture(tex, vec2(0.0));", 2⟩
  blendMode := .overwrite

/-- A pass with one sampler, and a uniform that has its name. In the text of the program the
uniform has another one, as its own is behind a comment there. -/
def odd : ShaderDesc :=
  { wide with
    name := "odd"
    uniforms := [⟨"tex", "vec4 real; //"⟩]
    samplers := [⟨"tex", "sampler2D"⟩] }

/-- What is found in the program of that pass. -/
def layout : Program.Layout where
  uniforms := [⟨"real", 0⟩]
  blockSize := 16
  samplers := [⟨"tex", 0, 1⟩]

/-- Finds the same in every program. -/
def finding : Program.FrontEnd := fun _ =>
  .ok ⟨[⟨none, .uniform, some ⟨0, 0⟩, .block [⟨some "real", 0, none⟩] 16⟩,
    ⟨some "tex_texture", .handle, some ⟨1, 0⟩, .image⟩], []⟩

/-- The first frame reads an image with the one pass. The second frame asks for another size of
it and reads it with the other pass, whose uniform it sets. -/
def script : Scripted LoadResult FrameResult (List ContextInput) where
  loads := .ofList [("a", ⟨[], [wide, odd], none⟩)]
  frames :=
    [⟨[.cachedImage ⟨1, .rgba8, ⟨4, 4⟩, .cached⟩], [⟨"wide", [], [⟨1⟩, ⟨1⟩], [⟨0⟩]⟩], none⟩,
      ⟨[.cachedImage ⟨1, .rgba8, ⟨8, 8⟩, .cached⟩],
        [⟨"odd", [some (.int 1)], [⟨1⟩], [⟨0⟩]⟩], none⟩]

/-- Refuses all values but the first three. -/
def refusing : Policy := Rule.policy [⟨"set_uniform", 3, {}⟩]

def started :
    Session (Faulty (Recorder finding)) (Scripted LoadResult FrameResult (List ContextInput)) :=
  fresh { inner := { limit := 16 }, policy := refusing } script {}

def acts : List Act := [.load "a", .frame ⟨4, 4⟩ .zero, .frame ⟨4, 4⟩ .zero]

/-- What is on record in the end. -/
def recorded : List Command := (started.play acts).backend.inner.commands

/-- What the first frame draws. -/
def first : Draw where
  program := ⟨3⟩
  framebuffer := some ⟨4⟩
  attachments := [(0, ⟨7⟩)]
  viewport := ⟨4, 4⟩
  blend := BlendMode.overwrite.state
  samplers := [some ⟨8⟩]
  uniforms := ⟨[(1, .int 0)]⟩

/-- What the second frame draws: unit 1 has the image of the first size still, which is gone. -/
def second : Draw :=
  { first with program := ⟨5⟩, framebuffer := some ⟨6⟩, uniforms := ⟨[(1, .int 1)]⟩ }

end Confusing

open Confusing in
theorem draws_use_live_sample :
    recorded = recorded.take 10 ++ .draw first :: recorded.drop 11 ∧
      ∃ acts' act rest calls, acts = acts' ++ act :: rest ∧
        (started.play acts').Draws act calls (recorded.take 10) first ∧
        first.UsesLive finding refusing calls (act.perform (started.play acts')).2.Plays
          (Live.ofRecord (recorded.take 10)) := by
  have hstart : (start ({ inner := { limit := 16 }, policy := refusing } :
      Faulty (Recorder finding)) script {}).1 = .ok started := rfl
  have hdraw : recorded = recorded.take 10 ++ .draw first :: recorded.drop 11 :=
    eq_take_cons_drop (by decide +kernel)
  exact ⟨hdraw, draws_use_live 16 refusing script {} hstart acts hdraw⟩

open Confusing in
theorem confused_sampler_reads_destroyed :
    (start ({ inner := { limit := 16 }, policy := refusing } : Faulty (Recorder finding)) script
        {}).1 = .ok started ∧
      recorded = recorded.take 16 ++ .draw second :: recorded.drop 17 ∧
      (∃ pass, (started.play acts).passes.get? "odd" = some pass ∧
        pass.program = second.program ∧ pass.From finding odd [] layout) ∧
      layout.samplers.map Program.SamplerSlot.name = odd.samplers.map TypedName.name ∧
      some ⟨8⟩ ∈ second.samplers ∧ ⟨8⟩ ∉ (Live.ofRecord (recorded.take 16)).textures := by
  have hdraw : recorded = recorded.take 16 ++ .draw second :: recorded.drop 17 :=
    eq_take_cons_drop (by decide +kernel)
  have hpass : (started.play acts).passes.get? "odd" = some (.make odd
      (Source.assemble odd []).text ⟨5⟩ ⟨6⟩ [some ⟨1⟩] [some ⟨1⟩]) := by
    decide +kernel
  refine ⟨rfl, hdraw, ⟨_, hpass, rfl, rfl, rfl, ?_, ?_, ?_⟩, rfl, ?_, ?_⟩
  all_goals decide +kernel

end Session
end FrameGraph
