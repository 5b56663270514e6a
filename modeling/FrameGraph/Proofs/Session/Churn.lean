import FrameGraph.Proofs.Session.Ownership

/-!
# Frames that ask for the same images

A frame requests the display image at the size of the surface, and then what the script
asks for, in order. If the next frame asks for the same, an image that is always requested
in one format and size keeps its texture. An image that one frame requests in two is made
anew for each of them, in every frame.

Results:
* `meetAll_serves`: what the requests of a frame leave in the cache.
* `meetAll_journal`: requests create and destroy no texture exactly if the cache serves
  all of them.
* `repeated_frame_keeps_images`: which images and textures a second frame keeps.
* `image_of_two_sizes_churns`: a script whose every frame destroys and creates textures.
-/
namespace FrameGraph

open Gpu

/-- A call that neither creates nor destroys a texture. -/
def Gpu.Call.keepsTextures : {a : Answer} → Call a → Prop
  | _, createTexture .. | _, destroyTexture .. => False
  | _, _ => True

theorem Gpu.Call.keepsObjects.keepsTextures {a : Answer} {call : Call a} (h : call.keepsObjects) :
    call.keepsTextures := by
  cases call <;> first | exact h.elim | trivial

/-- Textures are left alone. -/
def Gpu.Still {σ : Type} (_ : σ) {a : Answer} (call : Call a) : Prop := call.keepsTextures

/-- The images that requests are for. -/
def ContextRequest.images (rs : List ContextRequest) : List ImageRequest :=
  rs.filterMap ContextRequest.image?

namespace ImageCache

/-- All requests for this image ask for the same format and size. -/
def Agreed (rs : List ImageRequest) (id : UInt32) : Prop :=
  ∀ r ∈ rs, ∀ r' ∈ rs, r.id = id → r'.id = id → r.format = r'.format ∧ r.size = r'.size

theorem Serves.congr {c c' : ImageCache} {r : ImageRequest} (h : c'.get? r.id = c.get? r.id) :
    c'.Serves r ↔ c.Serves r := by
  rw [Serves, Serves, h]

theorem Serves.of_agreed {c : ImageCache} {rs : List ImageRequest} {id : UInt32}
    (hagreed : Agreed rs id) {r r' : ImageRequest} (hr : r ∈ rs) (hid : r.id = id)
    (h : c.Serves r) (hr' : r' ∈ rs) (hid' : r'.id = id) : c.Serves r' := by
  obtain ⟨image, hget, hformat, hsize⟩ := h
  obtain ⟨hf, hs⟩ := hagreed r hr r' hr' hid hid'
  exact ⟨image, by rw [hid', ← hid]; exact hget, hformat.trans hf, hsize.trans hs⟩

/-- Requests that one cache serves agree. -/
theorem agreed_of_serves {c : ImageCache} {rs : List ImageRequest}
    (h : ∀ r ∈ rs, c.Serves r) (id : UInt32) : Agreed rs id := by
  intro r hr r' hr' hid hid'
  obtain ⟨image, hget, hformat, hsize⟩ := h r hr
  obtain ⟨image', hget', hformat', hsize'⟩ := h r' hr'
  rw [hid] at hget
  rw [hid', hget] at hget'
  cases hget'
  exact ⟨hformat.symm.trans hformat', hsize.symm.trans hsize'⟩

variable {σ : Type} [Backend σ]

theorem journal_cleared (c : ImageCache) (r : ImageRequest) (f : Faulty σ) :
    ∃ es, (c.cleared r f).journal = f.journal ++ es := by
  unfold cleared
  split
  · next image _ => exact ⟨_, Faulty.journal_perform (.destroyTexture image.texture) f⟩
  · exact ⟨[], (List.append_nil _).symm⟩

/-- A request leaves textures alone exactly if the cache serves it. -/
theorem Requested.journal {c c' : ImageCache} {r : ImageRequest} {f f' : Faulty σ}
    {answer : Except ResourceError TextureId} (h : Requested c r f answer c' f') :
    ∃ es, f'.journal = f.journal ++ es ∧ ((∀ e ∈ es, e.call.keepsTextures) ↔ c.Serves r) := by
  -- a texture is asked for, whatever the answer is
  have hmade : ∀ made : Except Error TextureId × Faulty σ, ¬ c.Serves r →
      createTexture r.format r.size (c.cleared r f) = made →
      ∃ es, made.2.journal = f.journal ++ es ∧
        ((∀ e ∈ es, e.call.keepsTextures) ↔ c.Serves r) := by
    rintro made hnot rfl
    obtain ⟨es, hes⟩ := c.journal_cleared r f
    have hcreate := Faulty.journal_perform (.createTexture r.format r.size) (c.cleared r f)
    refine ⟨es ++ [_], by rw [← List.append_assoc, ← hes]; exact hcreate, fun hall => ?_,
      fun hserves => absurd hserves hnot⟩
    exact (hall _ (List.mem_append_right _ (List.mem_singleton_self _))).elim
  cases h with
  | kept image found same =>
    refine ⟨[], (List.append_nil _).symm, fun _ => ⟨image, found, same⟩, fun _ e he => ?_⟩
    cases he
  | created _ _ other made => exact hmade _ other made
  | refused _ _ other made => exact hmade _ other made

end ImageCache

namespace Session

variable {σ κ : Type} [Backend σ]

/-! ## Meeting requests -/

theorem meet_image {r : ContextRequest} {image : ImageRequest} (h : r.image? = some image)
    (s : Session σ κ) : meet r s = requestImage image s := by
  rw [meet, h]

/-- A variable is no matter of the backend or the cache. -/
theorem meet_variable {r : ContextRequest} (h : r.image? = none) (s : Session σ κ) :
    (meet r s).1 = [] ∧ (meet r s).2.cache = s.cache ∧ (meet r s).2.backend = s.backend := by
  rw [meet, h]
  exact ⟨rfl, rfl, rfl⟩

theorem requestImage_fst (r : ImageRequest) (s : Session σ κ) :
    (requestImage r s).1 = match (s.cache.request r s.backend).1.1 with
      | .ok _ => []
      | .error e => [e] := by
  simp only [requestImage, run_bind, run_get, run_onBackend, run_modify]
  cases (s.cache.request r s.backend).1.1 <;> rfl

/-- Meeting a request touches the backend and the cache, or the variables and what is left
for the next frame. -/
theorem meet_fields (r : ContextRequest) (s : Session σ κ) :
    (meet r s).2 = { s with
      backend := (meet r s).2.backend, cache := (meet r s).2.cache
      context := (meet r s).2.context, pending := (meet r s).2.pending } := by
  cases h : r.image? with
  | some image => rw [meet_image h, requestImage_snd]
  | none =>
    rw [meet, h]
    rfl

theorem meetAll_fields (rs : List ContextRequest) (s : Session σ κ) :
    (meetAll rs s).2 = { s with
      backend := (meetAll rs s).2.backend, cache := (meetAll rs s).2.cache
      context := (meetAll rs s).2.context, pending := (meetAll rs s).2.pending } := by
  induction rs generalizing s with
  | nil => rfl
  | cons r rs ih =>
    have hrest := ih (meet r s).2
    have hfirst := meet_fields r s
    show (meetAll rs (meet r s).2).2 = { s with
      backend := (meetAll rs (meet r s).2).2.backend, cache := (meetAll rs (meet r s).2).2.cache
      context := (meetAll rs (meet r s).2).2.context
      pending := (meetAll rs (meet r s).2).2.pending }
    generalize (meet r s).2 = t at hrest hfirst ⊢
    rw [hrest, hfirst]

/-- Requests that all succeed leave their images in the cache: an image that is requested
serves some request for it. -/
theorem meetAll_serves (rs : List ContextRequest) (s : Session σ κ) (h : (meetAll rs s).1 = [])
    (id : UInt32) :
    ((∀ r ∈ ContextRequest.images rs, r.id ≠ id) ∧
        (meetAll rs s).2.cache.get? id = s.cache.get? id) ∨
      ∃ r ∈ ContextRequest.images rs, r.id = id ∧ (meetAll rs s).2.cache.Serves r := by
  induction rs generalizing s with
  | nil => exact .inl ⟨fun r hr => (List.not_mem_nil hr).elim, rfl⟩
  | cons r rs ih =>
    obtain ⟨hhead, htail⟩ := List.append_eq_nil_iff.1 (show (meet r s).1 ++ _ = [] from h)
    have hrest := ih (meet r s).2 htail
    cases himage : r.image? with
    | none =>
      rw [(meet_variable himage s).2.1] at hrest
      rw [ContextRequest.images, List.filterMap_cons_none himage]
      exact hrest
    | some image =>
      rw [ContextRequest.images, List.filterMap_cons_some himage]
      rcases hrest with ⟨hother, hget⟩ | ⟨r', hr', hid, hserves⟩
      · have hreq := ImageCache.requested s.cache image s.backend
        rw [meet_image himage, requestImage_snd] at hget
        by_cases hid : image.id = id
        · have hok : ∃ t, (s.cache.request image s.backend).1.1 = .ok t := by
            rw [meet_image himage, requestImage_fst] at hhead
            split at hhead
            · next t ht => exact ⟨t, ht⟩
            · cases hhead
          refine .inr ⟨image, List.mem_cons_self, hid, ?_⟩
          subst hid
          exact (ImageCache.Serves.congr (by
            show (meetAll rs (meet r s).2).2.cache.get? _ = _
            rw [meet_image himage, requestImage_snd]
            exact hget)).2 (hreq.serves_of_ok hok)
        · refine .inl ⟨fun r' hr' => ?_, ?_⟩
          · rcases List.mem_cons.1 hr' with rfl | hr'
            · exact hid
            · exact hother r' hr'
          · show (meetAll rs (meet r s).2).2.cache.get? id = _
            rw [meet_image himage, requestImage_snd, hget]
            exact hreq.get?_of_ne (Ne.symm hid)
      · exact .inr ⟨r', List.mem_cons_of_mem _ hr', hid, hserves⟩

/-- An image that serves all requests for it is left as it is. -/
theorem meetAll_kept (rs : List ContextRequest) (s : Session σ κ) {id : UInt32}
    (h : ∀ r ∈ ContextRequest.images rs, r.id = id → s.cache.Serves r) :
    (meetAll rs s).2.cache.get? id = s.cache.get? id := by
  induction rs generalizing s with
  | nil => rfl
  | cons r rs ih =>
    -- the image is the same after the first request, so it serves the others as before
    have hget : (meet r s).2.cache.get? id = s.cache.get? id := by
      cases himage : r.image? with
      | none => rw [(meet_variable himage s).2.1]
      | some image =>
        rw [ContextRequest.images, List.filterMap_cons_some himage] at h
        have hreq := ImageCache.requested s.cache image s.backend
        rw [meet_image himage, requestImage_snd]
        by_cases hid : image.id = id
        · exact (hreq.eq_kept (h image List.mem_cons_self hid)).1 id
        · exact hreq.get?_of_ne (Ne.symm hid)
    refine (ih (meet r s).2 fun r' hr' hid => ?_).trans hget
    have hmem : r' ∈ ContextRequest.images (r :: rs) := by
      rw [ContextRequest.images, List.filterMap_cons]
      split
      · exact hr'
      · exact List.mem_cons_of_mem _ hr'
    exact (ImageCache.Serves.congr (hid ▸ hget)).2 (h r' hmem hid)

/-- Requests leave textures alone exactly if the cache serves all of them. -/
theorem meetAll_journal {σ κ : Type} [Backend σ] (rs : List ContextRequest)
    (s : Session (Faulty σ) κ) :
    ∃ es, (meetAll rs s).2.backend.journal = s.backend.journal ++ es ∧
      ((∀ e ∈ es, e.call.keepsTextures) ↔
        ∀ r ∈ ContextRequest.images rs, s.cache.Serves r) := by
  induction rs generalizing s with
  | nil =>
    refine ⟨[], (List.append_nil _).symm, ?_⟩
    simp [ContextRequest.images]
  | cons r rs ih =>
    obtain ⟨es, hes, hiff⟩ := ih (meet r s).2
    cases himage : r.image? with
    | none =>
      obtain ⟨-, hcache, hbackend⟩ := meet_variable himage s
      rw [hcache] at hiff
      rw [hbackend] at hes
      rw [ContextRequest.images, List.filterMap_cons_none himage]
      exact ⟨es, hes, hiff⟩
    | some image =>
      have hreq := ImageCache.requested s.cache image s.backend
      obtain ⟨es₁, hes₁, hiff₁⟩ := hreq.journal
      have hmeet : (meet r s).2.backend.journal = s.backend.journal ++ es₁ := by
        rw [meet_image himage, requestImage_snd]
        exact hes₁
      rw [ContextRequest.images, List.filterMap_cons_some himage]
      refine ⟨es₁ ++ es, by rw [← List.append_assoc, ← hmeet]; exact hes, ?_⟩
      rw [List.forall_mem_append, List.forall_mem_cons, hiff₁, hiff]
      refine and_congr_right fun hserves => forall₂_congr fun r' _ => ?_
      refine ImageCache.Serves.congr ?_
      rw [meet_image himage, requestImage_snd]
      exact (hreq.eq_kept hserves).1 r'.id

/-! ## Frames -/

/-- What a frame requests: first the display image, then what the script asks for. -/
def frameRequests (s : Session σ κ) (size : Extent) (frame : FrameResult) :
    List ContextRequest :=
  .cachedImage (s.displayRequest size) :: frame.requests

variable [ScriptCompiler κ]

/-- The images that a frame requests, the display image first. -/
def frameImages (s : Session σ κ) (size : Extent) (time : Single) : List ImageRequest :=
  ContextRequest.images (s.frameRequests size (s.evaluation size time).1)

/-- The session before the requests of a frame are met. -/
def begun (s : Session σ κ) (size : Extent) (time : Single) : Session σ κ :=
  { s.evaluated size time with
    context := (s.evaluated size time).context.beginFrame
    cache := (s.evaluated size time).cache.startFrame
    pending := [] }

/-- What the requests of a frame fail with, and the session when they are met. -/
def fetched (s : Session σ κ) (size : Extent) (time : Single) :
    List ResourceError × Session σ κ :=
  meetAll (s.frameRequests size (s.evaluation size time).1) (s.begun size time)

/-- The invocations of a frame, on the backend where its requests are met. -/
def drawn (s : Session σ κ) (size : Extent) (time : Single) : FrameReport × σ :=
  invokeAll (s.fetched size time).2.passes (s.fetched size time).2.cache
    (s.evaluation size time).1.invocations
    { outcome := .rendered, errors := (s.fetched size time).1 } (s.fetched size time).2.backend

variable {s : Session σ κ} {size : Extent} {time : Single}

/-- A frame that is evaluated meets its requests and draws. -/
theorem renderFrame_drawn (s : Session σ κ) (size : Extent) (time : Single) :
    renderFrame size (s.evaluation size time).1 (s.evaluated size time)
      = ((s.drawn size time).1,
        { (s.fetched size time).2 with backend := (s.drawn size time).2 }) := by
  have hsettings : (s.evaluated size time).settings = s.settings := by
    rw [evaluated, openFrame_fields]
  have hdisplay : (s.evaluated size time).displayRequest size = s.displayRequest size := by
    rw [displayRequest, displayRequest, hsettings]
  unfold drawn fetched frameRequests
  rw [← hdisplay]
  rfl

/-- Then it shows the display image. -/
theorem runReady_drawn (h : (s.evaluation size time).1.error = none) :
    runReady size time s = ((s.drawn size time).1,
      (closeFrame { (s.fetched size time).2 with backend := (s.drawn size time).2 }).2) := by
  rw [runReady_rendered h, renderFrame_drawn]

theorem begun_fields (s : Session σ κ) (size : Extent) (time : Single) :
    (s.begun size time).settings = s.settings ∧ (s.begun size time).state = s.state ∧
      (∀ id, (s.begun size time).cache.get? id = s.cache.get? id) ∧
      (s.begun size time).backend = (openFrame size s).2.backend := by
  unfold begun evaluated
  rw [openFrame_fields]
  exact ⟨rfl, rfl, fun _ => rfl, rfl⟩

/-- A frame leaves the cache as its requests do. -/
theorem runReady_fields (h : (s.evaluation size time).1.error = none) :
    (runReady size time s).2.settings = s.settings ∧ (runReady size time s).2.state = s.state ∧
      (runReady size time s).2.cache = (s.fetched size time).2.cache := by
  obtain ⟨hsettings, hstate, -⟩ := begun_fields s size time
  rw [runReady_drawn h, closeFrame_fields, fetched, meetAll_fields]
  exact ⟨hsettings, hstate, rfl⟩

/-- An image that serves all requests of a frame for it is left as it is. -/
theorem runReady_kept (herror : (s.evaluation size time).1.error = none) {id : UInt32}
    (h : ∀ r ∈ s.frameImages size time, r.id = id → s.cache.Serves r) :
    (runReady size time s).2.cache.get? id = s.cache.get? id := by
  obtain ⟨-, -, hget, -⟩ := begun_fields s size time
  obtain ⟨-, -, hcache⟩ := runReady_fields herror
  rw [hcache, ← hget id]
  exact meetAll_kept _ _ fun r hr hid => (ImageCache.Serves.congr (hget r.id)).2 (h r hr hid)

omit [ScriptCompiler κ] in
/-- What went wrong before the invocations stays in the report. -/
theorem invokeAll_errors (passes : PassTable) (cache : ImageCache) (is : List Invocation)
    (report : FrameReport) (b : σ) :
    ∀ e ∈ report.errors, e ∈ (invokeAll passes cache is report b).1.errors := by
  have hcount : ∀ (r : FrameReport) (a : Attempt), ∀ e ∈ r.errors, e ∈ (r.count a).errors := by
    intro r a e he
    unfold FrameReport.count FrameReport.note
    split <;> simp [he]
  induction is generalizing report b with
  | nil => exact fun _ he => he
  | cons i is ih =>
    intro e he
    exact ih _ _ e (hcount report _ e he)

omit [ScriptCompiler κ] in
/-- Requests fail with nothing but allocations. -/
theorem meetAll_errors (rs : List ContextRequest) (s : Session σ κ) :
    ∀ e ∈ (meetAll rs s).1, ∃ id format size reason,
      e = .allocationFailed id format size reason := by
  induction rs generalizing s with
  | nil => exact fun _ he => (List.not_mem_nil he).elim
  | cons r rs ih =>
    intro e he
    rcases List.mem_append.1 (show e ∈ (meet r s).1 ++ _ from he) with he | he
    · cases himage : r.image? with
      | none =>
        rw [(meet_variable himage s).1] at he
        cases he
      | some image =>
        have hreq := ImageCache.requested s.cache image s.backend
        rw [meet_image himage, requestImage_fst] at he
        split at he
        · cases he
        · next e' hanswer =>
          obtain ⟨reason, hreason⟩ := hreq.allocationFailed_of_error hanswer
          exact ⟨_, _, _, reason, (List.mem_singleton.1 he).trans hreason⟩
    · exact ih _ e he

/-- After a frame without failed allocations, an image whose requests agree serves them. -/
theorem fetched_serves (herror : (s.evaluation size time).1.error = none)
    (hfits : ∀ id format extent reason,
      ResourceError.allocationFailed id format extent reason ∉ (runReady size time s).1.errors)
    {id : UInt32} (hagreed : ImageCache.Agreed (s.frameImages size time) id) :
    ∀ r ∈ s.frameImages size time, r.id = id → (s.fetched size time).2.cache.Serves r := by
  have hnone : (s.fetched size time).1 = [] := by
    refine List.eq_nil_iff_forall_not_mem.2 fun e he => ?_
    obtain ⟨id, format, extent, reason, rfl⟩ := meetAll_errors _ _ e he
    refine hfits id format extent reason ?_
    rw [runReady_drawn herror]
    exact invokeAll_errors _ _ _ _ _ _ he
  intro r hr hid
  rcases meetAll_serves _ _ hnone id with ⟨hother, -⟩ | ⟨r', hr', hid', hserves⟩
  · exact absurd hid (hother r hr)
  · exact ImageCache.Serves.of_agreed hagreed hr' hid' hserves hr hid

/-! ## The calls of a frame -/

section
variable {σ κ : Type} [Backend σ]

theorem still_openFrame (size : Extent) (s : Session σ κ) :
    ∃ es, Trail Still s.backend es (openFrame size s).2.backend := by
  have hclear : ∀ (b : σ) (color : Color),
      ∃ es, Trail Still b es (clear color (bindFramebuffer none b).2).2 := fun b color =>
    ⟨_, (Trail.single (.bindFramebuffer none) trivial).append (.single (.clear color) trivial)⟩
  simp only [openFrame, run_bind, run_onBackend, run_get]
  by_cases h : s.surfaceSize = some size
  · rw [resize_same h]
    exact hclear _ _
  · obtain ⟨es, hes⟩ := hclear (resizeSurface size s.backend).2 s.settings.clearColor
    rw [resize_new h]
    exact ⟨_, (Trail.single (.resizeSurface size) trivial).append hes⟩

variable [Accounting σ]

theorem still_closeFrame {s : Session σ κ} (h : s.Owned) :
    ∃ es, Trail Still s.backend es (closeFrame s).2.backend := by
  have hend : ∀ b : σ, Trail Still b _ (Backend.perform .endFrame b).2 := fun b =>
    .single .endFrame trivial
  simp only [closeFrame, presentDisplay, run_bind, run_get, run_onBackend]
  cases s.cache.texture? ImageCache.displayId with
  | none => exact ⟨_, hend _⟩
  | some display =>
    cases s.present.get? Present.passName with
    | none => exact ⟨_, hend _⟩
    | some pass =>
      obtain ⟨⟨es, hes⟩, -⟩ := Present.runs_composite pass display s.backend h.balanced.sound
      have hstill : Trail Still s.backend es (Present.composite pass display s.backend).2 :=
        hes.mono fun _ _ _ hcall => (Showing.keepsObjects hcall).keepsTextures
      exact ⟨_, hstill.append (hend _)⟩

end

section
variable {σ κ : Type} [Backend σ] [Accounting σ] [ScriptCompiler κ]
  {s : Session (Faulty σ) κ} {size : Extent} {time : Single}

/-- A frame creates and destroys no texture exactly if the cache serves all its requests
beforehand. -/
theorem runReady_journal (howned : s.Owned) (herror : (s.evaluation size time).1.error = none) :
    ∃ es, (runReady size time s).2.backend.journal = s.backend.journal ++ es ∧
      ((∀ e ∈ es, e.call.keepsTextures) ↔
        ∀ r ∈ s.frameImages size time, s.cache.Serves r) := by
  obtain ⟨-, -, hget, hbackend⟩ := begun_fields s size time
  have hopened : Holding s.present (s.begun size time) :=
    ((runs_openFrame size) s ⟨howned, rfl⟩).2.congr rfl rfl rfl rfl
  have hfetched : Holding s.present (s.fetched size time).2 :=
    ((runs_meetAll _) (s.begun size time) hopened).2
  obtain ⟨⟨es₃, hdraw⟩, hdrawn⟩ := hfetched.run
    (runs_invokeAll (s.fetched size time).2.passes (s.fetched size time).2.cache
      (s.evaluation size time).1.invocations
      { outcome := .rendered, errors := (s.fetched size time).1 })
    fun _ _ _ => Drawing.keepsObjects
  -- opening the frame, drawing and showing the image leave all textures alone
  obtain ⟨es₁, hopen⟩ := still_openFrame size s
  obtain ⟨es₂, hmet, hiff⟩ := meetAll_journal
    (s.frameRequests size (s.evaluation size time).1) (s.begun size time)
  obtain ⟨es₄, hclose⟩ := still_closeFrame hdrawn.1
  have hstill : ∀ e ∈ es₃, e.call.keepsTextures :=
    hdraw.all fun _ _ _ hcall => (Drawing.keepsObjects hcall).keepsTextures
  refine ⟨es₁ ++ es₂ ++ es₃ ++ es₄, ?_, ?_⟩
  · rw [runReady_drawn herror]
    refine hclose.journal_eq.trans ?_
    show (s.drawn size time).2.journal ++ es₄ = _
    rw [show (s.drawn size time).2.journal = (s.fetched size time).2.backend.journal ++ es₃ from
        hdraw.journal_eq,
      show (s.fetched size time).2.backend.journal = _ from hmet, hbackend, hopen.journal_eq]
    simp only [List.append_assoc]
  · have hopenall : ∀ e ∈ es₁, e.call.keepsTextures := hopen.all fun _ _ _ hcall => hcall
    have hcloseall : ∀ e ∈ es₄, e.call.keepsTextures := hclose.all fun _ _ _ hcall => hcall
    rw [List.forall_mem_append, List.forall_mem_append, List.forall_mem_append, hiff,
      forall₂_congr fun (r : ImageRequest) _ => ImageCache.Serves.congr (hget r.id)]
    exact ⟨fun h => h.1.1.2, fun h => ⟨⟨⟨hopenall, h⟩, hstill⟩, hcloseall⟩⟩

end

/-- Whenever a frame without failed allocations is followed by one of the same size with the
same requests: an image whose requests in a frame all ask for one format and size keeps its
texture, and the second frame creates and destroys no texture exactly if this holds of
every image. The frame's own request for the display image is one of them. -/
theorem repeated_frame_keeps_images {σ κ : Type} [Backend σ] [Accounting σ] [ScriptCompiler κ]
    {b : Faulty σ} (hb : Balanced 0 0 0 b) {compiler : κ} {settings : Settings}
    {s₀ : Session (Faulty σ) κ} (h₀ : (start b compiler settings).1 = .ok s₀) (acts : List Act)
    (hready : (s₀.play acts).state = .ready) (size : Extent) (time time' : Single)
    (herror : ((s₀.play acts).evaluation size.atLeastOne time).1.error = none)
    (herror' : ((runFrame size time (s₀.play acts)).2.evaluation size.atLeastOne time').1.error
      = none)
    (hsame : ((runFrame size time (s₀.play acts)).2.evaluation size.atLeastOne time').1.requests
      = ((s₀.play acts).evaluation size.atLeastOne time).1.requests)
    (hfits : ∀ id format extent reason, ResourceError.allocationFailed id format extent reason
      ∉ (runFrame size time (s₀.play acts)).1.errors) :
    let first := (runFrame size time (s₀.play acts)).2
    let second := (runFrame size time' first).2
    let images := (s₀.play acts).frameImages size.atLeastOne time
    (∀ id, ImageCache.Agreed images id →
      second.cache.texture? id = first.cache.texture? id) ∧
    ∃ es, second.backend.journal = first.backend.journal ++ es ∧
      ((∀ e ∈ es, e.call.keepsTextures) ↔ ∀ id, ImageCache.Agreed images id) := by
  intro first second images
  have howned : first.Owned :=
    (runs_runFrame size time _ ⟨(runs_play s₀ (runs_start hb h₀).2 acts).2, rfl⟩).2.1
  have hrun : runFrame size time (s₀.play acts)
      = runReady size.atLeastOne time (s₀.play acts) := runFrame_ready hready
  obtain ⟨hsettings, hstate, hcache⟩ := runReady_fields herror
  rw [← hrun] at hsettings hstate hcache
  have hsecond : second = (runReady size.atLeastOne time' first).2 := by
    show (runFrame size time' first).2 = _
    rw [runFrame_ready (hstate.trans hready)]
  have himages : first.frameImages size.atLeastOne time' = images := by
    show ContextRequest.images (.cachedImage (first.displayRequest _) :: _) = _
    rw [hsame, displayRequest, hsettings]
    rfl
  have hserves : ∀ {id}, ImageCache.Agreed images id →
      ∀ r ∈ images, r.id = id → first.cache.Serves r := by
    intro id hagreed r hr hid
    rw [hrun] at hfits
    rw [hcache]
    exact fetched_serves herror hfits hagreed r hr hid
  constructor
  · intro id hagreed
    have hget : second.cache.get? id = first.cache.get? id := by
      rw [hsecond]
      refine runReady_kept herror' fun r hr hid => ?_
      rw [himages] at hr
      exact hserves hagreed r hr hid
    rw [ImageCache.texture?, ImageCache.texture?, hget]
  · obtain ⟨es, hes, hiff⟩ := runReady_journal howned herror'
    rw [← hsecond] at hes
    rw [himages] at hiff
    refine ⟨es, hes, hiff.trans ⟨ImageCache.agreed_of_serves, fun hagreed r hr => ?_⟩⟩
    exact hserves (hagreed r.id) r hr rfl

/-! ## An image of two sizes -/

/-- A script that requests one image twice in every frame. -/
def twice (a b : Extent) : Scripted LoadResult FrameResult (List ContextInput) where
  loads := .ofList [("a", ⟨[], [], none⟩)]
  frames := [⟨[.cachedImage ⟨5, .rgba8, a, .cached⟩, .cachedImage ⟨5, .rgba8, b, .cached⟩], [],
    none⟩]

def doubling (a b : Extent) : Session (Faulty (Recorder fun _ => .ok ⟨[], []⟩))
    (Scripted LoadResult FrameResult (List ContextInput)) :=
  fresh { inner := {} } (twice a b) {}

/-- The names of the calls that a frame makes. -/
def callNames (s : Session (Faulty (Recorder fun _ => .ok ⟨[], []⟩))
    (Scripted LoadResult FrameResult (List ContextInput))) : List String :=
  ((runFrame ⟨4, 4⟩ .zero s).2.backend.journal.drop s.backend.journal.length).map
    fun e => e.call.name

theorem image_of_two_sizes_churns :
    let s := (doubling ⟨2, 2⟩ ⟨4, 4⟩).play [.load "a"]
    let first := runFrame ⟨4, 4⟩ .zero s
    let second := runFrame ⟨4, 4⟩ .zero first.2
    (start ({ inner := {} } : Faulty (Recorder fun _ => .ok ⟨[], []⟩)) (twice ⟨2, 2⟩ ⟨4, 4⟩)
        {}).1 = .ok (doubling ⟨2, 2⟩ ⟨4, 4⟩) ∧
      s.state = .ready ∧
      (s.evaluation ⟨4, 4⟩ .zero).1.error = none ∧
      (first.2.evaluation ⟨4, 4⟩ .zero).1 = (s.evaluation ⟨4, 4⟩ .zero).1 ∧
      first.1.errors = [] ∧ second.1.errors = [] ∧
      first.2.cache.texture? 5 = some ⟨5⟩ ∧ second.2.cache.texture? 5 = some ⟨7⟩ ∧
      callNames first.2 = ["bind_framebuffer", "clear", "destroy_texture", "create_texture",
        "destroy_texture", "create_texture", "bind_framebuffer", "use_program", "bind_texture",
        "surface_size", "set_viewport", "set_blend", "draw_fullscreen", "end_frame"] := by
  refine ⟨rfl, ?_⟩
  decide +kernel

theorem repeated_frame_keeps_images_sample :
    let s := (doubling ⟨2, 2⟩ ⟨2, 2⟩).play [.load "a"]
    let first := (runFrame ⟨4, 4⟩ .zero s).2
    let second := (runFrame ⟨4, 4⟩ .zero first).2
    second.cache.texture? 5 = first.cache.texture? 5 ∧
      ∃ es, second.backend.journal = first.backend.journal ++ es ∧
        ∀ e ∈ es, e.call.keepsTextures := by
  have hfresh : Balanced 0 0 0 ({ inner := {} } : Faulty (Recorder fun _ => .ok ⟨[], []⟩)) :=
    balanced_fresh Objects.numbered_empty Objects.account_empty
  have hstart : (start ({ inner := {} } : Faulty (Recorder fun _ => .ok ⟨[], []⟩))
      (twice ⟨2, 2⟩ ⟨2, 2⟩) {}).1 = .ok (doubling ⟨2, 2⟩ ⟨2, 2⟩) := rfl
  have herrors : (runFrame ⟨4, 4⟩ .zero ((doubling ⟨2, 2⟩ ⟨2, 2⟩).play [.load "a"])).1.errors
      = [] := by
    decide +kernel
  have hpairs : ∀ r ∈ ((doubling ⟨2, 2⟩ ⟨2, 2⟩).play [.load "a"]).frameImages
      (Extent.atLeastOne ⟨4, 4⟩) .zero, ∀ r' ∈ ((doubling ⟨2, 2⟩ ⟨2, 2⟩).play
      [.load "a"]).frameImages (Extent.atLeastOne ⟨4, 4⟩) .zero, r.id = r'.id →
      r.format = r'.format ∧ r.size = r'.size := by
    decide +kernel
  have hagreed : ∀ id, ImageCache.Agreed
      (((doubling ⟨2, 2⟩ ⟨2, 2⟩).play [.load "a"]).frameImages (Extent.atLeastOne ⟨4, 4⟩)
        .zero) id :=
    fun id r hr r' hr' hid hid' => hpairs r hr r' hr' (hid.trans hid'.symm)
  obtain ⟨hkept, es, hes, hiff⟩ := repeated_frame_keeps_images hfresh hstart [.load "a"]
    (by decide +kernel) ⟨4, 4⟩ .zero .zero (by decide +kernel) (by decide +kernel)
    (by decide +kernel) (by simp only [herrors, List.not_mem_nil, not_false_eq_true, implies_true])
  exact ⟨hkept 5 (hagreed 5), es, hes, hiff.2 hagreed⟩

end Session
end FrameGraph
