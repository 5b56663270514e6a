import FrameGraph.Image.Cache
import FrameGraph.Proofs.Dict.Ordered
import FrameGraph.Proofs.Gpu.Balance

/-!
# Requests and the textures they leave

The cache is the only one that creates and destroys textures. Whatever a request
finds and whatever the backend refuses, the textures of the cache are afterwards
those that are live, as they were before.

Results:
* `runs_request`: a request keeps the balance.
* `runs_releaseAll`: in the end no texture is left.
* `requested`: a request keeps the texture, gets a new one, or is refused, and what it
  leaves in the cache then.
-/
namespace FrameGraph

open Gpu

/-- Textures are created, and live ones are destroyed; nothing else happens. -/
def Gpu.Requesting {σ : Type} [Backend σ] [Accounting σ] (b : σ) : {a : Answer} → Call a → Prop
  | _, .createTexture .. => True
  | _, .destroyTexture t => t ∈ (account b).textures
  | _, _ => False

namespace ImageCache

/-- The textures of all entries. -/
def textures (c : ImageCache) : Multiset TextureId := c.images.held.map CachedImage.texture

@[simp] theorem textures_empty : empty.textures = 0 := rfl

@[simp] theorem textures_noteFailure (c : ImageCache) (r : ImageRequest) :
    (c.noteFailure r).textures = c.textures := rfl

theorem textures_of_get? {c : ImageCache} (h : c.images.Ordered) {id : UInt32} {image : CachedImage}
    (hi : c.images.get? id = some image) :
    c.textures = image.texture ::ₘ (c.images.erase id).held.map CachedImage.texture := by
  rw [textures, Dict.held_of_get? h hi, Multiset.map_cons]

/-- The entry of a number that had none is a new one. -/
theorem textures_store {c : ImageCache} (h : c.images.Ordered) {r : ImageRequest}
    (hr : c.images.get? r.id = none) (t : TextureId) :
    (c.store r t).textures = t ::ₘ c.textures := by
  rw [textures, store, Dict.held_insert h, Multiset.map_cons, Dict.erase_of_get?_none hr]
  rfl

section
variable {σ : Type} [Backend σ] [Accounting σ] {T : Multiset TextureId}
  {F : Multiset FramebufferId} {P : Multiset ProgramId} {c : ImageCache}

theorem runs_allocate (h : c.images.Ordered) (r : ImageRequest) (hr : c.images.get? r.id = none) :
    Runs (σ := σ) id Requesting (Balanced (c.textures + T) F P) (c.allocate r)
      (fun a b => a.2.images.Ordered ∧ Balanced (a.2.textures + T) F P b) := by
  refine Runs.bind (runs_createTexture r.format r.size fun _ => trivial) fun answer => ?_
  cases answer with
  | ok t =>
    refine Runs.pure fun b hb => ⟨Dict.ordered_insert h _ _, ?_⟩
    rw [textures_store h hr, Multiset.cons_add]
    exact hb
  | error e => exact Runs.pure fun b hb => ⟨h, by simpa using hb⟩

/-- A request keeps the balance, whether its texture is kept, new, or refused. -/
theorem runs_request (h : c.images.Ordered) (r : ImageRequest) :
    Runs (σ := σ) id Requesting (Balanced (c.textures + T) F P) (c.request r)
      (fun a b => a.2.images.Ordered ∧ Balanced (a.2.textures + T) F P b) := by
  unfold request
  split
  · next hr => exact runs_allocate h r hr
  · next image hi =>
    split
    · exact Runs.pure fun b hb => ⟨h, hb⟩
    · rw [textures_of_get? h hi, Multiset.cons_add]
      refine Runs.bind (runs_destroyTexture image.texture fun _ ht => ht) fun _ => ?_
      exact runs_allocate (c := { c with images := c.images.erase r.id })
        (Dict.ordered_erase h r.id) r (by simp)

theorem runs_destroyEach (images : List CachedImage) :
    Runs (σ := σ) id Requesting
      (Balanced ((images : Multiset CachedImage).map CachedImage.texture + T) F P)
      (destroyEach images) (fun _ => Balanced T F P) := by
  induction images with
  | nil => exact Runs.pure fun b hb => by simpa using hb
  | cons i is ih =>
    rw [← Multiset.cons_coe, Multiset.map_cons, Multiset.cons_add]
    exact Runs.bind (runs_destroyTexture i.texture fun _ ht => ht) fun _ => ih

/-- In the end nothing of the cache is live. -/
theorem runs_releaseAll :
    Runs (σ := σ) id Requesting (Balanced (c.textures + T) F P) c.releaseAll
      (fun a b => a = empty ∧ Balanced T F P b) :=
  Runs.bind (runs_destroyEach c.images.values) fun _ => Runs.pure fun _ hb => ⟨rfl, hb⟩

end

/-! ## The ways of a request -/

/-- The image of the requested number has the requested format and size. -/
def Serves (c : ImageCache) (r : ImageRequest) : Prop :=
  ∃ image, c.get? r.id = some image ∧ image.format = r.format ∧ image.size = r.size

section
variable {σ : Type} [Backend σ]

/-- The backend once a texture that does not serve has made room. -/
def cleared (c : ImageCache) (r : ImageRequest) (b : σ) : σ :=
  match c.get? r.id with
  | some image => (destroyTexture image.texture b).2
  | none => b

/-- All a request can come to: its answer, and the cache and the backend it leaves. -/
inductive Requested (c : ImageCache) (r : ImageRequest) (b : σ) :
    Except ResourceError TextureId → ImageCache → σ → Prop
  | kept (image : CachedImage) (found : c.get? r.id = some image)
      (same : image.format = r.format ∧ image.size = r.size) :
      Requested c r b (.ok image.texture) { c with failed := c.failed.erase r.id } b
  | created (t : TextureId) (b' : σ) (other : ¬ c.Serves r)
      (made : createTexture r.format r.size (c.cleared r b) = (.ok t, b')) :
      Requested c r b (.ok t) ({ c with images := c.images.erase r.id }.store r t) b'
  | refused (e : Error) (b' : σ) (other : ¬ c.Serves r)
      (made : createTexture r.format r.size (c.cleared r b) = (.error e, b')) :
      Requested c r b (.error (.allocationFailed r.id r.format r.size e.message))
        ({ c with images := c.images.erase r.id }.noteFailure r) b'

theorem requested_of_not_serves {c : ImageCache} {r : ImageRequest} {b : σ} (h : ¬ c.Serves r)
    (hrun : c.request r b
      = allocate { c with images := c.images.erase r.id } r (c.cleared r b)) :
    Requested c r b (c.request r b).1.1 (c.request r b).1.2 (c.request r b).2 := by
  rw [hrun]
  simp only [allocate, run_bind]
  cases hmade : createTexture r.format r.size (c.cleared r b) with
  | mk answer b' =>
    cases answer with
    | ok t => exact .created t b' h hmade
    | error e => exact .refused e b' h hmade

theorem requested (c : ImageCache) (r : ImageRequest) (b : σ) :
    Requested c r b (c.request r b).1.1 (c.request r b).1.2 (c.request r b).2 := by
  cases hi : c.get? r.id with
  | none =>
    refine requested_of_not_serves (fun ⟨image, hget, _⟩ => by rw [hi] at hget; cases hget) ?_
    rw [Dict.erase_of_get?_none hi]
    simp only [request, cleared, hi]
  | some image =>
    by_cases hs : image.format = r.format ∧ image.size = r.size
    · have hrun : c.request r b
          = ((.ok image.texture, { c with failed := c.failed.erase r.id }), b) := by
        simp only [request, hi, serves, hs, decide_true, Bool.and_self, if_true, run_pure]
      rw [hrun]
      exact .kept image hi hs
    · refine requested_of_not_serves (fun ⟨image', hget, hsame⟩ => ?_) ?_
      · rw [hi] at hget
        cases hget
        exact hs hsame
      · have hno : serves image r = false := by
          rw [serves, ← Bool.decide_and, decide_eq_false_iff_not]
          exact hs
        simp only [request, cleared, hi, hno]
        rfl

namespace Requested

variable {c c' : ImageCache} {r : ImageRequest} {b b' : σ}
  {answer : Except ResourceError TextureId}

/-- Only the image of the requested number changes. -/
theorem get?_of_ne (h : Requested c r b answer c' b') {id : UInt32} (hid : id ≠ r.id) :
    c'.get? id = c.get? id := by
  cases h with
  | kept => rfl
  | created t => simp [ImageCache.get?, store, hid]
  | refused => simp [ImageCache.get?, noteFailure, hid]

/-- An image that serves is left as it is, and the backend is not asked. -/
theorem eq_kept (h : Requested c r b answer c' b') (hserves : c.Serves r) :
    (∀ id, c'.get? id = c.get? id) ∧ b' = b ∧
      ∃ image, c.get? r.id = some image ∧ answer = .ok image.texture := by
  cases h with
  | kept image found => exact ⟨fun _ => rfl, rfl, image, found, rfl⟩
  | created _ _ other => exact absurd hserves other
  | refused _ _ other => exact absurd hserves other

/-- What a request returned is the texture of an image that serves it. -/
theorem serves_of_ok (h : Requested c r b answer c' b') (hok : ∃ t, answer = .ok t) :
    c'.Serves r := by
  cases h with
  | kept image found same => exact ⟨image, found, same⟩
  | created t => exact ⟨⟨r.id, t, r.format, r.size⟩, by simp [ImageCache.get?, store], rfl, rfl⟩
  | refused => obtain ⟨t, ht⟩ := hok; cases ht

/-- A request fails with nothing but its allocation. -/
theorem allocationFailed_of_error (h : Requested c r b answer c' b') {e : ResourceError}
    (he : answer = .error e) : ∃ reason, e = .allocationFailed r.id r.format r.size reason := by
  cases h with
  | kept => cases he
  | created => cases he
  | refused e' => exact ⟨e'.message, (Except.error.inj he).symm⟩

end Requested

end

end ImageCache
end FrameGraph
