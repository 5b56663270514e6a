import FrameGraph.Gpu.Recorder
import FrameGraph.Proofs.Image.Requests

/-!
# The cache as a map of last requests

A cache is worked with in steps: a frame starts, or an image is requested. `History` is a
cache with its backend and the steps so far, each request with its answer. What the cache
has under a number, and which numbers have failed, can be told from the history alone;
handles that were returned are never made again, since a recording backend counts on.

Results:
* `Honest`: the cache is what the history says. Every step keeps it (`Honest.step`), so
  every run does (`honest_run`).
* `last_request_wins`: what an honest cache returns, and what the next request will.
-/
namespace FrameGraph.ImageCache

open Gpu

inductive Step where
  | startFrame
  | request (r : ImageRequest)
  deriving DecidableEq, Repr

/-- A step as it went. -/
inductive Entry where
  | frame
  | answered (r : ImageRequest) (answer : Except ResourceError TextureId)

/-- The latest entry is the first one. -/
structure History (σ : Type) where
  backend : σ
  cache : ImageCache := .empty
  past : List Entry := []

namespace Entry

/-- What was to be done. -/
def step : Entry → Step
  | frame => .startFrame
  | answered r _ => .request r

/-- The last request for an image, and its answer. -/
def lastRequest? (id : UInt32) : List Entry → Option (ImageRequest × Except ResourceError TextureId)
  | [] => none
  | .frame :: past => lastRequest? id past
  | .answered r answer :: past => if r.id = id then some (r, answer) else lastRequest? id past

/-- The entries of the frame that goes on. -/
def sinceFrame : List Entry → List Entry
  | [] | .frame :: _ => []
  | .answered r answer :: past => .answered r answer :: sinceFrame past

/-- The handles that requests returned, for whatever image. -/
def returned : List Entry → List TextureId
  | [] => []
  | .answered _ (.ok t) :: past => t :: returned past
  | _ :: past => returned past

theorem id_of_lastRequest? {id : UInt32} {past : List Entry} {r : ImageRequest}
    {answer : Except ResourceError TextureId} (h : lastRequest? id past = some (r, answer)) :
    r.id = id := by
  induction past with
  | nil => cases h
  | cons e past ih =>
    cases e with
    | frame => exact ih h
    | answered r' answer' =>
      simp only [lastRequest?] at h
      split at h
      · next hid => cases h; exact hid
      · exact ih h

/-- A request that succeeded returned its handle. -/
theorem mem_returned {id : UInt32} {past : List Entry} {r : ImageRequest} {t : TextureId}
    (h : lastRequest? id past = some (r, .ok t)) : t ∈ returned past := by
  induction past with
  | nil => cases h
  | cons e past ih =>
    cases e with
    | frame => exact ih h
    | answered r' answer' =>
      simp only [lastRequest?] at h
      split at h
      · cases h
        exact List.mem_cons_self
      · cases answer' with
        | ok t' => exact List.mem_cons_of_mem _ (ih h)
        | error e => exact ih h

theorem returned_answered {r : ImageRequest} {answer : Except ResourceError TextureId}
    {past : List Entry} {t : TextureId} (h : t ∈ returned (.answered r answer :: past)) :
    answer = .ok t ∨ t ∈ returned past := by
  cases answer with
  | ok t' =>
    rcases List.mem_cons.1 h with rfl | h
    · exact .inl rfl
    · exact .inr h
  | error e => exact .inr h

/-- The last request of a number in this frame is its last one at all. -/
theorem lastRequest?_of_sinceFrame {id : UInt32} {past : List Entry}
    {q : ImageRequest × Except ResourceError TextureId}
    (h : lastRequest? id (sinceFrame past) = some q) : lastRequest? id past = some q := by
  induction past with
  | nil => cases h
  | cons e past ih =>
    cases e with
    | frame => cases h
    | answered r answer =>
      simp only [sinceFrame, lastRequest?] at h ⊢
      split at h
      · next hid => rw [if_pos hid]; exact h
      · next hid => rw [if_neg hid]; exact ih h

end Entry

/-- The image that a request with this answer leaves under its number. -/
def resolved (r : ImageRequest) : Except ResourceError TextureId → Option CachedImage
  | .ok t => some ⟨r.id, t, r.format, r.size⟩
  | .error _ => none

theorem resolved_eq_some {r : ImageRequest} {answer : Except ResourceError TextureId}
    {image : CachedImage} (h : resolved r answer = some image) :
    answer = .ok image.texture ∧ image.id = r.id ∧ image.format = r.format ∧
      image.size = r.size := by
  cases answer with
  | ok t => cases h; exact ⟨rfl, rfl, rfl, rfl⟩
  | error e => cases h

namespace Requested

variable {σ : Type} [Backend σ] {c c' : ImageCache} {r : ImageRequest} {b b' : σ}
  {answer : Except ResourceError TextureId}

/-- If the images are filed under their own numbers, a request leaves its image, or none. -/
theorem get?_eq (h : Requested c r b answer c' b')
    (hnamed : ∀ image, c.get? r.id = some image → image.id = r.id) (id : UInt32) :
    c'.get? id = if id = r.id then resolved r answer else c.get? id := by
  by_cases hid : id = r.id
  · subst hid
    rw [if_pos rfl]
    cases h with
    | kept image found same =>
      have himage : image = ⟨r.id, image.texture, r.format, r.size⟩ := by
        rw [← hnamed image found, ← same.1, ← same.2]
      show c.get? r.id = _
      rw [found, himage]
      rfl
    | created t => simp [ImageCache.get?, store, resolved]
    | refused => simp [ImageCache.get?, noteFailure, resolved]
  · rw [if_neg hid, h.get?_of_ne hid]

/-- The number has failed if this request did; the others as before. -/
theorem failedThisFrame_eq (h : Requested c r b answer c' b') (id : UInt32) :
    c'.failedThisFrame id
      = if id = r.id then (resolved r answer).isNone else c.failedThisFrame id := by
  by_cases hid : id = r.id <;> cases h <;>
    simp [failedThisFrame, Dict.contains, store, noteFailure, resolved, hid]

end Requested

namespace History

variable {σ : Type} [Backend σ]

/-- What the next request would return. -/
def answer (h : History σ) (r : ImageRequest) : Except ResourceError TextureId :=
  (h.cache.request r h.backend).1.1

def step (h : History σ) : Step → History σ
  | .startFrame => { h with cache := h.cache.startFrame, past := .frame :: h.past }
  | .request r =>
    { backend := (h.cache.request r h.backend).2
      cache := (h.cache.request r h.backend).1.2
      past := .answered r (h.answer r) :: h.past }

def run (h : History σ) : List Step → History σ
  | [] => h
  | s :: ss => run (h.step s) ss

/-- The last request for the image was for another format or size, or it failed, or there
was none. -/
def Stale (h : History σ) (r : ImageRequest) : Prop :=
  ∀ old t, Entry.lastRequest? r.id h.past = some (old, .ok t) →
    ¬ (old.format = r.format ∧ old.size = r.size)

theorem steps_run (h : History σ) (steps : List Step) :
    (h.run steps).past.reverse.map Entry.step = h.past.reverse.map Entry.step ++ steps := by
  induction steps generalizing h with
  | nil => simp [run]
  | cons s ss ih => cases s <;> simp [run, ih, step, Entry.step]

end History

/-! ## Numbers -/

section
variable {fe : Program.FrontEnd} {f f' : Faulty (Recorder fe)} {format : PixelFormat}
  {size : Extent}

/-- The number of the next object. -/
def upcoming (f : Faulty (Recorder fe)) : Nat := f.inner.objects.nextId

theorem upcoming_created {t : TextureId} (h : createTexture format size f = (.ok t, f')) :
    t.number = upcoming f ∧ upcoming f' = upcoming f + 1 := by
  have hanswer : (Faulty.perform (.createTexture format size) f).1 = .ok t :=
    congrArg Prod.fst h
  have hafter : (Faulty.perform (.createTexture format size) f).2 = f' := congrArg Prod.snd h
  rcases Faulty.perform_cases (.createTexture format size) f with
    ⟨refusal, answer, hrefused, hr, -⟩ | ⟨hr, hinner⟩
  · -- a refused call returns no handle
    simp only [Call.refused, Option.some.injEq] at hrefused
    rw [hr, ← hrefused] at hanswer
    cases hanswer
  · rw [hr] at hanswer
    rw [hafter] at hinner
    simp only [Backend.perform, Recorder.perform, Recorder.createTexture] at hanswer hinner
    split at hanswer
    · next hfits =>
      cases hanswer
      rw [if_pos hfits] at hinner
      exact ⟨rfl, congrArg (fun r => r.objects.nextId) hinner⟩
    · cases hanswer

theorem upcoming_refused {e : Error} (h : createTexture format size f = (.error e, f')) :
    upcoming f' = upcoming f := by
  have hanswer : (Faulty.perform (.createTexture format size) f).1 = .error e :=
    congrArg Prod.fst h
  have hafter : (Faulty.perform (.createTexture format size) f).2 = f' := congrArg Prod.snd h
  rcases Faulty.perform_cases (.createTexture format size) f with
    ⟨-, -, -, -, hinner⟩ | ⟨hr, hinner⟩
  · rw [upcoming, ← hafter, hinner, upcoming]
  · rw [hr] at hanswer
    rw [hafter] at hinner
    simp only [Backend.perform, Recorder.perform, Recorder.createTexture] at hanswer hinner
    split at hanswer
    · cases hanswer
    · next hfits =>
      rw [if_neg hfits] at hinner
      rw [upcoming, hinner, upcoming]

theorem upcoming_cleared (c : ImageCache) (r : ImageRequest) (f : Faulty (Recorder fe)) :
    upcoming (c.cleared r f) = upcoming f := by
  unfold cleared
  split
  · next image _ =>
    rcases Faulty.perform_cases (.destroyTexture image.texture) f with
      ⟨-, -, -, -, hinner⟩ | ⟨-, hinner⟩
    · exact congrArg (fun r => r.objects.nextId) hinner
    · refine (congrArg (fun r => r.objects.nextId) hinner).trans ?_
      simp only [Backend.perform, Recorder.perform, Recorder.destroyTexture]
      split <;> rfl
  · rfl

/-- A request that is not served from the cache returns a new number, if any. -/
theorem Requested.number_of_not_serves {c c' : ImageCache} {r : ImageRequest} {t : TextureId}
    (h : Requested c r f (.ok t) c' f') (hnot : ¬ c.Serves r) : t.number = upcoming f := by
  cases h with
  | kept image found same => exact absurd ⟨image, found, same⟩ hnot
  | created _ _ _ made => rw [(upcoming_created made).1, upcoming_cleared]

/-- Numbers only grow, and a returned one is below the next. -/
theorem Requested.upcoming_le {c c' : ImageCache} {r : ImageRequest}
    {answer : Except ResourceError TextureId} (h : Requested c r f answer c' f')
    (hserved : ∀ image, c.get? r.id = some image → image.texture.number < upcoming f) :
    upcoming f ≤ upcoming f' ∧ ∀ t, answer = .ok t → t.number < upcoming f' := by
  cases h with
  | kept image found =>
    refine ⟨le_rfl, fun t ht => ?_⟩
    cases ht
    exact hserved image found
  | created t _ _ made =>
    have hcleared := upcoming_cleared c r f
    obtain ⟨hnumber, hnext⟩ := upcoming_created made
    refine ⟨by omega, fun t' ht' => ?_⟩
    cases ht'
    omega
  | refused e _ _ made =>
    have hcleared := upcoming_cleared c r f
    have hnext := upcoming_refused made
    exact ⟨by omega, fun t ht => by cases ht⟩

end

/-! ## Honest caches -/

/-- The cache is what its history says, and no returned handle will be made again. -/
structure Honest {fe : Program.FrontEnd} (h : History (Faulty (Recorder fe))) : Prop where
  images : ∀ id, h.cache.get? id
    = (Entry.lastRequest? id h.past).bind fun q => resolved q.1 q.2
  failed : ∀ id, h.cache.failedThisFrame id
    = (Entry.lastRequest? id (Entry.sinceFrame h.past)).any fun q => (resolved q.1 q.2).isNone
  returned : ∀ t ∈ Entry.returned h.past, t.number < upcoming h.backend

namespace Honest

variable {fe : Program.FrontEnd} {h : History (Faulty (Recorder fe))}

theorem start (f : Faulty (Recorder fe)) : Honest { backend := f } :=
  ⟨fun _ => rfl, fun _ => rfl, fun _ ht => by cases ht⟩

/-- An image that is there is that of its last request. -/
theorem of_get? (hh : Honest h) {id : UInt32} {image : CachedImage}
    (himage : h.cache.get? id = some image) :
    image.id = id ∧ ∃ old, Entry.lastRequest? id h.past = some (old, .ok image.texture) ∧
      image.format = old.format ∧ image.size = old.size := by
  rw [hh.images] at himage
  obtain ⟨⟨old, answer⟩, hlast, hresolved⟩ := Option.bind_eq_some_iff.1 himage
  obtain ⟨rfl, hid, hformat, hsize⟩ := resolved_eq_some hresolved
  exact ⟨hid.trans (Entry.id_of_lastRequest? hlast), old, hlast, hformat, hsize⟩

/-- The cache serves exactly what the last request for the number got. -/
theorem stale_iff (hh : Honest h) (r : ImageRequest) : h.Stale r ↔ ¬ h.cache.Serves r := by
  constructor
  · rintro hstale ⟨image, hget, hformat, hsize⟩
    obtain ⟨-, old, hlast, hf, hs⟩ := hh.of_get? hget
    exact hstale old _ hlast ⟨hf.symm.trans hformat, hs.symm.trans hsize⟩
  · intro hnot old t hlast hsame
    refine hnot ⟨⟨old.id, t, old.format, old.size⟩, ?_, hsame⟩
    rw [hh.images, hlast, Option.bind_some, resolved]

theorem step (hh : Honest h) (s : Step) : Honest (h.step s) := by
  cases s with
  | startFrame => exact ⟨hh.images, fun _ => rfl, hh.returned⟩
  | request r =>
    have hreq := requested h.cache r h.backend
    have hnamed : ∀ image, h.cache.get? r.id = some image → image.id = r.id :=
      fun _ himage => (hh.of_get? himage).1
    have hserved : ∀ image, h.cache.get? r.id = some image →
        image.texture.number < upcoming h.backend := by
      intro image himage
      obtain ⟨-, old, hlast, -⟩ := hh.of_get? himage
      exact hh.returned _ (Entry.mem_returned hlast)
    refine ⟨fun id => ?_, fun id => ?_, fun t ht => ?_⟩
    · rw [History.step, hreq.get?_eq hnamed, hh.images, Entry.lastRequest?]
      by_cases hid : id = r.id
      · rw [if_pos hid, if_pos hid.symm]
        rfl
      · rw [if_neg hid, if_neg (Ne.symm hid)]
    · rw [History.step, hreq.failedThisFrame_eq, hh.failed, Entry.sinceFrame, Entry.lastRequest?]
      by_cases hid : id = r.id
      · rw [if_pos hid, if_pos hid.symm]
        rfl
      · rw [if_neg hid, if_neg (Ne.symm hid)]
    · obtain ⟨hle, hlt⟩ := hreq.upcoming_le hserved
      rcases Entry.returned_answered ht with hanswer | hpast
      · exact hlt t hanswer
      · exact Nat.lt_of_lt_of_le (hh.returned t hpast) hle

theorem run (hh : Honest h) (steps : List Step) : Honest (h.run steps) := by
  induction steps generalizing h with
  | nil => exact hh
  | cons s ss ih => exact ih (hh.step s)

/-- A number that failed in this frame has no image. -/
theorem get?_of_failed (hh : Honest h) {id : UInt32} (hfailed : h.cache.failedThisFrame id) :
    h.cache.get? id = none := by
  rw [hh.failed] at hfailed
  obtain ⟨q, hq, hnone⟩ := (Option.any_eq_true ..).1 hfailed
  rw [hh.images, Entry.lastRequest?_of_sinceFrame hq]
  exact Option.isNone_iff_eq_none.1 hnone

/-- The next request is answered from the cache, without a call, if it is for what the last
one got. -/
theorem answer_kept (hh : Honest h) {r old : ImageRequest} {t : TextureId}
    (hlast : Entry.lastRequest? r.id h.past = some (old, .ok t))
    (hsame : old.format = r.format ∧ old.size = r.size) :
    h.answer r = .ok t ∧ (h.step (.request r)).backend = h.backend := by
  have hserves : h.cache.Serves r := by
    by_contra hnot
    exact (hh.stale_iff r).2 hnot old t hlast hsame
  obtain ⟨-, hbackend, image, himage, hanswer⟩ :=
    (requested h.cache r h.backend).eq_kept hserves
  obtain ⟨-, old', hlast', -⟩ := hh.of_get? himage
  rw [hlast] at hlast'
  cases hlast'
  exact ⟨hanswer, hbackend⟩

/-- Otherwise whatever it returns is new. -/
theorem answer_fresh (hh : Honest h) {r : ImageRequest} (hstale : h.Stale r) {t : TextureId}
    (ht : h.answer r = .ok t) : t ∉ Entry.returned h.past := by
  have hreq := requested h.cache r h.backend
  rw [show (h.cache.request r h.backend).1.1 = .ok t from ht] at hreq
  have hnumber := hreq.number_of_not_serves ((hh.stale_iff r).1 hstale)
  intro hmem
  have hlt := hh.returned t hmem
  omega

end Honest

/-- However frames and requests follow each other and whatever is refused: an image is that
of the last request for its number, and is not there if that failed or there was none. The
next request returns the handle of the last one for its number, without any call, exactly if
that one succeeded with the same format and size, and otherwise a handle that was never
returned. A number has failed exactly if its last request in this frame did, and then it has
no image. -/
theorem last_request_wins {fe : Program.FrontEnd} (f : Faulty (Recorder fe))
    (steps : List Step) :
    let h := History.run { backend := f } steps
    h.past.reverse.map Entry.step = steps ∧
    (∀ id,
      (∀ r t, Entry.lastRequest? id h.past = some (r, .ok t) →
        h.cache.get? id = some ⟨id, t, r.format, r.size⟩ ∧ h.cache.texture? id = some t ∧
          h.cache.size? id = some r.size) ∧
      ((∀ r t, Entry.lastRequest? id h.past ≠ some (r, .ok t)) →
        h.cache.get? id = none ∧ h.cache.texture? id = none ∧ h.cache.size? id = none) ∧
      (h.cache.failedThisFrame id ↔
        ∃ r e, Entry.lastRequest? id (Entry.sinceFrame h.past) = some (r, .error e)) ∧
      (h.cache.failedThisFrame id → h.cache.get? id = none)) ∧
    ∀ r,
      (∀ t, (h.answer r = .ok t ∧ (h.step (.request r)).backend.journal = h.backend.journal ∧
          ∃ old, Entry.lastRequest? r.id h.past = some (old, .ok t)) ↔
        ∃ old, Entry.lastRequest? r.id h.past = some (old, .ok t) ∧ old.format = r.format ∧
          old.size = r.size) ∧
      (h.Stale r → ∀ t, h.answer r = .ok t → t ∉ Entry.returned h.past) := by
  intro h
  have hh : Honest h := (Honest.start f).run steps
  refine ⟨?_, fun id => ⟨fun r t hlast => ?_, fun hnone => ?_, ?_, hh.get?_of_failed⟩,
    fun r => ⟨fun t => ⟨?_, ?_⟩, fun hstale t ht => hh.answer_fresh hstale ht⟩⟩
  · rw [History.steps_run]
    rfl
  · have hget : h.cache.get? id = some ⟨id, t, r.format, r.size⟩ := by
      rw [hh.images, hlast, Option.bind_some, resolved, Entry.id_of_lastRequest? hlast]
    refine ⟨hget, ?_, ?_⟩
    · rw [texture?, hget]
      rfl
    · rw [size?, hget]
      rfl
  · have hget : h.cache.get? id = none := by
      cases himage : h.cache.get? id with
      | none => rfl
      | some image =>
        obtain ⟨-, old, hlast, -⟩ := hh.of_get? himage
        exact absurd hlast (hnone old image.texture)
    refine ⟨hget, ?_, ?_⟩
    · rw [texture?, hget]
      rfl
    · rw [size?, hget]
      rfl
  · rw [hh.failed, Option.any_eq_true]
    constructor
    · rintro ⟨⟨r, answer⟩, hlast, hnone⟩
      cases answer with
      | ok t => cases hnone
      | error e => exact ⟨r, e, hlast⟩
    · rintro ⟨r, e, hlast⟩
      exact ⟨_, hlast, rfl⟩
  · rintro ⟨hanswer, -, old, hlast⟩
    by_contra hnot
    -- the handle of another shape would have been returned twice
    have hstale : h.Stale r := by
      intro old' t' hlast' hsame
      rw [hlast] at hlast'
      cases hlast'
      exact hnot ⟨old, hlast, hsame⟩
    exact hh.answer_fresh hstale hanswer (Entry.mem_returned hlast)
  · rintro ⟨old, hlast, hsame⟩
    obtain ⟨hanswer, hbackend⟩ := hh.answer_kept hlast hsame
    exact ⟨hanswer, congrArg Faulty.journal hbackend, old, hlast⟩

end FrameGraph.ImageCache
