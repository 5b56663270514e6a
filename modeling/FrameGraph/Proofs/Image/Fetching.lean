import FrameGraph.Proofs.Gpu.Recording
import FrameGraph.Proofs.Image.Requests

/-!
# Requests on record

On a recording backend a request that the cache serves records nothing. Otherwise the
texture that makes room is destroyed, and the one that was asked for is created, if it can
be had.

Results:
* `Requested.fetched`: what one request records, and which images it leaves.
-/
namespace FrameGraph.ImageCache

open Gpu

/-- The command that makes room for a request, if there is something in its place. -/
def clearing (c : ImageCache) (r : ImageRequest) : List Command :=
  (c.texture? r.id).toList.map .destroyTexture

/-- What a request puts on record, and the cache it leaves. -/
inductive Fetched (c : ImageCache) (r : ImageRequest) : List Command → ImageCache → Prop
  | kept (c' : ImageCache) (serves : c.Serves r) (images : c'.images = c.images) :
      Fetched c r [] c'
  | created (c' : ImageCache) (t : TextureId) (other : ¬ c.Serves r)
      (images : c'.images = (c.images.erase r.id).insert r.id ⟨r.id, t, r.format, r.size⟩) :
      Fetched c r (c.clearing r ++ [.createTexture t r.format r.size]) c'
  | refused (c' : ImageCache) (other : ¬ c.Serves r) (images : c'.images = c.images.erase r.id) :
      Fetched c r (c.clearing r) c'

/-- What requests put on record one after another, and the cache that is left. -/
inductive FetchedAll : ImageCache → List ImageRequest → List Command → ImageCache → Prop
  | nil (c : ImageCache) : FetchedAll c [] [] c
  | cons {c c' c'' : ImageCache} {r : ImageRequest} {rs : List ImageRequest}
      {cs cs' : List Command} (first : Fetched c r cs c') (rest : FetchedAll c' rs cs' c'') :
      FetchedAll c (r :: rs) (cs ++ cs') c''

variable {fe : Program.FrontEnd} {c c' : ImageCache} {r : ImageRequest} {b b' : Recorder fe}

theorem cleared_commands
    (hlive : ∀ image, c.get? r.id = some image → b.objects.textures.contains image.texture) :
    (c.cleared r b).commands = b.commands ++ c.clearing r := by
  unfold cleared clearing texture?
  cases hget : c.get? r.id with
  | none => exact (List.append_nil _).symm
  | some image =>
    have hrun : (destroyTexture image.texture b).2 = b.destroyTexture image.texture := rfl
    simp only [hrun, Recorder.destroyTexture, hlive image hget, if_true]
    rfl

/-- Textures that can be had are put on record. -/
theorem createTexture_commands (format : PixelFormat) (size : Extent) (b : Recorder fe) :
    (∃ t, (createTexture format size b).1 = .ok t ∧
        (createTexture format size b).2.commands
          = b.commands ++ [.createTexture t format size]) ∨
      ((∃ e, (createTexture format size b).1 = .error e) ∧
        (createTexture format size b).2.commands = b.commands) := by
  have hrun : createTexture format size b = Recorder.createTexture format size b := rfl
  rw [hrun, Recorder.createTexture]
  split
  · exact .inl ⟨_, rfl, rfl⟩
  · exact .inr ⟨⟨_, rfl⟩, rfl⟩

theorem Requested.fetched {answer : Except ResourceError TextureId}
    (h : Requested c r b answer c' b')
    (hlive : ∀ image, c.get? r.id = some image → b.objects.textures.contains image.texture) :
    ∃ cs, Fetched c r cs c' ∧ b'.commands = b.commands ++ cs := by
  have hmade := createTexture_commands r.format r.size (c.cleared r b)
  rw [cleared_commands hlive] at hmade
  cases h with
  | kept image found same => exact ⟨[], .kept _ ⟨image, found, same⟩ rfl, (List.append_nil _).symm⟩
  | created t _ other made =>
    rw [made] at hmade
    rcases hmade with ⟨t', ht', hcommands⟩ | ⟨⟨e, he⟩, -⟩
    · cases ht'
      exact ⟨_, .created _ t other rfl, by rw [hcommands, List.append_assoc]⟩
    · cases he
  | refused e _ other made =>
    rw [made] at hmade
    rcases hmade with ⟨t', ht', -⟩ | ⟨-, hcommands⟩
    · cases ht'
    · exact ⟨_, .refused _ other rfl, hcommands⟩

end FrameGraph.ImageCache
