import FrameGraph.Dict
import FrameGraph.Frame.ResourceError
import FrameGraph.Gpu.Backend
import FrameGraph.Script.Request

/-!
# Cached images

Images are known by number. A request keeps the texture of its number if format
and size are the same, and otherwise replaces it; an image that nobody requests
stays, so that toggling it does not cost anything. A number whose last request
failed has no texture.
-/
namespace FrameGraph

open Gpu

structure CachedImage where
  id : UInt32
  texture : TextureId
  format : PixelFormat
  size : Extent
  deriving DecidableEq, Repr

structure ImageCache where
  images : Dict UInt32 CachedImage := .empty
  /-- The numbers whose last request of this frame failed. -/
  failed : Dict UInt32 Unit := .empty
  deriving DecidableEq, Repr

namespace ImageCache

/-- The number of the image that is shown. -/
def displayId : UInt32 := 0

def empty : ImageCache := {}

def startFrame (c : ImageCache) : ImageCache := { c with failed := .empty }

def get? (c : ImageCache) (id : UInt32) : Option CachedImage := c.images.get? id

def texture? (c : ImageCache) (id : UInt32) : Option TextureId :=
  (c.get? id).map CachedImage.texture

def size? (c : ImageCache) (id : UInt32) : Option Extent := (c.get? id).map CachedImage.size

def failedThisFrame (c : ImageCache) (id : UInt32) : Bool := c.failed.contains id

def size (c : ImageCache) : Nat := c.images.size

/-- The image can serve the request as it is. -/
def serves (image : CachedImage) (r : ImageRequest) : Bool :=
  image.format = r.format && image.size = r.size

def store (c : ImageCache) (r : ImageRequest) (texture : TextureId) : ImageCache where
  images := c.images.insert r.id ⟨r.id, texture, r.format, r.size⟩
  failed := c.failed.erase r.id

def noteFailure (c : ImageCache) (r : ImageRequest) : ImageCache :=
  { c with failed := c.failed.insert r.id () }

variable {σ : Type} [Backend σ]

/-- Creates the texture of a number that has none. -/
def allocate (c : ImageCache) (r : ImageRequest) :
    StateM σ (Except ResourceError TextureId × ImageCache) := do
  match ← createTexture r.format r.size with
  | .ok texture => return (.ok texture, c.store r texture)
  | .error e =>
    return (.error (.allocationFailed r.id r.format r.size e.message), c.noteFailure r)

/-- Sees to it that the number has a texture of the requested format and size. -/
def request (c : ImageCache) (r : ImageRequest) :
    StateM σ (Except ResourceError TextureId × ImageCache) := do
  match c.get? r.id with
  | none => c.allocate r
  | some image =>
    if serves image r then
      return (.ok image.texture, { c with failed := c.failed.erase r.id })
    else
      destroyTexture image.texture
      allocate { c with images := c.images.erase r.id } r

def destroyEach : List CachedImage → StateM σ Unit
  | [] => pure ()
  | i :: is => do
    destroyTexture i.texture
    destroyEach is

def releaseAll (c : ImageCache) : StateM σ ImageCache := do
  destroyEach c.images.values
  return empty

end ImageCache
end FrameGraph
