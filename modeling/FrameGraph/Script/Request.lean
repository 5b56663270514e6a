import FrameGraph.Image.Extent
import FrameGraph.Image.Format
import FrameGraph.Wire.Tagged

/-!
# What a frame asks for

A frame requests images, which it names by number, and typed variables with
their defaults and bounds.
-/
namespace FrameGraph

/-- Where the content of an image comes from. -/
inductive ImageKind where
  /-- Drawn by passes, kept from frame to frame. -/
  | cached
  /-- Filled in by the host. -/
  | loaded
  deriving DecidableEq, Repr, Inhabited

namespace ImageKind

def name : ImageKind → String
  | cached => "Cached"
  | loaded => "Loaded"

end ImageKind

structure ImageRequest where
  id : UInt32
  format : PixelFormat
  size : Extent
  kind : ImageKind := .cached
  deriving DecidableEq, Repr

structure FloatRequest where
  name : String
  default : Single
  minimum : Single
  maximum : Single
  deriving DecidableEq, Repr

structure IntRequest where
  name : String
  default : Int32
  minimum : Int32
  maximum : Int32
  deriving DecidableEq, Repr

structure BoolRequest where
  name : String
  default : Bool
  deriving DecidableEq, Repr

structure TextRequest where
  name : String
  default : String
  deriving DecidableEq, Repr

inductive ContextRequest where
  | cachedImage (r : ImageRequest)
  | loadedImage (r : ImageRequest)
  | float (r : FloatRequest)
  | int (r : IntRequest)
  | bool (r : BoolRequest)
  | text (r : TextRequest)
  deriving DecidableEq, Repr

namespace ImageRequest

/-- The kind is not part of the record. -/
def codec : Wire.Codec ImageRequest :=
  .record
    (.and (.required "id" .uint32)
      (.and (.required "pixel_format" PixelFormat.codec) (.required "size" Extent.codec)))
    (fun (id, format, size) => ⟨id, format, size, .cached⟩) (fun r => (r.id, r.format, r.size))

end ImageRequest

namespace FloatRequest

def codec : Wire.Codec FloatRequest :=
  .record
    (.and (.required "name" .text)
      (.and (.required "def_val" .single)
        (.and (.optional "min_val" .single Single.zero) (.optional "max_val" .single Single.one))))
    (fun (name, default, minimum, maximum) => ⟨name, default, minimum, maximum⟩)
    (fun r => (r.name, r.default, r.minimum, r.maximum))

end FloatRequest

namespace IntRequest

def codec : Wire.Codec IntRequest :=
  .record
    (.and (.required "name" .text)
      (.and (.required "def_val" .int32)
        (.and (.optional "min_val" .int32 0) (.optional "max_val" .int32 100))))
    (fun (name, default, minimum, maximum) => ⟨name, default, minimum, maximum⟩)
    (fun r => (r.name, r.default, r.minimum, r.maximum))

end IntRequest

namespace BoolRequest

def codec : Wire.Codec BoolRequest :=
  .record (.and (.required "name" .text) (.optional "def_val" .bool false))
    (fun (name, default) => ⟨name, default⟩) (fun r => (r.name, r.default))

end BoolRequest

namespace TextRequest

def codec : Wire.Codec TextRequest :=
  .record (.and (.required "name" .text) (.optional "def_val" .text ""))
    (fun (name, default) => ⟨name, default⟩) (fun r => (r.name, r.default))

end TextRequest

namespace ContextRequest

/-- The request for an image, with the kind its case stands for. -/
def image? : ContextRequest → Option ImageRequest
  | cachedImage r => some { r with kind := .cached }
  | loadedImage r => some { r with kind := .loaded }
  | _ => none

def cases : List (Wire.Case ContextRequest) :=
  [ .of "CachedImageRequest" ImageRequest.codec cachedImage
      fun | cachedImage r => some r | _ => none,
    .of "LoadedImageRequest" ImageRequest.codec loadedImage
      fun | loadedImage r => some r | _ => none,
    .of "FloatRequest" FloatRequest.codec float fun | float r => some r | _ => none,
    .of "IntRequest" IntRequest.codec int fun | int r => some r | _ => none,
    .of "BoolRequest" BoolRequest.codec bool fun | bool r => some r | _ => none,
    .of "TextRequest" TextRequest.codec text fun | text r => some r | _ => none ]

def codec : Wire.Codec ContextRequest := .inner cases

end ContextRequest
end FrameGraph
