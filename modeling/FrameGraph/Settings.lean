import FrameGraph.Image.Extent
import FrameGraph.Image.Format

/-!
# Settings

Everything a session can be told beforehand. Each setting has a default, so an
empty record is valid.
-/
namespace FrameGraph

structure Color where
  red : Single
  green : Single
  blue : Single
  alpha : Single
  deriving DecidableEq, Repr

structure Settings where
  /-- Format of the display image. -/
  displayFormat : PixelFormat := .rgba16f
  /-- What the surface is cleared to before the display image is drawn. -/
  clearColor : Color := ⟨.zero, .zero, .zero, .one⟩
  /-- Name of the input that carries the surface size. -/
  sizeInput : String := "@swapchain_size"
  /-- Name of the input that carries the time. -/
  timeInput : String := "@time"
  thumbnailSize : Extent := ⟨32, 32⟩
  /-- Whether a newly loaded script is pictured. -/
  thumbnailOnLoad : Bool := true
  deriving DecidableEq, Repr

namespace Color

def channels (c : Color) : List Single := [c.red, c.green, c.blue, c.alpha]

/-- Four numbers in a list. -/
def codec : Wire.Codec Color :=
  .tuple
    (.and (.required "red" .single)
      (.and (.required "green" .single)
        (.and (.required "blue" .single) (.required "alpha" .single))))
    (fun (r, g, b, a) => ⟨r, g, b, a⟩) (fun c => (c.red, c.green, c.blue, c.alpha))

end Color

namespace Settings

def default : Settings := {}

def codec : Wire.Codec Settings :=
  .record
    (.and (.optional "display_format" PixelFormat.codec default.displayFormat)
      (.and (.optional "clear_color" Color.codec default.clearColor)
        (.and (.optional "swapchain_size_input" .text default.sizeInput)
          (.and (.optional "time_input" .text default.timeInput)
            (.and (.optional "thumbnail_size" Extent.codec default.thumbnailSize)
              (.optional "thumbnail_on_load" .bool default.thumbnailOnLoad))))))
    (fun (format, color, size, time, thumbnail, onLoad) =>
      ⟨format, color, size, time, thumbnail, onLoad⟩)
    (fun s => (s.displayFormat, s.clearColor, s.sizeInput, s.timeInput, s.thumbnailSize,
      s.thumbnailOnLoad))

end Settings
end FrameGraph
