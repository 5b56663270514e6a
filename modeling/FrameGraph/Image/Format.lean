import FrameGraph.Wire.Codec

/-!
# Pixel formats
-/
namespace FrameGraph

/-- Channels of a pixel and how each is stored: bytes, halves or singles. -/
inductive PixelFormat where
  | rgba8
  | rgba16f
  | rgba32f
  | r16f
  | r32f
  | rg16f
  | rg32f
  deriving DecidableEq, Repr, Inhabited

namespace PixelFormat

def bytesPerPixel : PixelFormat → UInt32
  | rgba8 => 4
  | rgba16f => 8
  | rgba32f => 16
  | r16f => 2
  | r32f => 4
  | rg16f => 4
  | rg32f => 8

/-- A device cannot blend into these. -/
def isFloat32 : PixelFormat → Bool
  | rgba32f | r32f | rg32f => true
  | _ => false

/-- The name used in records. -/
def name : PixelFormat → String
  | rgba8 => "rgba8"
  | rgba16f => "rgba16f"
  | rgba32f => "rgba32f"
  | r16f => "r16f"
  | r32f => "r32f"
  | rg16f => "rg16f"
  | rg32f => "rg32f"

/-- The name used in messages. -/
def title : PixelFormat → String
  | rgba8 => "Rgba8"
  | rgba16f => "Rgba16f"
  | rgba32f => "Rgba32f"
  | r16f => "R16f"
  | r32f => "R32f"
  | rg16f => "Rg16f"
  | rg32f => "Rg32f"

/-- The device's name for it: bytes are fractions of one. -/
def deviceName : PixelFormat → String
  | rgba8 => "Rgba8Unorm"
  | rgba16f => "Rgba16Float"
  | rgba32f => "Rgba32Float"
  | r16f => "R16Float"
  | r32f => "R32Float"
  | rg16f => "Rg16Float"
  | rg32f => "Rg32Float"

def all : List PixelFormat := [rgba8, rgba16f, rgba32f, r16f, r32f, rg16f, rg32f]

def codec : Wire.Codec PixelFormat := .names (all.map fun f => (f.name, f)) name

end PixelFormat
end FrameGraph
