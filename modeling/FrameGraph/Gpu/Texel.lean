import FrameGraph.Gpu.Handle
import FrameGraph.Number.Overflow
import FrameGraph.Settings

/-!
# Pixels in memory

Rows that are read back are padded to a multiple of 256 bytes, and buffers of
uniforms to a multiple of 16; both sizes are 32-bit words. A pixel is decoded to
four singles: a channel that its format lacks is 0, except that alpha is 1.
-/
namespace FrameGraph.Gpu

/-- The least multiple of `unit` that holds `n`. If it is no word, this wraps around, and a
checked step stops at `roundUpOp`. -/
def roundUp (n unit : UInt32) : UInt32 :=
  UInt32.ofNat ((n.toNat + unit.toNat - 1) / unit.toNat) * unit

/-- The product that makes the multiple. -/
def roundUpOp (n unit : UInt32) : WordOp :=
  .product (UInt32.ofNat ((n.toNat + unit.toNat - 1) / unit.toNat)) unit

/-- Bytes from one row to the next. -/
def paddedRow (width bytesPerPixel : UInt32) : UInt32 := roundUp (width * bytesPerPixel) 256

def paddedRowOps (width bytesPerPixel : UInt32) : List WordOp :=
  [.product width bytesPerPixel, roundUpOp (width * bytesPerPixel) 256]

/-- Bytes of a uniform buffer, which is never empty as long as its size is a word. -/
def paddedBlock (blockSize : UInt32) : UInt32 := roundUp (max blockSize 16) 16

def paddedBlockOp (blockSize : UInt32) : WordOp := roundUpOp (max blockSize 16) 16

namespace Texel

/-- Byte `i` as a fraction of one. -/
def unit8 (bytes : List UInt8) (i : Nat) : Single := Single.ofRatio (bytes.getD i 0).toNat 255

def byte (bytes : List UInt8) (i : Nat) : Nat := (bytes.getD i 0).toNat

/-- The half in bytes `2 * i` and `2 * i + 1`, least significant first. -/
def half (bytes : List UInt8) (i : Nat) : Single :=
  .ofHalf (UInt16.ofNat (byte bytes (2 * i) + 256 * byte bytes (2 * i + 1)))

/-- The single in the four bytes from `4 * i`, least significant first. -/
def single (bytes : List UInt8) (i : Nat) : Single :=
  ⟨UInt32.ofNat (byte bytes (4 * i) + 256 * (byte bytes (4 * i + 1)
    + 256 * (byte bytes (4 * i + 2) + 256 * byte bytes (4 * i + 3))))⟩

/-- The colour of one pixel. -/
def decode (format : PixelFormat) (b : List UInt8) : Color :=
  match format with
  | .rgba8 => ⟨unit8 b 0, unit8 b 1, unit8 b 2, unit8 b 3⟩
  | .rgba16f => ⟨half b 0, half b 1, half b 2, half b 3⟩
  | .rgba32f => ⟨single b 0, single b 1, single b 2, single b 3⟩
  | .r16f => ⟨half b 0, .zero, .zero, .one⟩
  | .r32f => ⟨single b 0, .zero, .zero, .one⟩
  | .rg16f => ⟨half b 0, half b 1, .zero, .one⟩
  | .rg32f => ⟨single b 0, single b 1, .zero, .one⟩

/-- Cuts a list into parts of `size` items; what is left at the end is dropped. -/
def chunks {α : Type} (size : Nat) : Nat → List α → List (List α)
  | 0, _ => []
  | count + 1, bytes => bytes.take size :: chunks size count (bytes.drop size)

/-- The colours of all whole pixels. -/
def decodeAll (format : PixelFormat) (bytes : List UInt8) : List Color :=
  let size := format.bytesPerPixel.toNat
  (chunks size (bytes.length / size) bytes).map (decode format)

end Texel
end FrameGraph.Gpu
