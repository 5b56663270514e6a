import FrameGraph.Wire.Record
import FrameGraph.Wire.Tagged

/-!
# Uniform values

One to four components, each a single, a signed or an unsigned word.
-/
namespace FrameGraph

structure Vec2 (α : Type) where
  x : α
  y : α
  deriving DecidableEq, Repr

structure Vec3 (α : Type) where
  x : α
  y : α
  z : α
  deriving DecidableEq, Repr

structure Vec4 (α : Type) where
  x : α
  y : α
  z : α
  w : α
  deriving DecidableEq, Repr

namespace Vec2

def codec {α : Type} (c : Wire.Codec α) : Wire.Codec (Vec2 α) :=
  .record (.and (.required "x" c) (.required "y" c)) (fun (x, y) => ⟨x, y⟩) (fun v => (v.x, v.y))

end Vec2

namespace Vec3

def codec {α : Type} (c : Wire.Codec α) : Wire.Codec (Vec3 α) :=
  .record (.and (.required "x" c) (.and (.required "y" c) (.required "z" c)))
    (fun (x, y, z) => ⟨x, y, z⟩) (fun v => (v.x, v.y, v.z))

end Vec3

namespace Vec4

def codec {α : Type} (c : Wire.Codec α) : Wire.Codec (Vec4 α) :=
  .record
    (.and (.required "x" c) (.and (.required "y" c) (.and (.required "z" c) (.required "w" c))))
    (fun (x, y, z, w) => ⟨x, y, z, w⟩) (fun v => (v.x, v.y, v.z, v.w))

end Vec4

inductive UniformValue where
  | float (v : Single)
  | vec2 (v : Vec2 Single)
  | vec3 (v : Vec3 Single)
  | vec4 (v : Vec4 Single)
  | int (v : Int32)
  | ivec2 (v : Vec2 Int32)
  | ivec3 (v : Vec3 Int32)
  | ivec4 (v : Vec4 Int32)
  | uint (v : UInt32)
  | uvec2 (v : Vec2 UInt32)
  | uvec3 (v : Vec3 UInt32)
  | uvec4 (v : Vec4 UInt32)
  deriving DecidableEq, Repr

namespace UniformValue

def typeName : UniformValue → String
  | float _ => "float"
  | vec2 _ => "vec2"
  | vec3 _ => "vec3"
  | vec4 _ => "vec4"
  | int _ => "int"
  | ivec2 _ => "ivec2"
  | ivec3 _ => "ivec3"
  | ivec4 _ => "ivec4"
  | uint _ => "uint"
  | uvec2 _ => "uvec2"
  | uvec3 _ => "uvec3"
  | uvec4 _ => "uvec4"

/-- The bits of each component. -/
def words : UniformValue → List UInt32
  | float v => [v.bits]
  | vec2 v => [v.x.bits, v.y.bits]
  | vec3 v => [v.x.bits, v.y.bits, v.z.bits]
  | vec4 v => [v.x.bits, v.y.bits, v.z.bits, v.w.bits]
  | int v => [v.toUInt32]
  | ivec2 v => [v.x.toUInt32, v.y.toUInt32]
  | ivec3 v => [v.x.toUInt32, v.y.toUInt32, v.z.toUInt32]
  | ivec4 v => [v.x.toUInt32, v.y.toUInt32, v.z.toUInt32, v.w.toUInt32]
  | uint v => [v]
  | uvec2 v => [v.x, v.y]
  | uvec3 v => [v.x, v.y, v.z]
  | uvec4 v => [v.x, v.y, v.z, v.w]

/-- A word with its least significant byte first. -/
def littleEndian (w : UInt32) : List UInt8 :=
  [w.toUInt8, (w >>> 8).toUInt8, (w >>> 16).toUInt8, (w >>> 24).toUInt8]

/-- The components behind one another, without gaps. -/
def bytes (v : UniformValue) : List UInt8 := v.words.flatMap littleEndian

def cases : List (Wire.Case UniformValue) :=
  [ .of "float" .single float fun | float v => some v | _ => none,
    .of "vec2" (Vec2.codec .single) vec2 fun | vec2 v => some v | _ => none,
    .of "vec3" (Vec3.codec .single) vec3 fun | vec3 v => some v | _ => none,
    .of "vec4" (Vec4.codec .single) vec4 fun | vec4 v => some v | _ => none,
    .of "int" .int32 int fun | int v => some v | _ => none,
    .of "ivec2" (Vec2.codec .int32) ivec2 fun | ivec2 v => some v | _ => none,
    .of "ivec3" (Vec3.codec .int32) ivec3 fun | ivec3 v => some v | _ => none,
    .of "ivec4" (Vec4.codec .int32) ivec4 fun | ivec4 v => some v | _ => none,
    .of "uint" .uint32 uint fun | uint v => some v | _ => none,
    .of "uvec2" (Vec2.codec .uint32) uvec2 fun | uvec2 v => some v | _ => none,
    .of "uvec3" (Vec3.codec .uint32) uvec3 fun | uvec3 v => some v | _ => none,
    .of "uvec4" (Vec4.codec .uint32) uvec4 fun | uvec4 v => some v | _ => none ]

def codec : Wire.Codec UniformValue := .beside cases

end UniformValue
end FrameGraph
