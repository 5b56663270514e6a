import FrameGraph.Wire.Codec

/-!
# Blending

A blend mode is what a pass asks for, a blend state is what a backend is told:
how the source and the target are weighed, for colour and for alpha. Both are
always added.
-/
namespace FrameGraph

inductive BlendMode where
  /-- The target is overwritten. -/
  | overwrite
  | alphaBlend
  | additive
  | multiplicative
  deriving DecidableEq, Repr, Inhabited

inductive BlendFactor where
  | one
  | zero
  | srcAlpha
  | oneMinusSrcAlpha
  | dst
  | dstAlpha
  deriving DecidableEq, Repr

/-- Weights of the source and of the target in their sum. -/
structure BlendSum where
  source : BlendFactor
  target : BlendFactor
  deriving DecidableEq, Repr

structure BlendState where
  color : BlendSum
  alpha : BlendSum
  deriving DecidableEq, Repr

namespace BlendFactor

def name : BlendFactor → String
  | one => "One"
  | zero => "Zero"
  | srcAlpha => "SrcAlpha"
  | oneMinusSrcAlpha => "OneMinusSrcAlpha"
  | dst => "Dst"
  | dstAlpha => "DstAlpha"

end BlendFactor

namespace BlendSum

def text (s : BlendSum) : String := s!"{s.source.name}/{s.target.name}/Add"

end BlendSum

namespace BlendState

/-- The source alone. -/
def replace : BlendState := ⟨⟨.one, .zero⟩, ⟨.one, .zero⟩⟩

instance : Inhabited BlendState := ⟨replace⟩

end BlendState

namespace BlendMode

/-- Alpha blending is straight on colour and "over" on alpha. -/
def state : BlendMode → BlendState
  | overwrite => .replace
  | alphaBlend => ⟨⟨.srcAlpha, .oneMinusSrcAlpha⟩, ⟨.one, .oneMinusSrcAlpha⟩⟩
  | additive => ⟨⟨.one, .one⟩, ⟨.one, .one⟩⟩
  | multiplicative => ⟨⟨.dst, .zero⟩, ⟨.dstAlpha, .zero⟩⟩

def name : BlendMode → String
  | overwrite => "opaque"
  | alphaBlend => "alphablend"
  | additive => "additive"
  | multiplicative => "multiplicative"

def all : List BlendMode := [overwrite, alphaBlend, additive, multiplicative]

def codec : Wire.Codec BlendMode := .names (all.map fun m => (m.name, m)) name

end BlendMode
end FrameGraph
