import FrameGraph.Script.Diagnostic
import FrameGraph.Script.Request
import FrameGraph.Script.Uniform

/-!
# Evaluating a frame

Inputs go into the evaluation of a frame; requests and invocations come out of
it.
-/
namespace FrameGraph

/-- An image, by the number it was requested under. -/
structure ImageBinding where
  id : UInt32
  deriving DecidableEq, Repr

/-- One use of a pass. -/
structure Invocation where
  shader : String
  /-- Values in the order of the pass's uniforms; `none` leaves one alone. -/
  uniforms : List (Option UniformValue)
  samplers : List ImageBinding
  attachments : List ImageBinding
  deriving DecidableEq, Repr

structure FrameResult where
  requests : List ContextRequest
  invocations : List Invocation
  error : Option Diagnostic
  deriving DecidableEq, Repr

inductive ContextInput where
  | float (name : String) (value : Single)
  | int (name : String) (value : Int32)
  | uvec2 (name : String) (value : Vec2 UInt32)
  deriving DecidableEq, Repr

namespace ImageBinding

def codec : Wire.Codec ImageBinding :=
  .record (.required "id" .uint32) (fun id => ⟨id⟩) ImageBinding.id

end ImageBinding

namespace Invocation

def codec : Wire.Codec Invocation :=
  .record
    (.and (.required "shader_name" .text)
      (.and (.optional "uniforms" (.list (.option UniformValue.codec)) [])
        (.and (.optional "image_sampler_bindings" (.list ImageBinding.codec) [])
          (.optional "color_attachments" (.list ImageBinding.codec) []))))
    (fun (shader, uniforms, samplers, attachments) => ⟨shader, uniforms, samplers, attachments⟩)
    (fun i => (i.shader, i.uniforms, i.samplers, i.attachments))

end Invocation

namespace FrameResult

def empty : FrameResult := ⟨[], [], none⟩

/-- An evaluation that failed. -/
def failed (error : Diagnostic) : FrameResult := ⟨[], [], some error⟩

def codec : Wire.Codec FrameResult :=
  .record
    (.and (.optional "context_requests" (.list ContextRequest.codec) [])
      (.and (.optional "shader_invocations" (.list Invocation.codec) [])
        (.maybe "error" Diagnostic.codec)))
    (fun (requests, invocations, error) => ⟨requests, invocations, error⟩)
    (fun r => (r.requests, r.invocations, r.error))

end FrameResult

namespace ContextInput

/-- Name and value of an input. -/
def pair {α : Type} (c : Wire.Codec α) : Wire.Codec (String × α) :=
  .record (.and (.required "name" .text) (.required "value" c)) id id

def cases : List (Wire.Case ContextInput) :=
  [ .of "float" (pair .single) (fun (n, v) => float n v) fun | float n v => some (n, v) | _ => none,
    .of "int" (pair .int32) (fun (n, v) => int n v) fun | int n v => some (n, v) | _ => none,
    .of "uvec2" (pair (Vec2.codec .uint32)) (fun (n, v) => uvec2 n v)
      fun | uvec2 n v => some (n, v) | _ => none ]

def codec : Wire.Codec ContextInput := .inner cases

end ContextInput
end FrameGraph
