import FrameGraph.Image.Blend
import FrameGraph.Script.Diagnostic

/-!
# Passes as a script describes them

Loading a script gives declarations, whose bodies passes may include, and one
description per pass.
-/
namespace FrameGraph

/-- Text of the script and the line it starts on. -/
structure SourceText where
  text : String
  start : UInt32
  deriving DecidableEq, Repr

/-- A named piece of text that passes include. -/
structure Declaration where
  name : String
  body : SourceText
  deriving DecidableEq, Repr

/-- A uniform, a sampler or an output. -/
structure TypedName where
  name : String
  type : String
  deriving DecidableEq, Repr

structure ShaderDesc where
  name : String
  includes : List String
  uniforms : List TypedName
  samplers : List TypedName
  outputs : List TypedName
  body : SourceText
  blendMode : BlendMode
  deriving DecidableEq, Repr

/-- Everything a compiler makes of a script's text. -/
structure LoadResult where
  declarations : List Declaration
  shaders : List ShaderDesc
  error : Option Diagnostic
  deriving DecidableEq, Repr

namespace SourceText

def codec : Wire.Codec SourceText :=
  .record (.and (.required "text" .text) (.optional "start" .uint32 0))
    (fun (text, start) => ⟨text, start⟩) (fun s => (s.text, s.start))

end SourceText

namespace Declaration

def codec : Wire.Codec Declaration :=
  .record (.and (.required "name" .text) (.required "body" SourceText.codec))
    (fun (name, body) => ⟨name, body⟩) (fun d => (d.name, d.body))

end Declaration

namespace TypedName

def codec : Wire.Codec TypedName :=
  .record (.and (.required "name" .text) (.required "type" .text))
    (fun (name, type) => ⟨name, type⟩) (fun n => (n.name, n.type))

end TypedName

namespace ShaderDesc

def codec : Wire.Codec ShaderDesc :=
  .record
    (.and (.required "name" .text)
      (.and (.optional "includes" (.list .text) [])
        (.and (.optional "uniforms" (.list TypedName.codec) [])
          (.and (.optional "samplers" (.list TypedName.codec) [])
            (.and (.optional "outs" (.list TypedName.codec) [])
              (.and (.required "body" SourceText.codec)
                (.optional "blend_mode" BlendMode.codec .overwrite)))))))
    (fun (name, includes, uniforms, samplers, outputs, body, blendMode) =>
      ⟨name, includes, uniforms, samplers, outputs, body, blendMode⟩)
    (fun d => (d.name, d.includes, d.uniforms, d.samplers, d.outputs, d.body, d.blendMode))

end ShaderDesc

namespace LoadResult

/-- A load that failed. -/
def failed (error : Diagnostic) : LoadResult := ⟨[], [], some error⟩

def codec : Wire.Codec LoadResult :=
  .record
    (.and (.optional "declarations" (.list Declaration.codec) [])
      (.and (.optional "shader_descs" (.list ShaderDesc.codec) [])
        (.maybe "error" Diagnostic.codec)))
    (fun (declarations, shaders, error) => ⟨declarations, shaders, error⟩)
    (fun r => (r.declarations, r.shaders, r.error))

end LoadResult
end FrameGraph
