import FrameGraph.Program.Binding
import FrameGraph.Script.Shader
import FrameGraph.Source.Assembly
import FrameGraph.Text.Affix

/-!
# From a pass description to a program

A pass becomes a GLSL 450 fragment program: version line, included declarations,
outputs, uniform block, samplers, and the body inside `main`. A sampler of the
description is split into a texture and a sampling state, and its name is defined
to join them again. Includes that nobody declares are left out; the front end
reports what then is missing.
-/
namespace FrameGraph.Source

/-- The first line of every program. -/
def preamble : String := "#version 450\n"

/-- The texture type behind a sampler type. -/
def textureType (type : String) : String :=
  String.ofList (Text.replaceFirst "sampler".toList "texture".toList type.toList)

def outputLine (index : Nat) (out : TypedName) : String :=
  s!"layout(location = {index}) out {out.type} {out.name};\n"

def outputsBlock (outs : List TypedName) : String :=
  String.join (outs.mapIdx outputLine)

def uniformLine (uniform : TypedName) : String := s!"    {uniform.type} {uniform.name};\n"

/-- One block holds all uniforms; without uniforms there is none. -/
def uniformsBlock (uniforms : List TypedName) : String :=
  if uniforms = [] then ""
  else
    s!"layout(set = {Program.uniformGroup.toNat}, binding = 0, std140) uniform PassUniforms \x7b\n"
      ++ String.join (uniforms.map uniformLine) ++ "\x7d;\n"

/-- Texture, sampling state and the name that joins them. -/
def samplerLines (index : Nat) (sampler : TypedName) : String :=
  let group := Program.samplerGroup.toNat
  let texture := sampler.name ++ Program.textureSuffix
  let state := sampler.name ++ Program.samplerSuffix
  s!"layout(set = {group}, binding = {2 * index}) uniform {textureType sampler.type} {texture};\n"
    ++ s!"layout(set = {group}, binding = {2 * index + 1}) uniform sampler {state};\n"
    ++ s!"#define {sampler.name} {sampler.type}({texture}, {state})\n"

def samplersBlock (samplers : List TypedName) : String :=
  String.join (samplers.mapIdx samplerLines)

/-- The body that an include stands for: that of the first declaration of its
name. -/
def included? (declarations : List Declaration) (name : String) : Option SourceText :=
  (declarations.find? fun d => d.name = name).map Declaration.body

def addInclude (declarations : List Declaration) (a : Assembly) (name : String) : Assembly :=
  match included? declarations name with
  | some body => a.addSource body.text body.start
  | none => a

/-- The whole program of a pass. -/
def assemble (desc : ShaderDesc) (declarations : List Declaration) : Assembly :=
  let a := desc.includes.foldl (addInclude declarations) (Assembly.empty.addMade preamble)
  let a := a.addMade (outputsBlock desc.outputs)
  let a := a.addMade (uniformsBlock desc.uniforms)
  let a := a.addMade (samplersBlock desc.samplers)
  let a := a.addMade "void main() \x7b\n"
  let a := a.addSource desc.body.text desc.body.start
  a.addMade "\x7d\n"

end FrameGraph.Source
