import FrameGraph.Pass.Table

/-!
# Showing the display image

The display image holds linear colours. A pass of its own encodes them for the
surface with a gamma of 2.2 and makes them solid; `gammaEncode` is the same
encoding for one channel.
-/
namespace FrameGraph.Present

open Gpu

/-- The name of the pass. -/
def passName : String := "@present"

def body : String :=
  "out_color = vec4(pow(clamp(texelFetch(tex, ivec2(gl_FragCoord.xy), 0).rgb, vec3(0.0), "
    ++ "vec3(1.0)), vec3(1.0 / 2.2)), 1.0);"

def desc : ShaderDesc where
  name := passName
  includes := []
  uniforms := []
  samplers := [⟨"tex", "sampler2D"⟩]
  outputs := [⟨"out_color", "vec4"⟩]
  body := ⟨body, 0⟩
  blendMode := .overwrite

/-- The encoding of one channel, clamped to the unit interval. -/
def gammaEncode (linear : Single) : Single :=
  ⟨((Float32.ofBits linear.clampUnit.bits).pow (1.0 / 2.2)).toBits⟩

/-- Ten thousand times the encoding of a channel, as an integer. -/
def scaledGamma (linear : Single) : Nat :=
  let (num, den) := Format.single.ratio (gammaEncode linear).magnitude
  (2 * 10000 * num + den) / (2 * den)

variable {σ : Type} [Backend σ]

/-- Draws what remains once the sampler is set. -/
def draw (pass : Pass) (display : TextureId) : StateM σ (Except Error Unit) := do
  bindTexture 0 (some display)
  let size ← surfaceSize
  setViewport size
  setBlend pass.blendMode.state
  drawFullscreen

/-- Draws an image over the whole surface. -/
def composite (pass : Pass) (display : TextureId) : StateM σ (Except Error Unit) := do
  bindFramebuffer none
  match ← useProgram pass.program with
  | .error e => return .error e
  | .ok () =>
    match pass.samplers.head? with
    | some (some location) =>
      match ← setUniform location (.int 0) with
      | .error e => return .error e
      | .ok () => draw pass display
    | _ => draw pass display

end FrameGraph.Present
