import FrameGraph.Text.Lines

/-!
# The vertex stage

All passes share one vertex stage: a triangle that covers the viewport, made from
the vertex's number alone. It is the only text written by hand in WGSL; if that
is rejected, the report lists it with line numbers.
-/
namespace FrameGraph.Program

def vertexText : String :=
  "
@vertex
fn vs_main(@builtin(vertex_index) vertex_index: u32) -> @builtin(position) vec4<f32> \x7b
    let x = f32((vertex_index << 1u) & 2u) * 2.0 - 1.0;
    let y = f32(vertex_index & 2u) * 2.0 - 1.0;
    return vec4<f32>(x, y, 0.0, 1.0);
\x7d
"

def vertexEntry : String := "vs_main"

def fragmentEntry : String := "main"

/-- A line behind its number, which takes at least four places. -/
def numberedLine (index : Nat) (line : List Char) : String :=
  let number := toString (index + 1)
  let blanks := String.ofList (List.replicate (4 - number.length) ' ')
  s!"{blanks}{number} | {String.ofList line}\n"

/-- The text with line numbers, between two rules. -/
def listing (source : String) : String :=
  "---\n" ++ String.join ((Text.lines source.toList).mapIdx numberedLine) ++ "---\n"

/-- What is reported when a WGSL text is rejected with `reason`. -/
def wgslRejection (source reason : String) : String :=
  s!"WGSL validation failed:\n  {reason}\n{listing source}"

end FrameGraph.Program
