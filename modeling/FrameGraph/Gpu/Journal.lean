import FrameGraph.Gpu.Faulty

/-!
# Journals as text

One line per call: its name, what it was told, and, behind an arrow, what it
returned. A call that failed ends in the error instead. Asking for the size of
the surface leaves no line.

This is how the calls of a traced run are shown to whoever compares it with another
run of the same scene; nothing in the library reads these lines.
-/
namespace FrameGraph.Gpu

namespace Error

def mark (message : String) : String := s!" ! {message}"

end Error

namespace Event

def optional {α : Type} (text : α → String) : Option α → String
  | some a => text a
  | none => "none"

def texture (t : TextureId) : String := toString t.number

def framebuffer (f : FramebufferId) : String := toString f.number

/-- What a call that may fail returned. -/
def outcome {α : Type} (text : α → String) : Except Error α → String
  | .ok a => s!" -> {text a}"
  | .error e => Error.mark e.message

/-- The error of a call that returns nothing else. -/
def done : Except Error Unit → String
  | .ok () => ""
  | .error e => Error.mark e.message

def built : Except Program.ShaderError ProgramId → String
  | .ok p => s!" -> {p.number}"
  | .error e => Error.mark e.message

def slots (ns : List UInt32) : String :=
  let inside := String.intercalate ", " (ns.map fun n => toString n.toNat)
  s!"[{inside}]"

def value (v : UniformValue) : String :=
  String.intercalate " " (v.typeName :: v.words.map hexWord)

def color (c : Color) : String := String.intercalate " " (c.channels.map Single.toHex)

def location (l : Program.Location) : String := toString l.index

/-- What follows the name of a call. -/
def rest : {a : Answer} → Call a → a.Of → Option String
  | _, .createTexture format size, r => s!" {format.name} {size.text}{outcome texture r}"
  | _, .destroyTexture t, _ => s!" {texture t}"
  | _, .createFramebuffer, r => outcome framebuffer r
  | _, .destroyFramebuffer f, _ => s!" {framebuffer f}"
  | _, .attachColor f slot t, r => s!" {framebuffer f} {slot.toNat} {optional texture t}{done r}"
  | _, .setDrawBuffers f ns, r => s!" {framebuffer f} {slots ns}{done r}"
  | _, .compileProgram _, r => built r
  | _, .deleteProgram p, _ => s!" {p.number}"
  | _, .uniformLocation p name, r => s!" {p.number} {name} -> {optional location r}"
  | _, .useProgram p, r => s!" {p.number}{done r}"
  | _, .setUniform l v, r => s!" {location l} {value v}{done r}"
  | _, .bindTexture unit t, _ => s!" {unit.toNat} {optional texture t}"
  | _, .bindFramebuffer f, _ => s!" {optional framebuffer f}"
  | _, .setViewport size, _ => s!" {size.text}"
  | _, .setBlend b, _ => s!" {b.color.text} {b.alpha.text}"
  | _, .drawFullscreen, r => done r
  | _, .clear c, _ => s!" {color c}"
  | _, .surfaceSize, _ => none
  | _, .resizeSurface size, r => s!" {size.text}{done r}"
  | _, .readSurface, r => outcome (fun p => p.size.text) r
  | _, .endFrame, _ => ""

/-- The line of a call. -/
def text? (e : Event) : Option String := (rest e.call e.answer).map (e.call.name ++ ·)

end Event
end FrameGraph.Gpu
