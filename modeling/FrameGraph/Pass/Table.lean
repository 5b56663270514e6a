import FrameGraph.Dict
import FrameGraph.Gpu.Backend
import FrameGraph.Source.Program

/-!
# Compiled passes

The table holds the passes of the loaded script by name. A pass is built anew
only if the text of its program changed; everything else about it follows its
description at once. A pass that cannot be built stays as it was, so the last
good program keeps running.

Every pass owns its program and its framebuffer. The framebuffer outlives the
program: it is made with the first one and destroyed with the pass.
-/
namespace FrameGraph

open Gpu

structure Pass where
  name : String
  /-- The text that the program was built from. -/
  source : String
  program : ProgramId
  framebuffer : FramebufferId
  /-- One for each declared uniform, if the program has it. -/
  uniforms : List (Option Program.Location)
  samplers : List (Option Program.Location)
  /-- The colour slot of each declared output. -/
  outputs : List UInt32
  blendMode : BlendMode
  deriving DecidableEq, Repr

/-- A pass that could not be built. -/
structure CompileError where
  pass : String
  /-- The script's line, or 0 if the fault is in text that was made up. -/
  line : UInt32
  message : String
  deriving DecidableEq, Repr

/-- What building a pass came to. -/
inductive BuildOutcome where
  /-- The text is the same; the backend was not asked. -/
  | unchanged
  | created
  | recompiled
  deriving DecidableEq, Repr

structure PassTable where
  passes : Dict String Pass := .empty
  deriving DecidableEq, Repr

namespace CompileError

def text (e : CompileError) : String :=
  s!"pass `{e.pass}` failed to compile (line {e.line.toNat}): {e.message}"

/-- Finds the script's line for the line that the front end named. -/
def ofShader (pass : String) (a : Assembly) (e : Program.ShaderError) : CompileError :=
  ⟨pass, ((e.line.bind a.sourceLine).getD 0), e.message⟩

end CompileError

namespace BuildOutcome

def name : BuildOutcome → String
  | unchanged => "Unchanged"
  | created => "Created"
  | recompiled => "Recompiled"

end BuildOutcome

namespace Pass

/-- Outputs are numbered in the order they are declared. Their number is a word. -/
def outputSlots (desc : ShaderDesc) : List UInt32 :=
  (List.range (UInt32.ofNat desc.outputs.length).toNat).map UInt32.ofNat

/-- What the program's text does not tell follows the description. -/
def restyle (p : Pass) (desc : ShaderDesc) : Pass :=
  { p with blendMode := desc.blendMode, outputs := outputSlots desc }

def make (desc : ShaderDesc) (source : String) (program : ProgramId) (framebuffer : FramebufferId)
    (uniforms samplers : List (Option Program.Location)) : Pass :=
  { name := desc.name, source, program, framebuffer, uniforms, samplers,
    outputs := outputSlots desc, blendMode := desc.blendMode }

variable {σ : Type} [Backend σ]

/-- Looks up each name in a program. -/
def locations (program : ProgramId) : List TypedName → StateM σ (List (Option Program.Location))
  | [] => pure []
  | n :: ns => do
    let l ← uniformLocation program n.name
    let ls ← locations program ns
    return l :: ls

def release (p : Pass) : StateM σ Unit := do
  deleteProgram p.program
  destroyFramebuffer p.framebuffer

def releaseEach : List Pass → StateM σ Unit
  | [] => pure ()
  | p :: ps => do
    p.release
    releaseEach ps

end Pass

namespace PassTable

def empty : PassTable := {}

def get? (t : PassTable) (name : String) : Option Pass := t.passes.get? name

def size (t : PassTable) : Nat := t.passes.size

def put (t : PassTable) (p : Pass) : PassTable := ⟨t.passes.insert p.name p⟩

/-- The pass of this name, if its program was built from this text. -/
def current? (t : PassTable) (name source : String) : Option Pass :=
  (t.get? name).filter fun p => p.source = source

variable {σ : Type} [Backend σ]

/-- Files a program that was just compiled: in the place of an old one, or with a
new framebuffer. Without a framebuffer the program goes again. -/
def file (t : PassTable) (desc : ShaderDesc) (source : String) (program : ProgramId)
    (uniforms samplers : List (Option Program.Location)) :
    StateM σ (Except CompileError BuildOutcome × PassTable) := do
  match t.get? desc.name with
  | some old =>
    deleteProgram old.program
    return (.ok .recompiled,
      t.put (.make desc source program old.framebuffer uniforms samplers))
  | none =>
    match ← createFramebuffer with
    | .ok framebuffer =>
      return (.ok .created, t.put (.make desc source program framebuffer uniforms samplers))
    | .error e =>
      deleteProgram program
      return (.error ⟨desc.name, 0, e.message⟩, t)

/-- Builds a pass, unless its text is that of the table. -/
def build (t : PassTable) (desc : ShaderDesc) (declarations : List Declaration) :
    StateM σ (Except CompileError BuildOutcome × PassTable) := do
  let a := Source.assemble desc declarations
  match t.current? desc.name a.text with
  | some p => return (.ok .unchanged, t.put (p.restyle desc))
  | none =>
    match ← compileProgram a.text with
    | .error e => return (.error (.ofShader desc.name a e), t)
    | .ok program =>
      let uniforms ← Pass.locations program desc.uniforms
      let samplers ← Pass.locations program desc.samplers
      t.file desc a.text program uniforms samplers

/-- Builds all passes, whichever of them fail. -/
def buildAll (t : PassTable) (declarations : List Declaration) :
    List ShaderDesc → StateM σ (List CompileError × PassTable)
  | [] => return ([], t)
  | desc :: descs => do
    let (built, t) ← t.build desc declarations
    let (errors, t) ← t.buildAll declarations descs
    match built with
    | .ok _ => return (errors, t)
    | .error e => return (e :: errors, t)

/-- Releases the passes whose names are not to be kept, in the order of names. -/
def retain (t : PassTable) (keep : List String) : StateM σ PassTable := do
  Pass.releaseEach ((t.passes.entries.filter fun e => e.1 ∉ keep).map Prod.snd)
  return ⟨⟨t.passes.entries.filter fun e => e.1 ∈ keep⟩⟩

def releaseAll (t : PassTable) : StateM σ PassTable := do
  Pass.releaseEach t.passes.values
  return empty

end PassTable
end FrameGraph
