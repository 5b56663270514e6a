import FrameGraph.Number.Overflow
import FrameGraph.Program.Binding
import FrameGraph.Program.Module
import FrameGraph.Text.Affix

/-!
# The resource interface of a program

A layout lists the uniforms of a program with their place in the uniform block,
its samplers in the order of their bindings, and the locations its fragment
stage writes, in ascending order. Uniforms, then samplers, are numbered through:
the number is the location that backends use, `Layout.location?` finds it by
name and `Layout.slot?` goes back.
-/
namespace FrameGraph.Program

structure UniformSlot where
  name : String
  /-- First byte in the uniform block. -/
  offset : UInt32
  deriving DecidableEq, Repr

structure SamplerSlot where
  name : String
  textureBinding : UInt32
  samplerBinding : UInt32
  deriving DecidableEq, Repr

/-- Number of a uniform or sampler among those of its program. It stands for a 32-bit
word: no program has `2 ^ 32` uniforms and samplers. -/
structure Location where
  index : Nat
  deriving DecidableEq, Repr

structure Layout where
  uniforms : List UniformSlot := []
  blockSize : UInt32 := 0
  samplers : List SamplerSlot := []
  outputs : List UInt32 := []
  deriving DecidableEq, Repr

/-- What a location stands for. -/
inductive Slot where
  | uniform (u : UniformSlot)
  | sampler (index : Nat) (s : SamplerSlot)
  deriving DecidableEq, Repr

namespace Layout

/-! ## Reflection -/

/-- Members without a name cannot be set. -/
def uniformSlot? (m : Member) : Option UniformSlot := m.name.map fun name => ⟨name, m.offset⟩

/-- The sampling state has the number behind that of the texture. Behind the last word it
wraps around, and a checked step stops at `stateOp?`. -/
def samplerSlot? (name : Option String) (index : UInt32) : Option SamplerSlot := do
  let name ← name
  let front ← Text.before? textureSuffix.toList name.toList
  return ⟨String.ofList front, index, index + 1⟩

/-- Behind all samplers with a binding that is not greater. -/
def insertSampler (s : SamplerSlot) : List SamplerSlot → List SamplerSlot
  | [] => [s]
  | t :: ts => if s.textureBinding < t.textureBinding then s :: t :: ts else t :: insertSampler s ts

/-- Into an ascending list, once. -/
def insertOutput (n : UInt32) : List UInt32 → List UInt32
  | [] => [n]
  | m :: ms => if n < m then n :: m :: ms else if n = m then m :: ms else m :: insertOutput n ms

/-- Takes a global variable in: a uniform block of the uniform group replaces an
earlier one, a texture of the sampler group is the texture of a sampler. -/
def addGlobal (l : Layout) (g : Global) : Layout :=
  match g.binding, g.space, g.shape with
  | some b, .uniform, .block members span =>
    if b.group = uniformGroup then
      { l with blockSize := span, uniforms := members.filterMap uniformSlot? }
    else l
  | some b, .handle, .image =>
    if b.group = samplerGroup then
      match samplerSlot? g.name b.index with
      | some s => { l with samplers := insertSampler s l.samplers }
      | none => l
    else l
  | _, _, _ => l

/-- The sum that makes the number of a sampling state. -/
def stateOp? (g : Global) : Option WordOp :=
  match g.binding, g.space, g.shape with
  | some b, .handle, .image =>
    if b.group = samplerGroup then
      (samplerSlot? g.name b.index).map fun s => .sum s.textureBinding 1
    else none
  | _, _, _ => none

def linkedLocation? : Option Linkage → Option UInt32
  | some (.location n) => some n
  | _ => none

/-- The locations of a result: its own, or else those of its members. -/
def resultLocations (r : Result) : List UInt32 :=
  match linkedLocation? r.linkage, r.shape with
  | some n, _ => [n]
  | none, .block members _ => members.filterMap fun m => linkedLocation? m.linkage
  | none, _ => []

/-- The locations the fragment entry points write, in the order of the module. -/
def writtenLocations (m : Module) : List UInt32 :=
  (m.entryPoints.filter fun e => e.stage = .fragment).flatMap fun e =>
    match e.result with
    | some r => resultLocations r
    | none => []

/-- The interface of a module. -/
def ofModule (m : Module) : Layout :=
  { m.globals.foldl addGlobal {} with
    outputs := (writtenLocations m).foldl (fun ns n => insertOutput n ns) [] }

/-- The sums that are made for the interface of a module. -/
def ops (m : Module) : List WordOp := m.globals.filterMap stateOp?

/-! ## Locations -/

/-- A uniform's number, or that of a sampler behind all uniforms. -/
def location? (l : Layout) (name : String) : Option Location :=
  match l.uniforms.findIdx? (fun u => u.name = name) with
  | some i => some ⟨i⟩
  | none => (l.samplers.findIdx? fun s => s.name = name).map fun i => ⟨l.uniforms.length + i⟩

/-- What stands at a location. -/
def slot? (l : Layout) (location : Location) : Option Slot :=
  match l.uniforms[location.index]? with
  | some u => some (.uniform u)
  | none =>
    let index := location.index - l.uniforms.length
    l.samplers[index]?.map (.sampler index)

end Layout

/-- Compiles a fragment program as far as its interface. -/
def compile (frontEnd : FrontEnd) (source : String) : Except ShaderError Layout :=
  (frontEnd source).map Layout.ofModule

/-- The sums that are made for the interface of a program that is accepted. -/
def compileOps (frontEnd : FrontEnd) (source : String) : List WordOp :=
  match frontEnd source with
  | .ok m => Layout.ops m
  | .error _ => []

end FrameGraph.Program
