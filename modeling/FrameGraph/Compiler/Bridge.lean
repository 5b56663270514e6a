import FrameGraph.Compiler.Basic
import FrameGraph.Json.Fault

/-!
# Compilers behind a text interface

A bridge reaches a compiler that speaks JSON: it takes a script and returns the
text of a load result, or takes the text of a list of inputs and returns that of
a frame result. A text that is not such a record is reported like any other
failure of the script, at no place in it. Only an object at top level counts as a
record.
-/
namespace FrameGraph

open Json Wire

class JsonBridge (β : Type) where
  load : String → StateM β String
  frame : String → StateM β String

structure JsonCompiler (β : Type) where
  bridge : β

namespace JsonCompiler

/-- The report of a text that is not the record it should be. -/
def malformed (what reason : String) : Diagnostic :=
  .nowhere s!"malformed {what} from compiler: {reason}"

/-- Reads a record by way of a generic value. -/
def readRecord {α : Type} (c : Codec α) (what raw : String) : Except Diagnostic α :=
  match (Reading.scan raw).value with
  | .error f => .error (malformed what f.message)
  | .ok (.record fields closed) =>
    (c.ofValue (.record fields closed)).mapError fun f => malformed what f.message
  | .ok _ => .error (malformed what "expected a JSON object")

/-- The load result a text stands for. -/
def loadResult (raw : String) : LoadResult :=
  match readRecord LoadResult.codec "load result" raw with
  | .ok result => result
  | .error d => .failed d

/-- The frame result a text stands for. -/
def frameResult (raw : String) : FrameResult :=
  match readRecord FrameResult.codec "frame result" raw with
  | .ok result => result
  | .error d => .failed d

/-- The text of a list of inputs. -/
def inputsText (inputs : List ContextInput) : String := (Codec.list ContextInput.codec).print inputs

variable {β : Type} [JsonBridge β]

def load (script : String) : StateM (JsonCompiler β) LoadResult := fun c =>
  let (raw, bridge) := JsonBridge.load script c.bridge
  (loadResult raw, ⟨bridge⟩)

def frame (inputs : List ContextInput) : StateM (JsonCompiler β) FrameResult := fun c =>
  let (raw, bridge) := JsonBridge.frame (inputsText inputs) c.bridge
  (frameResult raw, ⟨bridge⟩)

instance : ScriptCompiler (JsonCompiler β) := ⟨load, frame⟩

end JsonCompiler
end FrameGraph
