import FrameGraph.Compiler.Replay
import FrameGraph.Json.Fault
import FrameGraph.Settings

/-!
# Files that hold a record

A file that cannot be read as text, and a text that is not the record it should
be, are told apart. Without a path, the settings are the default ones.
-/
namespace FrameGraph

inductive RecordFile where
  | bundle
  | settings
  deriving DecidableEq, Repr

namespace RecordFile

inductive Failure where
  | unreadable
  | invalid (fault : Json.Fault)
  deriving DecidableEq, Repr

/-- What is told about a failure, before its cause. -/
def describe (file : RecordFile) (path : String) : Failure → String
  | .unreadable =>
    match file with
    | bundle => s!"failed to read replay bundle {path}"
    | settings => s!"failed to read config {path}"
  | .invalid _ =>
    match file with
    | bundle => s!"invalid replay bundle json in {path}"
    | settings => s!"invalid config json in {path}"

/-- Reads the content of a file, if there is any. -/
def read {α : Type} (c : Wire.Codec α) : Option String → Except Failure α
  | none => .error .unreadable
  | some content => (c.parse content).mapError .invalid

def readBundle (content : Option String) : Except Failure Bundle := read Bundle.codec content

def readSettings (content : Option String) : Except Failure Settings := read Settings.codec content

end RecordFile
end FrameGraph
