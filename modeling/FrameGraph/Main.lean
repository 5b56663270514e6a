import FrameGraph.CommandLine
import FrameGraph.RecordFile

/-!
# The player

Plays a bundle without a window. Arguments, bundle and settings are checked in
this order; rendering needs a GPU, and no adapter for one is built in.
-/
namespace FrameGraph.Player

/-- The text of a file, if it can be read. -/
def content (path : String) : IO (Option String) := do
  try
    return some (← IO.FS.readFile path)
  catch _ =>
    return none

def cause : RecordFile.Failure → List String
  | .unreadable => []
  | .invalid fault => [fault.message]

/-- A failure and what caused it. -/
def report (message : String) (causes : List String) : IO UInt32 := do
  IO.eprintln s!"Error: {message}"
  if !causes.isEmpty then
    IO.eprintln "\nCaused by:"
    for c in causes do
      IO.eprintln s!"    {c}"
  return 1

def loadSettings (path : Option String) : IO (Except (String × List String) Settings) := do
  match path with
  | none => return .ok {}
  | some path =>
    match RecordFile.readSettings (← content path) with
    | .ok settings => return .ok settings
    | .error e => return .error (RecordFile.settings.describe path e, cause e)

def play (arguments : CommandLine.Arguments) : IO UInt32 := do
  match arguments.bundle with
  | none => report "--bundle <path> is required" []
  | some path =>
    match RecordFile.readBundle (← content path) with
    | .error e => report (RecordFile.bundle.describe path e) (cause e)
    | .ok _ =>
      match ← loadSettings arguments.config with
      | .error (message, causes) => report message causes
      | .ok _ => report "no suitable GPU adapter" []

end FrameGraph.Player

def main (args : List String) : IO UInt32 :=
  match FrameGraph.CommandLine.parse args with
  | .error e => FrameGraph.Player.report e.message []
  | .ok arguments => FrameGraph.Player.play arguments
