import FrameGraph.Session

/-!
# Checked runs

Scripts choose the lines that their text starts on, and their text declares bindings and
the size of the uniform block, so a load may reckon with any words. Here is what a player
does that checks its arithmetic: it takes the same steps, but a load stops where a sum or
a product is no word, and so does a picture of a surface whose rows are too long.

A step is checked by going through its operations first. They follow the step: what is
reckoned later depends on what was done before.
-/
namespace FrameGraph

open Gpu

/-! ## Builds -/

namespace PassTable

variable {σ : Type} [Backend σ] [Reckoning σ]

/-- The lines of the text are counted whether or not it is new. If it is, the backend is
asked; if that rejects it, the script's line is looked for. -/
def buildOps (t : PassTable) (desc : ShaderDesc) (declarations : List Declaration) (b : σ) :
    List WordOp :=
  let a := Source.assemble desc declarations
  a.ops ++
    match t.current? desc.name a.text with
    | some _ => []
    | none =>
      Reckoning.compileOps a.text b ++
        match (compileProgram a.text b).1 with
        | .ok _ => []
        | .error e => (e.line.bind a.lineOp?).toList

def buildChecked (t : PassTable) (desc : ShaderDesc) (declarations : List Declaration) :
    CheckedM σ (Except CompileError BuildOutcome × PassTable) :=
  checking (t.buildOps desc declarations) (t.build desc declarations)

/-- Those of all builds, one after the other. -/
def buildAllOps (t : PassTable) (declarations : List Declaration) :
    List ShaderDesc → σ → List WordOp
  | [], _ => []
  | desc :: descs, b =>
    let built := t.build desc declarations b
    t.buildOps desc declarations b ++ built.1.2.buildAllOps declarations descs built.2

def buildAllChecked (t : PassTable) (declarations : List Declaration) (descs : List ShaderDesc) :
    CheckedM σ (List CompileError × PassTable) :=
  checking (t.buildAllOps declarations descs) (t.buildAll declarations descs)

end PassTable

/-! ## Sessions -/

namespace Session

variable {σ κ : Type} [Backend σ] [Reckoning σ] [ScriptCompiler κ]

def startChecked (backend : σ) (compiler : κ) (settings : Settings) :
    Except Overflow (Except CompileError (Session σ κ) × σ) :=
  checked (PassTable.empty.buildOps Present.desc [] backend) (start backend compiler settings)

/-- Nothing is reckoned for a script that the compiler rejects. -/
def loadOps (script : String) (s : Session σ κ) : List WordOp :=
  let (result, _) := ScriptCompiler.load script s.compiler
  match result.error with
  | some _ => []
  | none =>
    let (passes, backend) := s.passes.retain (result.shaders.map ShaderDesc.name) s.backend
    passes.buildAllOps result.declarations result.shaders backend

def loadChecked (script : String) : CheckedM (Session σ κ) (Except ScriptError Unit) :=
  checking (loadOps script) (loadScript script)

/-- The surface is read once the frame was run. -/
def captureOps (size : Extent) (time : Single) (s : Session σ κ) : List WordOp :=
  Reckoning.readOps (runFrame size time s).2.backend

def captureChecked (size : Extent) (time : Single) :
    CheckedM (Session σ κ) (Except Error Picture) :=
  checking (captureOps size time) (capture size time)

def captureDefaultChecked (time : Single) : CheckedM (Session σ κ) (Except Error Picture) := do
  captureChecked (← get).settings.thumbnailSize time

/-- Those of the picture of a script that was just loaded. -/
def pictureOps (load : Except ScriptError Unit) (time : Single) (s : Session σ κ) :
    List WordOp :=
  match load with
  | .ok () =>
    if s.settings.thumbnailOnLoad then captureOps s.settings.thumbnailSize time s else []
  | .error _ => []

/-- Only a tick that takes a script reckons. -/
def tickOps (time : Single) (s : Session σ κ) : List WordOp :=
  match takeScript s with
  | (some script, s) =>
    let (load, s') := loadScript script s
    loadOps script s ++ pictureOps load time s'
  | (none, _) => []

def tickChecked (size : Extent) (time : Single) : CheckedM (Session σ κ) FrameReport :=
  checking (tickOps time) (tick size time)

end Session
end FrameGraph
