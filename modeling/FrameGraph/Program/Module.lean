/-!
# What a front end makes of a program

A front end either rejects a program text or turns it into a module: global
variables and entry points, with their types as far as resources and outputs are
concerned. Which front end it is does not matter here; it is a function of the
text.
-/
namespace FrameGraph.Program

/-- Why a program text was rejected; lines are those of the program, from 1. -/
structure ShaderError where
  line : Option UInt32
  message : String
  deriving DecidableEq, Repr

/-- What a value of an entry point is connected to. -/
inductive Linkage where
  | location (index : UInt32)
  | builtin
  deriving DecidableEq, Repr

structure Member where
  name : Option String
  /-- First byte in its block. -/
  offset : UInt32
  linkage : Option Linkage
  deriving DecidableEq, Repr

inductive Shape where
  | image
  | sampler
  | block (members : List Member) (span : UInt32)
  | other
  deriving DecidableEq, Repr

/-- Where a global variable lives. -/
inductive Space where
  | uniform
  | handle
  | other
  deriving DecidableEq, Repr

/-- Number of a resource in its group. -/
structure ResourceBinding where
  group : UInt32
  index : UInt32
  deriving DecidableEq, Repr

structure Global where
  name : Option String
  space : Space
  binding : Option ResourceBinding
  shape : Shape
  deriving DecidableEq, Repr

inductive Stage where
  | fragment
  | vertex
  | compute
  deriving DecidableEq, Repr

structure Result where
  linkage : Option Linkage
  shape : Shape
  deriving DecidableEq, Repr

structure EntryPoint where
  stage : Stage
  result : Option Result
  deriving DecidableEq, Repr

structure Module where
  globals : List Global
  entryPoints : List EntryPoint
  deriving DecidableEq, Repr

abbrev FrontEnd := String → Except ShaderError Module

end FrameGraph.Program
