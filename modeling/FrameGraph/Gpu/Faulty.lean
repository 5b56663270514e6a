import FrameGraph.Gpu.Backend

/-!
# Backends that refuse

A layer around any backend. It keeps a journal of all calls with their answers,
and a policy may refuse a call that can fail: then the backend never sees the
call, and the answer says so. The policy knows the calls since it was installed,
so it can refuse at any time whatever it likes.
-/
namespace FrameGraph.Gpu

/-- A refused program may name a line of its text. -/
structure Refusal where
  line : Option UInt32 := none
  deriving DecidableEq, Repr

/-- What to refuse, given the calls so far and the next one. -/
abbrev Policy := List Event → {a : Answer} → Call a → Option Refusal

structure Faulty (σ : Type) where
  inner : σ
  policy : Policy := fun _ _ _ => none
  /-- The calls since the policy was installed. -/
  history : List Event := []
  /-- All calls. -/
  journal : List Event := []

namespace Call

/-- The name of a call. -/
def name : {a : Answer} → Call a → String
  | _, createTexture .. => "create_texture"
  | _, destroyTexture .. => "destroy_texture"
  | _, createFramebuffer => "create_framebuffer"
  | _, destroyFramebuffer .. => "destroy_framebuffer"
  | _, attachColor .. => "attach_color"
  | _, setDrawBuffers .. => "set_draw_buffers"
  | _, compileProgram .. => "compile_program"
  | _, deleteProgram .. => "delete_program"
  | _, uniformLocation .. => "uniform_location"
  | _, useProgram .. => "use_program"
  | _, setUniform .. => "set_uniform"
  | _, bindTexture .. => "bind_texture"
  | _, bindFramebuffer .. => "bind_framebuffer"
  | _, setViewport .. => "set_viewport"
  | _, setBlend .. => "set_blend"
  | _, drawFullscreen => "draw_fullscreen"
  | _, clear .. => "clear"
  | _, surfaceSize => "surface_size"
  | _, resizeSurface .. => "resize_surface"
  | _, readSurface => "read_surface"
  | _, endFrame => "end_frame"

/-- The reason given for a refusal. -/
def injected : String := "injected"

/-- The answer to a refused call; `none` for calls that cannot fail. -/
def refused (refusal : Refusal) : {a : Answer} → Call a → Option a.Of
  | _, createTexture .. => some (.error (.allocation injected))
  | _, createFramebuffer => some (.error (.allocation injected))
  | _, attachColor .. => some (.error (.draw injected))
  | _, setDrawBuffers .. => some (.error (.draw injected))
  | _, compileProgram .. => some (.error ⟨refusal.line, injected⟩)
  | _, uniformLocation .. => some none
  | _, useProgram .. => some (.error (.draw injected))
  | _, setUniform .. => some (.error (.draw injected))
  | _, drawFullscreen => some (.error (.draw injected))
  | _, resizeSurface .. => some (.error (.allocation injected))
  | _, readSurface => some (.error (.readBack injected))
  | _, destroyTexture .. | _, destroyFramebuffer .. | _, deleteProgram .. | _, bindTexture ..
  | _, bindFramebuffer .. | _, setViewport .. | _, setBlend .. | _, clear .. | _, surfaceSize
  | _, endFrame => none

end Call

/-- Refuses the calls of one name once some of them have passed. -/
structure Rule where
  name : String
  passing : Nat := 0
  refusal : Refusal := {}
  deriving DecidableEq, Repr

namespace Rule

def applies (r : Rule) (history : List Event) (name : String) : Bool :=
  r.name = name && r.passing ≤ history.countP fun e => e.call.name = name

/-- The policy of a list of rules. -/
def policy (rules : List Rule) : Policy := fun history _ call =>
  (rules.find? fun r => r.applies history call.name).map Rule.refusal

end Rule

namespace Faulty

variable {σ : Type}

/-- Installs a policy, which starts with no calls. -/
def install (f : Faulty σ) (policy : Policy) : Faulty σ := { f with policy, history := [] }

def note (f : Faulty σ) (e : Event) : Faulty σ :=
  { f with history := f.history ++ [e], journal := f.journal ++ [e] }

/-- The answer of the policy, if it refuses the call. -/
def refusal? (f : Faulty σ) {a : Answer} (call : Call a) : Option a.Of :=
  (f.policy f.history call).bind fun r => call.refused r

def perform [Backend σ] {a : Answer} (call : Call a) : StateM (Faulty σ) a.Of := fun f =>
  match f.refusal? call with
  | some answer => (answer, f.note ⟨call, answer⟩)
  | none =>
    let (answer, inner) := Backend.perform call f.inner
    (answer, { f with inner }.note ⟨call, answer⟩)

instance [Backend σ] : Backend (Faulty σ) := ⟨perform⟩

/-- A refused call does not reach the backend. -/
instance [Reckoning σ] : Reckoning (Faulty σ) where
  compileOps source f :=
    if (f.refusal? (.compileProgram source)).isSome then [] else Reckoning.compileOps source f.inner
  readOps f := if (f.refusal? .readSurface).isSome then [] else Reckoning.readOps f.inner

end Faulty
end FrameGraph.Gpu
