/-!
# The newest script

An editor may send a script on every keystroke, and a session wants only the
newest one. Between them is a channel that holds one script. Putting a script in
(`offer`) and taking one out (`poll`) are its only steps, each of which happens
at once; sending and taking the newest are made of them:

* to send, offer; if there is no room, poll until nothing is left, and offer
  again;
* to take the newest, poll until nothing is left, and keep the last.

`SendPhase` and `TakePhase` are the same programs one step at a time, for any
number of senders whose steps are mixed with those of the receiver.
-/
namespace FrameGraph

/-- At most one script. -/
structure Channel where
  pending : Option String := none
  deriving DecidableEq, Repr

namespace Channel

def empty : Channel := {}

/-- Puts a script in if there is room, and tells whether there was. -/
def offer (script : String) : StateM Channel Bool := fun c =>
  match c.pending with
  | none => (true, ⟨some script⟩)
  | some _ => (false, c)

/-- Takes a script out if there is one. -/
def poll : StateM Channel (Option String) := fun c => (c.pending, ⟨none⟩)

/-- How many scripts there are. -/
def size (c : Channel) : Nat := if c.pending.isSome then 1 else 0

theorem size_poll (c : Channel) (h : c.pending.isSome) : (poll c).2.size < c.size := by
  simp [poll, size, h]

/-- Polls until nothing is left, and returns the last script found, or `latest`. -/
def drain (latest : Option String) (c : Channel) : Option String × Channel :=
  if _ : c.pending.isSome then drain (poll c).1 (poll c).2 else (latest, (poll c).2)
termination_by c.size
decreasing_by exact size_poll c (by assumption)

def takeLatest : StateM Channel (Option String) := drain none

/-- Puts a script in the place of one that is still pending. -/
def send (script : String) : StateM Channel Unit := do
  if ← offer script then return
  discard (drain none)
  discard (offer script)

end Channel

/-! ## One step at a time -/

/-- How far a sender is with a script. -/
inductive SendPhase where
  | offering (script : String)
  | draining (script : String)
  | retrying (script : String)
  | sent (script : String)
  deriving DecidableEq, Repr

/-- How far the receiver is, with the last script it has found. -/
inductive TakePhase where
  | polling (latest : Option String)
  | taken (latest : Option String)
  deriving DecidableEq, Repr

namespace SendPhase

open Channel

/-- The sender's next step on the channel. -/
def step : SendPhase → StateM Channel SendPhase
  | offering script => do
    if ← offer script then return sent script else return draining script
  | draining script => do
    match ← poll with
    | some _ => return draining script
    | none => return retrying script
  | retrying script => do
    discard (offer script)
    return sent script
  | sent script => return sent script

end SendPhase

namespace TakePhase

/-- The receiver's next step on the channel. -/
def step : TakePhase → StateM Channel TakePhase
  | polling latest => do
    match ← Channel.poll with
    | some script => return polling (some script)
    | none => return taken latest
  | taken latest => return taken latest

end TakePhase
end FrameGraph
