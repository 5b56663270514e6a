import FrameGraph.Proofs.Session.Play

/-!
# Invariants of a session

What lasts through loading a script, running a frame, reading the surface and setting it
back to the size it had, and does not depend on what a session notes for itself, lasts
through everything that a host can do but a release: ticks and pictures are made of these.
Pictures are made without loading (`Framing`), so what a load does not leave as it is may last
through them as well.

Results:
* `Framing.capture`, `Framing.pictureLoad`: pictures.
* `Lasting.perform`: one act.
* `Lasting.play`: a run without a release.
* `Lasting.frames`: the sessions on which an act runs its frames.
-/
namespace FrameGraph.Session

open Gpu

variable {σ κ : Type} [Backend σ] [ScriptCompiler κ]

/-- An act of a host on one session runs a frame on the other: on the same, or in a tick once
the newest script is loaded, for its picture and after it. -/
inductive Frames (s : Session σ κ) : Session σ κ → Prop
  | act : Frames s s
  | picture : Frames s (loadNewest s).2
  | tick (time : Single) : Frames s (pictureLoad (loadNewest s).1 time (loadNewest s).2).2

/-- Running a frame and what is done around it keeps `J`. -/
structure Framing (J : Session σ κ → Prop) : Prop where
  frame : ∀ size time, Keeps J (runFrame size time)
  read : Keeps J (onBackend readSurface)
  restore : ∀ s, J s → Keeps J (restoreSize s.surfaceSize)
  notes : ∀ s context inbox thumbnail, J s → J { s with context, inbox, thumbnail }

/-- What the acts of a host are made of keeps `J`. -/
structure Lasting (J : Session σ κ → Prop) : Prop extends Framing J where
  load : ∀ script, Keeps J (loadScript script)

variable {J : Session σ κ → Prop}

namespace Framing

theorem takeScript (h : Framing J) : Keeps J takeScript := by
  intro s hs
  unfold Session.takeScript
  split
  · exact h.notes s _ _ _ hs
  · exact hs

theorem send (h : Framing J) (script : String) : Keeps J (send script) := by
  intro s hs
  unfold Session.send
  split
  · exact h.notes s _ _ _ hs
  · exact hs

/-- The size to set the surface back to is that of the session before the picture. -/
theorem capture (h : Framing J) (size : Extent) (time : Single) : Keeps J (capture size time) := by
  intro s hs
  have hrest : Keeps J (do
      discard (runFrame size time)
      let picture ← onBackend readSurface
      restoreSize s.surfaceSize
      return picture) :=
    .bind (.discard (h.frame size time)) fun _ => .bind h.read fun picture =>
      .bind (h.restore s hs) fun _ => .pure picture
  exact hrest s hs

theorem captureDefault (h : Framing J) (time : Single) : Keeps J (captureDefault time) :=
  .bind .get fun s => h.capture s.settings.thumbnailSize time

theorem pictureLoad (h : Framing J) (load : Option (Except ScriptError Unit)) (time : Single) :
    Keeps J (pictureLoad load time) := by
  unfold Session.pictureLoad
  split
  · refine .bind .get fun s => ?_
    split
    · refine .bind (h.captureDefault time) fun picture => ?_
      cases picture with
      | ok picture => exact fun s hs => h.notes s s.context s.inbox (some picture) hs
      | error e => exact .pure ()
    · exact .pure ()
  · exact .pure ()

end Framing

namespace Lasting

theorem loadNewest (h : Lasting J) : Keeps J loadNewest := by
  refine .bind h.takeScript fun script => ?_
  cases script with
  | none => exact .pure none
  | some script => exact .bind (h.load script) fun r => .pure (some r)

theorem tick (h : Lasting J) (size : Extent) (time : Single) : Keeps J (tick size time) := by
  rw [tick_eq]
  refine .bind h.loadNewest fun load => .bind (h.pictureLoad load time) fun _ => ?_
  exact .bind (h.frame size time) fun report => .pure _

theorem perform (h : Lasting J) {act : Act} (hact : act ≠ .release) : Keeps J act.perform := by
  cases act with
  | load script => exact (h.load script).map _
  | frame size time => exact (h.frame size time).map _
  | tick size time => exact (h.tick size time).map _
  | capture size time => exact (h.capture size time).map _
  | captureDefault time => exact (h.captureDefault time).map _
  | setValue name value => exact fun s hs => h.notes s _ s.inbox s.thumbnail hs
  | attachInbox => exact fun s hs => h.notes s s.context _ s.thumbnail hs
  | send script => exact (h.send script).map _
  | release => exact absurd rfl hact

theorem frames (h : Lasting J) {s t : Session σ κ} (hs : J s) (ht : Frames s t) : J t := by
  cases ht with
  | act => exact hs
  | picture => exact h.loadNewest s hs
  | tick time => exact h.pictureLoad _ time _ (h.loadNewest s hs)

theorem play (h : Lasting J) {s : Session σ κ} (hs : J s) {acts : List Act}
    (hacts : .release ∉ acts) : J (s.play acts) := by
  induction acts generalizing s with
  | nil => exact hs
  | cons act acts ih =>
    rw [List.mem_cons, not_or] at hacts
    obtain ⟨hact, hrest⟩ := hacts
    exact ih (h.perform (Ne.symm hact) s hs) hrest

end Lasting
end FrameGraph.Session
