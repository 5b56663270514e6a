import FrameGraph.Proofs.Inbox.Handoff
import FrameGraph.Proofs.Session.Invariant
import FrameGraph.Proofs.Session.Loading
import FrameGraph.Proofs.Session.Mirroring

/-!
# What ticks load

Between two ticks an editor may send any number of scripts. The channel holds the last
of them, and the next tick takes it: so a tick loads the newest script of its round, the
acts since the tick before, and no script is loaded twice. A compiler that notes the
scripts it is given tells which these are; nothing else reads the notes.

Results:
* `perform_scripts`, `perform_inbox`: what one act does to the notes and to the channel.
* `tick_empty`, `tick_pending`: a tick is a frame, after the load and its picture if a
  script is pending.
* `ticks_load_newest`: a run.
-/
namespace FrameGraph

open Gpu

/-- A compiler, with the scripts it was given. -/
structure Noting (κ : Type) where
  inner : κ
  scripts : List String := []

instance {κ : Type} [ScriptCompiler κ] : ScriptCompiler (Noting κ) where
  load script := fun n =>
    let (result, inner) := ScriptCompiler.load script n.inner
    (result, { inner, scripts := n.scripts ++ [script] })
  frame inputs := fun n =>
    let (result, inner) := ScriptCompiler.frame inputs n.inner
    (result, { n with inner })

/-! ## Rounds -/

namespace Act

/-- Scripts are loaded by ticks alone, from the channel that is attached. -/
def LoadsByTick : Act → Prop
  | load _ | attachInbox => False
  | _ => True

def isTick : Act → Bool
  | tick _ _ => true
  | _ => false

def sent? : Act → Option String
  | send script => some script
  | _ => none

/-- A round goes on with an act, and a tick ends it. -/
def since (round : List Act) (act : Act) : List Act :=
  if act.isTick then [] else round ++ [act]

end Act

/-- The acts since the last tick, with those of `round` before them if there is none. -/
def sinceTick (round : List Act) (acts : List Act) : List Act := acts.foldl Act.since round

/-- The rounds that a tick ends, in order. -/
def rounds (round : List Act) : List Act → List (List Act)
  | [] => []
  | act :: acts => (if act.isTick then [round] else []) ++ rounds (act.since round) acts

def lastSent (round : List Act) : Option String := (round.filterMap Act.sent?).getLast?

theorem lastSent_since (round : List Act) (act : Act) :
    lastSent (act.since round) = if act.isTick then none else (act.sent? <|> lastSent round) := by
  unfold Act.since
  split
  · rfl
  · cases h : act.sent? <;> simp [lastSent, h]

namespace Session

variable {σ κ : Type}

/-- The session with its compiler alone. -/
def unnoted (s : Session σ (Noting κ)) : Session σ κ :=
  { s with compiler := s.compiler.inner }

/-- The session whose compiler notes the scripts from now on. -/
def noted (s : Session σ κ) : Session σ (Noting κ) :=
  { s with compiler := { inner := s.compiler } }

variable [Backend σ] [ScriptCompiler κ]

theorem unnoted_play (s : Session σ (Noting κ)) (acts : List Act) :
    (s.play acts).unnoted = s.unnoted.play acts :=
  let scripts : CompilerMap (Noting κ) κ := ⟨Noting.inner, fun _ _ => rfl, fun _ _ => rfl⟩
  (through_play scripts s acts).symm

/-! ## Frames and pictures load nothing -/

/-- A frame asks the compiler once at most, and leaves settings, channel and thumbnail
alone. -/
theorem runFrame_aside (size : Extent) (time : Single) (s : Session σ κ) :
    (runFrame size time s).2.settings = s.settings ∧
      (runFrame size time s).2.inbox = s.inbox ∧
      (runFrame size time s).2.thumbnail = s.thumbnail ∧
      ((runFrame size time s).2.compiler = s.compiler ∨
        (runFrame size time s).2.compiler = (s.evaluation size.atLeastOne time).2) := by
  cases hstate : s.state with
  | idle =>
    rw [runFrame_idle hstate]
    exact ⟨rfl, rfl, rfl, .inl rfl⟩
  | ready =>
    rw [runFrame_ready hstate]
    cases herror : (s.evaluation size.atLeastOne time).1.error with
    | some d =>
      rw [runReady_failed herror, closeFrame_fields, evaluated, openFrame_fields]
      exact ⟨rfl, rfl, rfl, .inr rfl⟩
    | none =>
      rw [runReady_drawn herror, closeFrame_fields, fetched, meetAll_fields, begun, evaluated,
        openFrame_fields]
      exact ⟨rfl, rfl, rfl, .inr rfl⟩

theorem capture_aside (size : Extent) (time : Single) (s : Session σ κ) :
    (capture size time s).2.settings = s.settings ∧
      (capture size time s).2.inbox = s.inbox ∧
      (capture size time s).2.thumbnail = s.thumbnail := by
  let t : Session σ κ := (onBackend readSurface (runFrame size time s).2).2
  have ht : (capture size time s).2 = (restoreSize s.surfaceSize t).2 := rfl
  obtain ⟨hsettings, hinbox, hthumbnail, -⟩ := runFrame_aside size time s
  rw [ht, restoreSize_fields]
  exact ⟨hsettings, hinbox, hthumbnail⟩

/-- The notes last through all that is done without a load. -/
theorem scripts_framing (scripts : List String) :
    Framing fun s : Session σ (Noting κ) => s.compiler.scripts = scripts where
  frame size time s h := by
    rcases (runFrame_aside size time s).2.2.2 with hcompiler | hcompiler
    · rw [hcompiler]
      exact h
    · rw [hcompiler]
      exact h
  read s h := h
  restore s h t ht := by
    rw [restoreSize_fields]
    exact ht
  notes s _ _ _ h := h

/-! ## Ticks -/

/-- The session after a load and the picture of it, if one is to be taken and can be. -/
def pictured (time : Single) (loaded : Except ScriptError Unit × Session σ κ) : Session σ κ :=
  match loaded with
  | (.ok (), s) =>
    if s.settings.thumbnailOnLoad then
      match capture s.settings.thumbnailSize time s with
      | (.ok picture, s) => { s with thumbnail := some picture }
      | (.error _, s) => s
    else s
  | (.error _, s) => s

variable {s : Session σ κ} {size : Extent} {time : Single} {script : String}

theorem pictureLoad_eq (time : Single) (loaded : Except ScriptError Unit × Session σ κ) :
    (pictureLoad (some loaded.1) time loaded.2).2 = pictured time loaded := by
  obtain ⟨_ | u, s⟩ := loaded
  · rfl
  · by_cases h : s.settings.thumbnailOnLoad
    · simp only [pictureLoad, pictured, run_bind, run_get, h, if_true, captureDefault]
      rcases capture s.settings.thumbnailSize time s with ⟨_ | picture, t⟩ <;> rfl
    · simp only [pictureLoad, pictured, run_bind, run_get, h]
      rfl

omit [Backend σ] [ScriptCompiler κ] in
theorem takeScript_attached {c : Channel} (h : s.inbox = some c) :
    takeScript s = (c.pending, { s with inbox := some .empty }) := by
  simp only [takeScript, h, Channel.takeLatest_eq]
  rfl

/-- A tick that finds no script is a frame. -/
theorem tick_empty (h : s.inbox = some .empty) : tick size time s = runFrame size time s := by
  have hnone : takeScript s = (none, s) := by
    rw [takeScript_attached h, ← h]
    rfl
  have hload := runFrame_load size time s
  simp only [tick_eq, loadNewest, run_bind, hnone, run_pure, pictureLoad]
  rw [← hload]
  rfl

/-- A tick that finds a script loads it, takes its picture and runs a frame. -/
theorem tick_pending (h : s.inbox = some ⟨some script⟩) :
    let loaded := loadScript script { s with inbox := some .empty }
    let shown := pictured time loaded
    tick size time s
      = ({ (runFrame size time shown).1 with load := some loaded.1 },
        (runFrame size time shown).2) := by
  intro loaded shown
  have hshown : (pictureLoad (some loaded.1) time loaded.2).2 = shown := pictureLoad_eq time loaded
  simp only [tick_eq, loadNewest, run_bind, takeScript_attached h, run_pure]
  rw [← hshown]

theorem pictured_inbox (time : Single) (loaded : Except ScriptError Unit × Session σ κ) :
    (pictured time loaded).inbox = loaded.2.inbox := by
  obtain ⟨_ | u, s⟩ := loaded
  · rfl
  · have hinbox := (capture_aside s.settings.thumbnailSize time s).2.1
    unfold pictured
    dsimp only
    split
    · generalize capture s.settings.thumbnailSize time s = taken at hinbox ⊢
      obtain ⟨_ | picture, t⟩ := taken <;> exact hinbox
    · rfl

/-- A picture is kept of a load that succeeds, if the settings ask for it and it can be
read. -/
theorem pictured_thumbnail (time : Single) (loaded : Except ScriptError Unit × Session σ κ) :
    (pictured time loaded).thumbnail = loaded.2.thumbnail ∨
      ∃ picture, loaded.1 = .ok () ∧ loaded.2.settings.thumbnailOnLoad ∧
        (capture loaded.2.settings.thumbnailSize time loaded.2).1 = .ok picture ∧
        (pictured time loaded).thumbnail = some picture := by
  obtain ⟨_ | u, s⟩ := loaded
  · exact .inl rfl
  · have hthumbnail := (capture_aside s.settings.thumbnailSize time s).2.2
    unfold pictured
    dsimp only
    split
    · next h =>
      generalize capture s.settings.thumbnailSize time s = taken at hthumbnail ⊢
      obtain ⟨_ | picture, t⟩ := taken
      · exact .inl hthumbnail
      · exact .inr ⟨picture, rfl, h, rfl, rfl⟩
    · exact .inl rfl

/-! ## Acts -/

/-- The channel holds the last script of the round. -/
theorem perform_inbox {round : List Act} (h : s.inbox = some ⟨lastSent round⟩) {act : Act}
    (hact : act.LoadsByTick) :
    (act.perform s).2.inbox = some ⟨lastSent (act.since round)⟩ := by
  rw [lastSent_since]
  cases act with
  | load script => exact hact.elim
  | attachInbox => exact hact.elim
  | frame size time => exact (runFrame_aside size time s).2.1.trans h
  | tick size time =>
    cases hlast : lastSent round with
    | none =>
      rw [hlast] at h
      show (tick size time s).2.inbox = _
      rw [tick_empty h]
      exact (runFrame_aside size time s).2.1.trans h
    | some script =>
      rw [hlast] at h
      show (tick size time s).2.inbox = _
      rw [tick_pending h]
      refine (runFrame_aside size time _).2.1.trans ((pictured_inbox time _).trans ?_)
      rw [loadScript_fields]
      rfl
  | capture size time => exact (capture_aside size time s).2.1.trans h
  | captureDefault time => exact (capture_aside s.settings.thumbnailSize time s).2.1.trans h
  | setValue name value => exact h
  | send script =>
    show (send script s).2.inbox = _
    rw [send, h]
    exact congrArg some (Channel.send_eq script _)
  | release => exact h

/-- Only a tick loads. -/
theorem perform_scripts {s : Session σ (Noting κ)} {round : List Act}
    (h : s.inbox = some ⟨lastSent round⟩) {act : Act} (hact : act.LoadsByTick) :
    (act.perform s).2.compiler.scripts
      = s.compiler.scripts ++ if act.isTick then (lastSent round).toList else [] := by
  have hkept : ∀ {t : Session σ (Noting κ)}, t.compiler.scripts = s.compiler.scripts →
      t.compiler.scripts = s.compiler.scripts ++ [] := fun h => by rw [h, List.append_nil]
  have framing := scripts_framing (σ := σ) (κ := κ) s.compiler.scripts
  cases act with
  | load script => exact hact.elim
  | attachInbox => exact hact.elim
  | frame size time => exact hkept (framing.frame size time s rfl)
  | tick size time =>
    cases hlast : lastSent round with
    | none =>
      rw [hlast] at h
      show (tick size time s).2.compiler.scripts = _
      rw [tick_empty h]
      exact hkept (framing.frame size time s rfl)
    | some script =>
      rw [hlast] at h
      show (tick size time s).2.compiler.scripts = _
      rw [tick_pending h]
      have hloaded : (loadScript script { s with inbox := some .empty }).2.compiler.scripts
          = s.compiler.scripts ++ [script] := by
        rw [loadScript_fields]
        rfl
      have framing := scripts_framing (σ := σ) (κ := κ) (s.compiler.scripts ++ [script])
      refine framing.frame size time _ ?_
      rw [← pictureLoad_eq]
      exact framing.pictureLoad _ time _ hloaded
  | capture size time => exact hkept (framing.capture size time s rfl)
  | captureDefault time => exact hkept (framing.captureDefault time s rfl)
  | setValue name value => exact hkept rfl
  | send script => exact hkept (framing.send script s rfl)
  | release => exact hkept rfl

/-- Only a tick that loads a script changes the thumbnail, to a picture of what was loaded. -/
theorem perform_thumbnail {round : List Act} (h : s.inbox = some ⟨lastSent round⟩) {act : Act}
    (hact : act.LoadsByTick) (hnew : (act.perform s).2.thumbnail ≠ s.thumbnail) :
    ∃ size time script picture, act = .tick size time ∧ lastSent round = some script ∧
      let loaded := loadScript script { s with inbox := some .empty }
      loaded.1 = .ok () ∧ s.settings.thumbnailOnLoad ∧
        (capture s.settings.thumbnailSize time loaded.2).1 = .ok picture ∧
        (act.perform s).2.thumbnail = some picture := by
  cases act with
  | load script => exact hact.elim
  | attachInbox => exact hact.elim
  | frame size time => exact absurd (runFrame_aside size time s).2.2.1 hnew
  | tick size time =>
    cases hlast : lastSent round with
    | none =>
      rw [hlast] at h
      refine absurd ?_ hnew
      show (tick size time s).2.thumbnail = _
      rw [tick_empty h]
      exact (runFrame_aside size time s).2.2.1
    | some script =>
      rw [hlast] at h
      have htick : (tick size time s).2.thumbnail
          = (pictured time (loadScript script { s with inbox := some .empty })).thumbnail := by
        rw [tick_pending h]
        exact (runFrame_aside size time _).2.2.1
      have hfields := loadScript_fields script { s with inbox := some .empty }
      have hsettings := congrArg Session.settings hfields
      rcases pictured_thumbnail time (loadScript script { s with inbox := some .empty })
        with hsame | ⟨picture, hok, hasked, hread, hkept⟩
      · exact absurd (htick.trans (hsame.trans (congrArg Session.thumbnail hfields))) hnew
      · rw [hsettings] at hasked hread
        exact ⟨size, time, script, picture, rfl, rfl, hok, hasked, hread, htick.trans hkept⟩
  | capture size time => exact absurd (capture_aside size time s).2.2 hnew
  | captureDefault time =>
    exact absurd (capture_aside s.settings.thumbnailSize time s).2.2 hnew
  | setValue name value => exact absurd rfl hnew
  | send script =>
    refine absurd ?_ hnew
    show (send script s).2.thumbnail = _
    rw [send, h]
  | release => exact absurd rfl hnew

/-! ## Runs -/

theorem play_inbox {round : List Act} (h : s.inbox = some ⟨lastSent round⟩) {acts : List Act}
    (hacts : ∀ act ∈ acts, act.LoadsByTick) :
    (s.play acts).inbox = some ⟨lastSent (sinceTick round acts)⟩ := by
  induction acts generalizing s round with
  | nil => exact h
  | cons act acts ih =>
    rw [List.forall_mem_cons] at hacts
    exact ih (perform_inbox h hacts.1) hacts.2

theorem play_scripts {s : Session σ (Noting κ)} {round : List Act}
    (h : s.inbox = some ⟨lastSent round⟩) {acts : List Act}
    (hacts : ∀ act ∈ acts, act.LoadsByTick) :
    (s.play acts).compiler.scripts
      = s.compiler.scripts ++ (rounds round acts).filterMap lastSent := by
  induction acts generalizing s round with
  | nil => exact (List.append_nil _).symm
  | cons act acts ih =>
    rw [List.forall_mem_cons] at hacts
    rw [play, ih (perform_inbox h hacts.1) hacts.2, perform_scripts h hacts.1, List.append_assoc,
      rounds, List.filterMap_append]
    congr 2
    split
    · cases hlast : lastSent round <;> simp [hlast]
    · rfl

/-- Scripts are sent to the one channel of a session and loaded by ticks alone, while frames,
pictures, variables and releases come and go. Then the compiler is given the last script sent
in each round that a tick ends, if one was sent in it, and no other: `scripts` are the notes
of a compiler that answers as the session's own. The scripts that are pending at the start
count for the first round. A tick without a script is a frame and tells of no load. A tick
with one is a load, the picture of it if the load succeeds and the settings ask for one, and
a frame, and it tells how the load went. Nothing else changes the thumbnail, and a picture
that cannot be read does not. -/
theorem ticks_load_newest {s : Session σ κ} {c : Channel} (hc : s.inbox = some c)
    {acts : List Act} (hacts : ∀ act ∈ acts, act.LoadsByTick) :
    let first := c.pending.toList.map Act.send
    (s.noted.play acts).unnoted = s.play acts ∧
    (s.noted.play acts).compiler.scripts = (rounds first acts).filterMap lastSent ∧
    ∀ before act after, acts = before ++ act :: after →
      let t := s.play before
      let newest := lastSent (sinceTick first before)
      (∀ size time, act = .tick size time → newest = none →
        tick size time t = runFrame size time t ∧ (tick size time t).1.load = none) ∧
      (∀ size time script, act = .tick size time → newest = some script →
        let loaded := loadScript script { t with inbox := some .empty }
        let shown := pictured time loaded
        tick size time t
          = ({ (runFrame size time shown).1 with load := some loaded.1 },
            (runFrame size time shown).2)) ∧
      ((act.perform t).2.thumbnail ≠ t.thumbnail →
        ∃ size time script picture, act = .tick size time ∧ newest = some script ∧
          let loaded := loadScript script { t with inbox := some .empty }
          loaded.1 = .ok () ∧ t.settings.thumbnailOnLoad ∧
            (capture t.settings.thumbnailSize time loaded.2).1 = .ok picture ∧
            (act.perform t).2.thumbnail = some picture) := by
  intro first
  have hfirst : lastSent first = c.pending := by
    obtain ⟨_ | script⟩ := c <;> rfl
  have hinbox : s.inbox = some ⟨lastSent first⟩ := by rw [hc, hfirst]
  refine ⟨unnoted_play s.noted acts, ?_, ?_⟩
  · exact play_scripts (s := s.noted) hinbox hacts
  · rintro before act after rfl t newest
    rw [List.forall_mem_append, List.forall_mem_cons] at hacts
    have ht : t.inbox = some ⟨newest⟩ := play_inbox hinbox hacts.1
    refine ⟨fun size time _ hnone => ?_, fun size time script _ hsome => ?_,
      perform_thumbnail ht hacts.2.1⟩
    · rw [hnone] at ht
      rw [tick_empty ht]
      exact ⟨rfl, runFrame_load size time t⟩
    · rw [hsome] at ht
      exact tick_pending ht

/-- An editor whose script `b` does not compile. -/
def editor : Scripted LoadResult FrameResult (List ContextInput) where
  loads := .ofList [("a", ⟨[], [], none⟩), ("b", .failed ⟨1, 1, "unbound"⟩)]
  frames := []

def unedited : Session (Recorder fun _ => .ok ⟨[], []⟩)
    (Scripted LoadResult FrameResult (List ContextInput)) :=
  { fresh {} editor { thumbnailSize := ⟨1, 1⟩ } with inbox := some .empty }

/-- Two edits, and ticks before, between and after them. -/
def edits : List Act :=
  [.tick ⟨4, 4⟩ .zero, .send "b", .frame ⟨4, 4⟩ .zero, .send "a", .tick ⟨4, 4⟩ .zero, .send "b",
    .tick ⟨4, 4⟩ .zero, .tick ⟨4, 4⟩ .zero]

/-- The first edit is never loaded, and the thumbnail is that of the second. -/
theorem ticks_load_newest_edits :
    let before := unedited.play (edits.take 4)
    (unedited.noted.play edits).compiler.scripts = ["a", "b"] ∧
      before.thumbnail = none ∧ ∃ picture,
        (capture before.settings.thumbnailSize .zero
          (loadScript "a" { before with inbox := some .empty }).2).1 = .ok picture ∧
        (tick ⟨4, 4⟩ .zero before).2.thumbnail = some picture ∧
        (unedited.play edits).thumbnail = some picture := by
  intro before
  have hacts : ∀ act ∈ edits, act.LoadsByTick := by
    simp only [edits, List.forall_mem_cons, Act.LoadsByTick]
    exact ⟨trivial, trivial, trivial, trivial, trivial, trivial, trivial, trivial, nofun⟩
  have hrun : before.thumbnail = none ∧
      ((Act.tick ⟨4, 4⟩ .zero).perform before).2.thumbnail ≠ none ∧
      (unedited.play edits).thumbnail
        = ((Act.tick ⟨4, 4⟩ .zero).perform before).2.thumbnail := by
    decide +kernel
  obtain ⟨hbefore, hchanged, hlater⟩ := hrun
  obtain ⟨-, hscripts, hticks⟩ := ticks_load_newest (s := unedited) (c := .empty) rfl hacts
  obtain ⟨-, -, hthumbnail⟩ :=
    hticks (edits.take 4) (.tick ⟨4, 4⟩ .zero) (edits.drop 5) (by decide)
  obtain ⟨size, time, script, picture, hact, hlast, -, -, hread, hkept⟩ :=
    hthumbnail (hbefore ▸ hchanged)
  obtain ⟨-, rfl⟩ := Act.tick.inj hact
  obtain rfl : script = "a" := Option.some.inj (hlast.symm.trans (by decide))
  exact ⟨hscripts.trans (by decide), hbefore, picture, hread, hkept, hlater.trans hkept⟩

end Session
end FrameGraph
