import Mathlib
import FrameGraph.Inbox

/-!
# Senders and the receiver side by side

Any number of sends and takes share one channel. Each makes one step of its own
program at a time (`SendPhase.step`, `TakePhase.step`), and their steps follow one
another in any order. A run is the list of moves made; a send or a take is known by
its place in the order in which they began. Two things are kept beside the channel,
read off from what each step does to it and read by no step: whose script is pending,
and which take got the script of which send.

Results:
* `make_step`: the ways in which a move goes.
* `send_uninterrupted`, `take_uninterrupted`: the steps of a send or a take that are
  not mixed with others are `Channel.send` and `Channel.takeLatest`.
* `run_sound`: the pending script, and those that the receiver got, are of different
  sends that have returned.
-/
namespace FrameGraph

namespace Channel

theorem drain_eq (latest : Option String) (c : Channel) :
    drain latest c = (c.pending <|> latest, ⟨none⟩) := by
  obtain ⟨_ | script⟩ := c
  · rw [drain]
    rfl
  · rw [drain, dif_pos (by rfl), drain]
    rfl

theorem takeLatest_eq (c : Channel) : takeLatest c = (c.pending, ⟨none⟩) := by
  rw [takeLatest, drain_eq, ← Option.failure_eq_none, orElse_failure]

theorem send_eq (script : String) (c : Channel) : (send script c).2 = ⟨some script⟩ := by
  obtain ⟨_ | old⟩ := c
  · rfl
  · show (offer script (drain none ⟨some old⟩).2).2 = _
    rw [drain_eq]
    rfl

end Channel

namespace SendPhase

def script : SendPhase → String
  | offering script | draining script | retrying script | sent script => script

def returned : SendPhase → Bool
  | sent _ => true
  | _ => false

/-- The channel was found full, and the script has not been offered again yet. -/
def betweenOffers : SendPhase → Bool
  | draining _ | retrying _ => true
  | _ => false

/-- The channel has been empty since the send began. -/
def cleared : SendPhase → Bool
  | retrying _ | sent _ => true
  | _ => false

variable (script old : String)

@[simp] theorem step_offering_empty :
    (offering script).step ⟨none⟩ = (sent script, ⟨some script⟩) := rfl

@[simp] theorem step_offering_full :
    (offering script).step ⟨some old⟩ = (draining script, ⟨some old⟩) := rfl

@[simp] theorem step_draining_empty :
    (draining script).step ⟨none⟩ = (retrying script, ⟨none⟩) := rfl

@[simp] theorem step_draining_full :
    (draining script).step ⟨some old⟩ = (draining script, ⟨none⟩) := rfl

@[simp] theorem step_retrying_empty :
    (retrying script).step ⟨none⟩ = (sent script, ⟨some script⟩) := rfl

@[simp] theorem step_retrying_full :
    (retrying script).step ⟨some old⟩ = (sent script, ⟨some old⟩) := rfl

@[simp] theorem step_sent (c : Channel) : (sent script).step c = (sent script, c) := rfl

end SendPhase

namespace TakePhase

/-- The last script found so far. -/
def latest : TakePhase → Option String
  | polling latest | taken latest => latest

variable (latest : Option String)

@[simp] theorem step_polling_empty : (polling latest).step ⟨none⟩ = (taken latest, ⟨none⟩) := rfl

@[simp] theorem step_polling_full (script : String) :
    (polling latest).step ⟨some script⟩ = (polling (some script), ⟨none⟩) := rfl

@[simp] theorem step_taken (c : Channel) : (taken latest).step c = (taken latest, c) := rfl

end TakePhase

namespace Channel

/-- Whose script is pending after a step of send `i`, or of a take if there is no `i`. -/
def holderAfter (before after : Channel) (i holder : Option Nat) : Option Nat :=
  match before.pending, after.pending with
  | none, some _ => i
  | some _, none => none
  | _, _ => holder

/-- Whose script the step has taken out. -/
def removed (before after : Channel) (holder : Option Nat) : Option Nat :=
  match before.pending, after.pending with
  | some _, none => holder
  | _, _ => none

end Channel

/-- Sends and takes in the order in which they began, and the channel between them. -/
structure Handoff where
  channel : Channel := .empty
  sends : List SendPhase := []
  takes : List TakePhase := []
  /-- The send whose script is pending. -/
  holder : Option Nat := none
  /-- Each script the receiver got, as the take and the send, in that order. -/
  received : List (Nat × Nat) := []
  deriving DecidableEq, Repr

namespace Handoff

inductive Move where
  | beginSend (script : String)
  | sendStep (i : Nat)
  | beginTake
  | takeStep (j : Nat)
  deriving DecidableEq, Repr

def make (s : Handoff) : Move → Handoff
  | .beginSend script => { s with sends := s.sends ++ [.offering script] }
  | .sendStep i =>
    match s.sends[i]? with
    | none => s
    | some phase =>
      let (phase', channel) := phase.step s.channel
      { s with
        channel
        sends := s.sends.set i phase'
        holder := s.channel.holderAfter channel (some i) s.holder }
  | .beginTake => { s with takes := s.takes ++ [.polling none] }
  | .takeStep j =>
    match s.takes[j]? with
    | none => s
    | some phase =>
      let (phase', channel) := phase.step s.channel
      { s with
        channel
        takes := s.takes.set j phase'
        holder := s.channel.holderAfter channel none s.holder
        received := s.received ++ (s.channel.removed channel s.holder).toList.map (j, ·) }

def run (s : Handoff) (moves : List Move) : Handoff := moves.foldl make s

/-- Nothing is pending, and nobody has begun. -/
def start : Handoff := {}

/-- Send `i` has returned. -/
def Returned (s : Handoff) (i : Nat) : Prop := ∃ script, s.sends[i]? = some (.sent script)

instance (s : Handoff) (i : Nat) : Decidable (s.Returned i) :=
  match h : s.sends[i]? with
  | some (.sent script) => isTrue ⟨script, h⟩
  | some (.offering _) | some (.draining _) | some (.retrying _) | none =>
    isFalse fun ⟨_, h'⟩ => nomatch h.symm.trans h'

/-- Every send that has begun has returned. -/
def Settled (s : Handoff) : Prop := ∀ i < s.sends.length, s.Returned i

instance (s : Handoff) : Decidable s.Settled :=
  inferInstanceAs (Decidable (∀ i < s.sends.length, s.Returned i))

/-- The script of send `i`. -/
def scriptOf (s : Handoff) (i : Nat) : Option String := s.sends[i]?.map SendPhase.script

/-- The sends whose scripts take `j` got, in that order. -/
def receivedBy (received : List (Nat × Nat)) (j : Nat) : List Nat :=
  (received.filter (·.1 = j)).map Prod.snd

@[simp] theorem run_nil (s : Handoff) : s.run [] = s := rfl

@[simp] theorem run_cons (s : Handoff) (m : Move) (ms : List Move) :
    s.run (m :: ms) = (s.make m).run ms := rfl

theorem run_append (s : Handoff) (ms ms' : List Move) :
    s.run (ms ++ ms') = (s.run ms).run ms' :=
  List.foldl_append

/-! ## Steps that are not mixed with others -/

/-- The steps of a send that no other step comes between are `Channel.send`. -/
theorem send_uninterrupted {s : Handoff} {i : Nat} {script : String}
    (h : s.sends[i]? = some (.offering script)) :
    let s' := s.run (List.replicate 4 (.sendStep i))
    s'.channel = (Channel.send script s.channel).2 ∧ s'.sends = s.sends.set i (.sent script) := by
  have hset (phase : SendPhase) : (s.sends.set i phase)[i]? = some phase :=
    List.getElem?_set_self (List.getElem?_eq_some_iff.mp h).1
  obtain ⟨⟨_ | old⟩, sends, takes, holder, received⟩ := s <;> dsimp only at h hset
  all_goals simp [List.replicate, make, h, hset, Channel.send_eq]

/-- The steps of a take that no other step comes between are `Channel.takeLatest`. -/
theorem take_uninterrupted {s : Handoff} {j : Nat} (h : s.takes[j]? = some (.polling none)) :
    let s' := s.run (List.replicate 2 (.takeStep j))
    s'.channel = (Channel.takeLatest s.channel).2 ∧
      s'.takes = s.takes.set j (.taken (Channel.takeLatest s.channel).1) := by
  have hset (phase : TakePhase) : (s.takes.set j phase)[j]? = some phase :=
    List.getElem?_set_self (List.getElem?_eq_some_iff.mp h).1
  obtain ⟨⟨_ | script⟩, sends, takes, holder, received⟩ := s <;> dsimp only at h hset
  all_goals simp [List.replicate, make, h, hset, Channel.takeLatest_eq]

/-! ## What a move does -/

/-- The ways in which a move goes, each with what it changes. -/
inductive Step (s : Handoff) : Move → Handoff → Prop
  | beginSend (script : String) :
    Step s (.beginSend script) { s with sends := s.sends ++ [.offering script] }
  | put {i : Nat} {script : String}
      (phase : s.sends[i]? = some (.offering script) ∨ s.sends[i]? = some (.retrying script))
      (empty : s.channel.pending = none) :
    Step s (.sendStep i)
      { s with
        channel := ⟨some script⟩, sends := s.sends.set i (.sent script), holder := some i }
  | refused {i : Nat} {script old : String} (phase : s.sends[i]? = some (.offering script))
      (full : s.channel.pending = some old) :
    Step s (.sendStep i) { s with sends := s.sends.set i (.draining script) }
  | dropped {i : Nat} {script old : String} (phase : s.sends[i]? = some (.draining script))
      (full : s.channel.pending = some old) :
    Step s (.sendStep i) { s with channel := ⟨none⟩, holder := none }
  | dry {i : Nat} {script : String} (phase : s.sends[i]? = some (.draining script))
      (empty : s.channel.pending = none) :
    Step s (.sendStep i) { s with sends := s.sends.set i (.retrying script) }
  | forgone {i : Nat} {script old : String} (phase : s.sends[i]? = some (.retrying script))
      (full : s.channel.pending = some old) :
    Step s (.sendStep i) { s with sends := s.sends.set i (.sent script) }
  | beginTake : Step s .beginTake { s with takes := s.takes ++ [.polling none] }
  | took {j : Nat} {latest : Option String} {script : String}
      (phase : s.takes[j]? = some (.polling latest)) (full : s.channel.pending = some script) :
    Step s (.takeStep j)
      { s with
        channel := ⟨none⟩
        takes := s.takes.set j (.polling (some script))
        holder := none
        received := s.received ++ s.holder.toList.map (j, ·) }
  | ended {j : Nat} {latest : Option String} (phase : s.takes[j]? = some (.polling latest))
      (empty : s.channel.pending = none) :
    Step s (.takeStep j) { s with takes := s.takes.set j (.taken latest) }
  | idleSend {i : Nat} (phase : s.sends[i]? = none ∨ s.Returned i) : Step s (.sendStep i) s
  | idleTake {j : Nat} (phase : s.takes[j]? = none ∨ ∃ latest, s.takes[j]? = some (.taken latest)) :
    Step s (.takeStep j) s

theorem set_of_getElem? {α : Type} {l : List α} {i : Nat} {a : α} (h : l[i]? = some a) :
    l.set i a = l := by
  obtain ⟨hi, rfl⟩ := List.getElem?_eq_some_iff.mp h
  exact List.set_getElem_self hi

theorem step_sendStep (s : Handoff) (i : Nat) : Step s (.sendStep i) (s.make (.sendStep i)) := by
  obtain ⟨⟨pending⟩, sends, takes, holder, received⟩ := s
  cases h : sends[i]? with
  | none => simpa only [make, h] using Step.idleSend (.inl h)
  | some phase =>
    simp only [make, h]
    -- A step that leaves the phase alone writes it back where it stood.
    have hs := set_of_getElem? h
    cases phase with
    | offering script =>
      cases pending with
      | none => exact .put (.inl h) rfl
      | some old => exact .refused h rfl
    | draining script =>
      cases pending with
      | none => exact .dry h rfl
      | some old =>
        refine Eq.subst (motive := Step _ _) ?_ (.dropped h rfl)
        exact congrArg (Handoff.mk ⟨none⟩ · takes none received) hs.symm
    | retrying script =>
      cases pending with
      | none => exact .put (.inr h) rfl
      | some old => exact .forgone h rfl
    | sent script =>
      refine Eq.subst (motive := Step _ _) ?_ (.idleSend (.inr ⟨script, h⟩))
      cases pending <;> exact congrArg (Handoff.mk _ · takes holder received) hs.symm

theorem step_takeStep (s : Handoff) (j : Nat) : Step s (.takeStep j) (s.make (.takeStep j)) := by
  obtain ⟨⟨pending⟩, sends, takes, holder, received⟩ := s
  cases h : takes[j]? with
  | none => simpa only [make, h] using Step.idleTake (.inl h)
  | some phase =>
    simp only [make, h]
    have hs := set_of_getElem? h
    cases phase with
    | polling latest =>
      cases pending with
      | none =>
        refine Eq.subst (motive := Step _ _) ?_ (.ended h rfl)
        exact congrArg (Handoff.mk _ sends _ holder) (List.append_nil received).symm
      | some script => exact .took h rfl
    | taken latest =>
      refine Eq.subst (motive := Step _ _) ?_ (.idleTake (.inr ⟨latest, h⟩))
      cases pending <;>
        exact congrArg₂ (Handoff.mk _ sends · holder ·) hs.symm (List.append_nil received).symm

theorem make_step (s : Handoff) (m : Move) : Step s m (s.make m) := by
  cases m with
  | beginSend script => exact .beginSend script
  | sendStep i => exact step_sendStep s i
  | beginTake => exact .beginTake
  | takeStep j => exact step_takeStep s j

/-- What every move keeps, every run keeps. -/
theorem run_keeps {P : Handoff → Prop} (step : ∀ {s m s'}, Step s m s' → P s → P s')
    {s : Handoff} (h : P s) (moves : List Move) : P (s.run moves) := by
  induction moves generalizing s with
  | nil => exact h
  | cons m ms ih => exact ih (step (make_step s m) h)

/-! ## What stays as it was -/

/-- Sends keep their scripts and stay returned, no take is forgotten, and nothing that the
receiver got is undone. -/
structure Extends (s s' : Handoff) : Prop where
  script : ∀ {i script}, s.scriptOf i = some script → s'.scriptOf i = some script
  returned : ∀ {i}, s.Returned i → s'.Returned i
  takes : s.takes.length ≤ s'.takes.length
  received : s.received <+: s'.received

theorem Extends.refl (s : Handoff) : s.Extends s := ⟨id, id, le_rfl, List.prefix_rfl⟩

theorem Extends.trans {s s' s'' : Handoff} (h : s.Extends s') (h' : s'.Extends s'') :
    s.Extends s'' :=
  ⟨h'.script ∘ h.script, h'.returned ∘ h.returned, h.takes.trans h'.takes,
    h.received.trans h'.received⟩

/-- A send goes on to a phase with the same script. -/
theorem extends_set {s s' : Handoff} {i : Nat} {phase phase' : SendPhase}
    (h : s.sends[i]? = some phase) (sends : s'.sends = s.sends.set i phase')
    (takes : s'.takes = s.takes) (received : s'.received = s.received)
    (script : phase'.script = phase.script) (returned : phase.returned = false) :
    s.Extends s' where
  script {k _} hk := by
    simp only [scriptOf, sends] at hk ⊢
    grind
  returned {k} hk := by
    obtain ⟨t, hk⟩ := hk
    have : k ≠ i := by
      rintro rfl
      cases h.symm.trans hk
      cases returned
    exact ⟨t, by rw [sends, List.getElem?_set_ne this.symm, hk]⟩
  takes := takes ▸ le_rfl
  received := received ▸ List.prefix_rfl

theorem Step.extends {s s' : Handoff} {m : Move} (h : Step s m s') : s.Extends s' := by
  cases h with
  | beginSend script =>
    refine ⟨fun {i t} hi => ?_, fun {i} ⟨t, hi⟩ => ⟨t, ?_⟩, le_rfl, List.prefix_rfl⟩
    · simp only [scriptOf] at hi ⊢
      grind
    · grind
  | put phase empty =>
    rcases phase with phase | phase <;> exact extends_set phase rfl rfl rfl rfl rfl
  | refused phase full => exact extends_set phase rfl rfl rfl rfl rfl
  | dropped phase full => exact ⟨id, id, le_rfl, List.prefix_rfl⟩
  | dry phase empty => exact extends_set phase rfl rfl rfl rfl rfl
  | forgone phase full => exact extends_set phase rfl rfl rfl rfl rfl
  | beginTake => exact ⟨id, id, by simp, List.prefix_rfl⟩
  | took phase full => exact ⟨id, id, by simp, List.prefix_append ..⟩
  | ended phase empty => exact ⟨id, id, by simp, List.prefix_rfl⟩
  | idleSend | idleTake => exact .refl s

theorem run_extends (s : Handoff) (moves : List Move) : s.Extends (s.run moves) :=
  run_keeps (fun h h' => h'.trans h.extends) (.refl s) moves

/-! ## Whose script is where -/

theorem scriptOf_of_returned {s : Handoff} {i : Nat} (h : s.Returned i) :
    ∃ script, s.scriptOf i = some script := by
  obtain ⟨script, h⟩ := h
  exact ⟨script, by rw [scriptOf, h]; rfl⟩

theorem mem_receivedBy {received : List (Nat × Nat)} {i j : Nat} :
    i ∈ receivedBy received j ↔ (j, i) ∈ received := by
  simp [receivedBy]

theorem receivedBy_append (received : List (Nat × Nat)) (j i k : Nat) :
    receivedBy (received ++ [(j, i)]) k = receivedBy received k ++ if j = k then [i] else [] := by
  by_cases h : j = k <;> simp [receivedBy, h]

/-- The pending script, and those that the receiver got, are of different sends that have
returned, and a take has found the script of the last send that it got. -/
structure Sound (s : Handoff) : Prop where
  pending : s.channel.pending = s.holder.bind s.scriptOf
  holder : ∀ {i}, s.holder = some i → s.Returned i
  received : ∀ {j i}, (j, i) ∈ s.received → j < s.takes.length ∧ s.Returned i ∧ s.holder ≠ some i
  once : (s.received.map Prod.snd).Nodup
  latest : ∀ {j phase}, s.takes[j]? = some phase →
    phase.latest = (receivedBy s.received j).getLast?.bind s.scriptOf

theorem sound_start : Sound start :=
  ⟨rfl, nofun, nofun, .nil, nofun⟩

theorem Sound.pending_extends {s s' : Handoff} (h : s.Sound) (e : s.Extends s') :
    s.channel.pending = s.holder.bind s'.scriptOf := by
  rw [h.pending]
  cases hi : s.holder with
  | none => rfl
  | some i =>
    obtain ⟨script, hs⟩ := scriptOf_of_returned (h.holder hi)
    exact hs.trans (e.script hs).symm

/-- A send's own step: what it makes pending is its own script, offered for the last time. -/
theorem Sound.sendStep {s s' : Handoff} (h : s.Sound) (e : s.Extends s')
    (takes : s'.takes = s.takes)
    (received : s'.received = s.received)
    (pending : s'.channel.pending = s'.holder.bind s'.scriptOf)
    (holder : ∀ {i}, s'.holder = some i → s.holder = some i ∨ ¬ s.Returned i ∧ s'.Returned i) :
    s'.Sound where
  pending := pending
  holder hi := (holder hi).elim (e.returned ∘ h.holder) And.right
  received {j i} hr := by
    obtain ⟨hj, hi, hne⟩ := h.received (received ▸ hr)
    refine ⟨takes ▸ hj, e.returned hi, fun heq => ?_⟩
    rcases holder heq with heq | ⟨hn, -⟩
    · exact hne heq
    · exact hn hi
  once := received ▸ h.once
  latest {j phase} hj := by
    rw [h.latest (takes ▸ hj), received]
    cases hl : (receivedBy s.received j).getLast? with
    | none => rfl
    | some i =>
      have hi := h.received (mem_receivedBy.mp (List.mem_of_getLast? hl))
      obtain ⟨script, hs⟩ := scriptOf_of_returned hi.2.1
      exact hs.trans (e.script hs).symm

theorem Sound.beginTake {s : Handoff} (h : s.Sound) :
    Sound { s with takes := s.takes ++ [.polling none] } where
  pending := h.pending
  holder := h.holder
  received hr := (h.received hr).imp (fun hj => by simpa using Nat.lt_succ_of_lt hj) id
  once := h.once
  latest {j phase} hj := by
    rcases lt_or_ge j s.takes.length with hlt | hge
    · exact h.latest ((List.getElem?_append_left hlt).symm.trans hj)
    · have hp : phase = .polling none := by grind
      have hnone : receivedBy s.received j = [] := by
        refine List.eq_nil_iff_forall_not_mem.mpr fun i hi => ?_
        exact (h.received (mem_receivedBy.mp hi)).1.not_ge hge
      show phase.latest = (receivedBy s.received j).getLast?.bind s.scriptOf
      rw [hp, hnone]
      rfl

theorem Sound.ended {s : Handoff} (h : s.Sound) {j : Nat} {latest : Option String}
    (phase : s.takes[j]? = some (.polling latest)) :
    Sound { s with takes := s.takes.set j (.taken latest) } where
  pending := h.pending
  holder := h.holder
  received hr := (h.received hr).imp (fun hj => by simpa using hj) id
  once := h.once
  latest {k phase'} hk := by
    by_cases hjk : j = k
    · subst hjk
      cases (List.getElem?_set_self (List.getElem?_eq_some_iff.mp phase).1).symm.trans hk
      exact (h.latest phase :)
    · exact h.latest ((List.getElem?_set_ne hjk).symm.trans hk)

theorem Sound.took {s : Handoff} (h : s.Sound) {j : Nat} {latest : Option String} {script : String}
    (phase : s.takes[j]? = some (.polling latest)) (full : s.channel.pending = some script) :
    Sound
      { s with
        channel := ⟨none⟩
        takes := s.takes.set j (.polling (some script))
        holder := none
        received := s.received ++ s.holder.toList.map (j, ·) } := by
  obtain ⟨i, hi, hscript⟩ := Option.bind_eq_some_iff.mp (h.pending.symm.trans full)
  have hj := (List.getElem?_eq_some_iff.mp phase).1
  have hlist : s.received ++ s.holder.toList.map (j, ·) = s.received ++ [(j, i)] := by rw [hi]; rfl
  simp only [hlist]
  refine ⟨rfl, nofun, fun {k l} hr => ?_, ?_, fun {k phase'} hk => ?_⟩
  · rcases List.mem_append.mp hr with hr | hr
    · obtain ⟨hk, hl, -⟩ := h.received hr
      exact ⟨by simpa using hk, hl, nofun⟩
    · cases List.mem_singleton.mp hr
      exact ⟨by simpa using hj, h.holder hi, nofun⟩
  · have hne : i ∉ s.received.map Prod.snd := by
      intro hm
      obtain ⟨⟨k, l⟩, hr, rfl⟩ := List.mem_map.mp hm
      exact (h.received hr).2.2 hi
    rw [List.map_append]
    exact h.once.append (List.nodup_singleton i) (List.disjoint_singleton.mpr hne)
  · rw [receivedBy_append]
    by_cases hjk : j = k
    · subst hjk
      cases (List.getElem?_set_self hj).symm.trans hk
      rw [if_pos rfl, List.getLast?_concat]
      exact hscript.symm
    · rw [if_neg hjk, List.append_nil]
      exact h.latest ((List.getElem?_set_ne hjk).symm.trans hk)

theorem Step.sound {s s' : Handoff} {m : Move} (step : Step s m s') (h : s.Sound) : s'.Sound := by
  have e := step.extends
  cases step with
  | beginSend script => exact h.sendStep e rfl rfl (h.pending_extends e) .inl
  | put phase empty =>
    rename_i i script
    have hi : i < s.sends.length := by rcases phase with phase | phase <;> grind
    have hset := List.getElem?_set_self (a := SendPhase.sent script) hi
    refine h.sendStep e rfl rfl ?_ fun heq => .inr ?_
    · exact (congrArg (Option.map SendPhase.script) hset).symm
    · cases heq
      refine ⟨fun ⟨t, ht⟩ => ?_, ⟨script, hset⟩⟩
      rcases phase with phase | phase <;> cases phase.symm.trans ht
  | refused phase full => exact h.sendStep e rfl rfl (h.pending_extends e) .inl
  | dropped phase full => exact h.sendStep e rfl rfl rfl nofun
  | dry phase empty => exact h.sendStep e rfl rfl (h.pending_extends e) .inl
  | forgone phase full => exact h.sendStep e rfl rfl (h.pending_extends e) .inl
  | beginTake => exact h.beginTake
  | took phase full => exact h.took phase full
  | ended phase empty => exact h.ended phase
  | idleSend | idleTake => exact h

theorem run_sound (moves : List Move) : (start.run moves).Sound :=
  run_keeps Step.sound sound_start moves

theorem Sound.holder_eq_none {s : Handoff} (h : s.Sound) (empty : s.channel.pending = none) :
    s.holder = none := by
  refine Option.eq_none_iff_forall_ne_some.mpr fun i hi => ?_
  obtain ⟨script, hs⟩ := scriptOf_of_returned (h.holder hi)
  have := h.pending
  simp [empty, hi, hs] at this

end Handoff
end FrameGraph
