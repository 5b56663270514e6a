import Mathlib
import FrameGraph.Proofs.Inbox.Handoff

/-!
# The newest script survives

A script can be lost in three ways: another sender drains it, its second offer finds
the channel full, or the receiver goes on to a newer one. None of them loses the
newest:

* A sender that drains has still to make its second offer, and an offer refused leaves
  a script pending. So once a send has returned, a script is pending or some sender is
  between its two offers, until the receiver takes one (`Supplied`).
* A sender past its first offer and its drain has seen the channel empty after it
  began. A script sent before that is gone for good, since its send will not offer it
  again (`Overtaken`, `Gone`).

Results:
* `newest_survives`: in every state that a run reaches, a script is pending if no send
  is in progress and one has returned since the receiver last took a script; no script
  is pending, or taken, once a send that began after it was sent has returned; and no
  script is taken twice.
-/
namespace FrameGraph.Handoff

/-! ## A script is pending, or about to be -/

/-- A script is pending, or some sender is between its two offers. -/
def Supplied (s : Handoff) : Prop :=
  s.channel.pending.isSome ∨ ∃ (i : Nat) (phase : SendPhase),
    s.sends[i]? = some phase ∧ phase.betweenOffers

/-- The last step of a send leaves a script pending: its own, or one that made it give up. -/
theorem Step.pending_of_returned {s s' : Handoff} {i : Nat} (step : Step s (.sendStep i) s')
    (h : ¬ s.Returned i) (h' : s'.Returned i) : s'.channel.pending.isSome := by
  obtain ⟨t, h'⟩ := h'
  cases step with
  | put phase empty => rfl
  | refused phase full => rw [full]; rfl
  | dropped phase full => exact absurd ⟨t, h'⟩ h
  | dry phase empty =>
    cases (List.getElem?_set_self (List.getElem?_eq_some_iff.mp phase).1).symm.trans h'
  | forgone phase full => rw [full]; rfl
  | idleSend phase => exact absurd ⟨t, h'⟩ h

theorem Step.supplied {s s' : Handoff} {m : Move} (step : Step s m s') (sound : s.Sound)
    (kept : s'.received = s.received) (h : s.Supplied) : s'.Supplied := by
  cases step with
  | beginSend script =>
    refine h.imp id fun ⟨i, phase, hi, hp⟩ => ⟨i, phase, ?_, hp⟩
    exact (List.getElem?_append_left (List.getElem?_eq_some_iff.mp hi).1).trans hi
  | put phase empty => exact .inl rfl
  | refused phase full => exact .inl (by rw [full]; rfl)
  | dropped phase full => exact .inr ⟨_, _, phase, rfl⟩
  | dry phase empty =>
    exact .inr ⟨_, _, List.getElem?_set_self (List.getElem?_eq_some_iff.mp phase).1, rfl⟩
  | forgone phase full => exact .inl (by rw [full]; rfl)
  | took phase full =>
    have hnone : s.holder = none := by simpa using kept
    have := sound.pending
    simp [hnone, full] at this
  | beginTake => exact h
  | ended phase empty => exact h
  | idleSend | idleTake => exact h

/-- As long as the receiver takes nothing. -/
theorem run_supplied {s : Handoff} (sound : s.Sound) (h : s.Supplied) (moves : List Move)
    (kept : (s.run moves).received = s.received) : (s.run moves).Supplied := by
  induction moves generalizing s with
  | nil => exact h
  | cons m ms ih =>
    have step := make_step s m
    have kept' : (s.make m).received = s.received :=
      ((kept ▸ (run_extends (s.make m) ms).received).eq_of_length_le
        step.extends.received.length_le)
    exact ih (step.sound sound) (step.supplied sound kept' h) (kept.trans kept'.symm)

theorem Supplied.pending {s : Handoff} (h : s.Supplied) (settled : s.Settled) :
    s.channel.pending.isSome := by
  refine h.resolve_right fun ⟨i, phase, hi, hp⟩ => ?_
  obtain ⟨t, ht⟩ := settled i (List.getElem?_eq_some_iff.mp hi).1
  cases hi.symm.trans ht
  cases hp

/-! ## A script gone for good -/

/-- Send `i` has returned, and its script is not pending. -/
def Gone (s : Handoff) (i : Nat) : Prop := s.Returned i ∧ s.holder ≠ some i

theorem not_returned_of_offers {s : Handoff} {i : Nat} {script : String}
    (h : s.sends[i]? = some (.offering script) ∨ s.sends[i]? = some (.retrying script)) :
    ¬ s.Returned i := by
  rintro ⟨t, ht⟩
  rcases h with h | h <;> cases h.symm.trans ht

/-- It stays gone, and no take gets it any more. -/
theorem Step.gone {s s' : Handoff} {m : Move} {i : Nat} (step : Step s m s') (h : s.Gone i) :
    s'.Gone i ∧ ∀ j, (j, i) ∈ s'.received → (j, i) ∈ s.received := by
  have hr := step.extends.returned h.1
  cases step with
  | put phase empty =>
    refine ⟨⟨hr, fun heq => ?_⟩, fun _ => id⟩
    cases heq
    exact not_returned_of_offers phase h.1
  | dropped phase full => exact ⟨⟨hr, nofun⟩, fun _ => id⟩
  | took phase full =>
    refine ⟨⟨hr, nofun⟩, fun j hj => (List.mem_append.mp hj).resolve_right fun hm => ?_⟩
    obtain ⟨k, hk, heq⟩ := List.mem_map.mp hm
    cases heq
    exact h.2 (Option.mem_toList.mp hk)
  | beginSend | refused | dry | forgone | beginTake | ended | idleSend | idleTake =>
    exact ⟨⟨hr, h.2⟩, fun _ => id⟩

theorem run_gone {s : Handoff} {i : Nat} (h : s.Gone i) (moves : List Move) :
    (s.run moves).Gone i ∧ ∀ j, (j, i) ∈ (s.run moves).received → (j, i) ∈ s.received := by
  induction moves generalizing s with
  | nil => exact ⟨h, fun _ => id⟩
  | cons m ms ih =>
    obtain ⟨h', hr⟩ := (make_step s m).gone h
    obtain ⟨h'', hr'⟩ := ih h'
    exact ⟨h'', fun j hj => hr j (hr' j hj)⟩

/-- Send `i` has returned, and if send `k` has seen the channel empty, then without the
script of `i`. -/
def Overtaken (s : Handoff) (i k : Nat) : Prop :=
  s.Returned i ∧ ∀ phase, s.sends[k]? = some phase → phase.cleared → s.holder ≠ some i

theorem overtaken_of_not_begun {s : Handoff} {i k : Nat} (h : s.Returned i)
    (hk : s.sends.length ≤ k) : s.Overtaken i k :=
  ⟨h, fun phase hp => absurd hp (by simp [List.getElem?_eq_none hk])⟩

theorem Overtaken.gone {s : Handoff} {i k : Nat} (h : s.Overtaken i k) (hk : s.Returned k) :
    s.Gone i := by
  obtain ⟨t, ht⟩ := hk
  exact ⟨h.1, h.2 _ ht rfl⟩

theorem Step.overtaken {s s' : Handoff} {m : Move} {i k : Nat} (step : Step s m s')
    (sound : s.Sound) (h : s.Overtaken i k) : s'.Overtaken i k := by
  have hr := step.extends.returned h.1
  cases step with
  | beginSend script =>
    refine ⟨hr, fun phase hp hc => ?_⟩
    have : s.sends[k]? = some phase ∨ phase = .offering script := by grind
    rcases this with hold | rfl
    · exact h.2 phase hold hc
    · cases hc
  | put phase empty =>
    refine ⟨hr, fun _ _ _ heq => ?_⟩
    cases heq
    exact not_returned_of_offers phase h.1
  | refused phase full =>
    refine ⟨hr, fun phase' hp hc => ?_⟩
    rename_i i' script old
    by_cases hk : i' = k
    · subst hk
      cases (List.getElem?_set_self (List.getElem?_eq_some_iff.mp phase).1).symm.trans hp
      cases hc
    · exact h.2 phase' ((List.getElem?_set_ne hk).symm.trans hp) hc
  | dropped phase full => exact ⟨hr, fun _ _ _ => nofun⟩
  | dry phase empty =>
    refine ⟨hr, fun _ _ _ => ?_⟩
    rw [sound.holder_eq_none empty]
    nofun
  | forgone phase full =>
    refine ⟨hr, fun phase' hp hc => ?_⟩
    rename_i i' script old
    by_cases hk : i' = k
    · exact h.2 _ (hk ▸ phase) rfl
    · exact h.2 phase' ((List.getElem?_set_ne hk).symm.trans hp) hc
  | took phase full => exact ⟨hr, fun _ _ _ => nofun⟩
  | beginTake | ended | idleSend | idleTake => exact ⟨hr, h.2⟩

theorem run_overtaken {s : Handoff} {i k : Nat} (sound : s.Sound) (h : s.Overtaken i k)
    (moves : List Move) : (s.run moves).Overtaken i k :=
  (run_keeps (P := fun s => s.Sound ∧ s.Overtaken i k)
    (fun step h => ⟨step.sound h.1, step.overtaken h.1 h.2⟩) ⟨sound, h⟩ moves).2

/-! ## Results -/

/-- A take that has got a script ends with one. -/
theorem Sound.latest_isSome {s : Handoff} (h : s.Sound) {i j : Nat} (hr : (j, i) ∈ s.received) :
    (s.takes[j]?.bind TakePhase.latest).isSome := by
  have hj := List.getElem?_eq_getElem (h.received hr).1
  obtain ⟨l, hl⟩ := List.getLast?_isSome.mpr (List.ne_nil_of_mem (mem_receivedBy.mpr hr))
    |> Option.isSome_iff_exists.mp
  obtain ⟨script, hs⟩ :=
    scriptOf_of_returned (h.received (mem_receivedBy.mp (List.mem_of_getLast? hl))).2.1
  rw [hj, Option.bind_some, h.latest hj, hl, Option.bind_some, hs]
  rfl

theorem Step.received_of_pending {s s' : Handoff} {i j : Nat} {last : Option String}
    (step : Step s (.takeStep j) s') (hj : s.takes[j]? = some (.polling last))
    (full : s.channel.pending.isSome) (hi : s.holder = some i) : (j, i) ∈ s'.received := by
  cases step with
  | took phase full => simp [hi]
  | ended phase empty => simp [empty] at full
  | idleTake phase => rcases phase with h | ⟨latest, h⟩ <;> cases hj.symm.trans h

/-- A take that polls while a script is pending ends with one, whatever comes after. -/
theorem Sound.latest_of_pending {s : Handoff} (h : s.Sound) (full : s.channel.pending.isSome)
    {j : Nat} {last : Option String} (hj : s.takes[j]? = some (.polling last)) (later : List Move) :
    (((s.make (.takeStep j)).run later).takes[j]?.bind TakePhase.latest).isSome := by
  obtain ⟨script, hfull⟩ := Option.isSome_iff_exists.mp full
  obtain ⟨i, hi, -⟩ := Option.bind_eq_some_iff.mp (h.pending.symm.trans hfull)
  have step := make_step s (.takeStep j)
  have hr := step.received_of_pending hj full hi
  have hsound := run_keeps Step.sound (step.sound h) later
  exact hsound.latest_isSome ((run_extends _ later).received.subset hr)

/-- In every state that senders and receiver reach, with their steps in any order:

* if no send is in progress, and one has returned since the receiver last took a script,
  then a script is pending, taking the newest gives one, and so does every take that
  polls now, whatever comes after;
* once send `k`, begun after send `i` had returned, has returned itself, the script of
  `i` is not pending, and no take that begins later gets it;
* no script is taken twice;
* the pending script is the holder's, and a take returns the last script that it got. -/
theorem newest_survives (moves : List Move) :
    let s := start.run moves
    (∀ before i after, moves = before ++ .sendStep i :: after →
      ¬ (start.run before).Returned i → (start.run (before ++ [.sendStep i])).Returned i →
      s.received = (start.run (before ++ [.sendStep i])).received → s.Settled →
      s.channel.pending.isSome ∧ (Channel.takeLatest s.channel).1.isSome ∧
        ∀ j last later, s.takes[j]? = some (.polling last) →
          ((s.run (.takeStep j :: later)).takes[j]?.bind TakePhase.latest).isSome) ∧
    (∀ before during after i k, moves = before ++ during ++ after →
      (start.run before).Returned i → (start.run before).sends.length ≤ k →
      (start.run (before ++ during)).Returned k →
      s.holder ≠ some i ∧
        ∀ j, (start.run (before ++ during)).takes.length ≤ j → i ∉ receivedBy s.received j) ∧
    (s.received.map Prod.snd).Nodup ∧
    s.channel.pending = s.holder.bind s.scriptOf ∧
    ∀ j latest, s.takes[j]? = some (.taken latest) →
      latest = (receivedBy s.received j).getLast?.bind s.scriptOf := by
  intro s
  have sound : s.Sound := run_sound moves
  refine ⟨fun before i after hm hn hr kept settled => ?_,
    fun before during after i k hm hi hk hr => ?_,
    sound.once, sound.pending, fun j latest hj => sound.latest hj⟩
  · have hrun : s = (start.run (before ++ [.sendStep i])).run after := by
      rw [← run_append, List.append_assoc, List.singleton_append, ← hm]
    have hstep : start.run (before ++ [.sendStep i]) = (start.run before).make (.sendStep i) :=
      run_append ..
    have hp := (hstep ▸ make_step (start.run before) (.sendStep i)).pending_of_returned hn hr
    have supplied : s.Supplied :=
      hrun ▸ run_supplied (run_sound _) (.inl hp) after (hrun ▸ kept)
    have full := supplied.pending settled
    refine ⟨full, ?_, fun j last later hj => sound.latest_of_pending full hj later⟩
    rwa [Channel.takeLatest_eq]
  · have hrun : s = (start.run (before ++ during)).run after := by rw [← run_append, ← hm]
    have overtaken : (start.run (before ++ during)).Overtaken i k := by
      rw [run_append]
      exact run_overtaken (run_sound before) (overtaken_of_not_begun hi hk) during
    obtain ⟨gone, later⟩ := run_gone (overtaken.gone hr) after
    rw [hrun]
    refine ⟨gone.2, fun j hj hmem => ?_⟩
    have := (run_sound (before ++ during)).received (later j (mem_receivedBy.mp hmem))
    exact this.1.not_ge hj

/-- A second keystroke finds the script of the first still pending, before a take begins. -/
def twoKeystrokes : List Move :=
  [.beginSend "a", .sendStep 0, .beginSend "b", .sendStep 1, .sendStep 1, .sendStep 1,
    .sendStep 1, .beginTake]

theorem newest_survives_two_keystrokes :
    let s := start.run twoKeystrokes
    (s.channel.pending.isSome ∧ (Channel.takeLatest s.channel).1.isSome ∧
      ((s.run [.takeStep 0, .takeStep 0]).takes[0]?.bind TakePhase.latest).isSome) ∧
    s.holder ≠ some 0 ∧ 0 ∉ receivedBy s.received 0 := by
  obtain ⟨supplied, overtaken, -⟩ := newest_survives twoKeystrokes
  obtain ⟨full, newest, polled⟩ :=
    supplied (twoKeystrokes.take 6) 1 [.beginTake] rfl (by decide) (by decide) rfl (by decide)
  obtain ⟨gone, untaken⟩ :=
    overtaken (twoKeystrokes.take 2) (twoKeystrokes.drop 2 |>.take 5) [.beginTake] 0 1 rfl
      (by decide) (by decide) (by decide)
  exact ⟨⟨full, newest, polled 0 none [.takeStep 0] rfl⟩, gone, untaken 0 (by decide)⟩

end FrameGraph.Handoff
