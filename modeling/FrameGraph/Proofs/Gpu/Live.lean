import FrameGraph.Proofs.Gpu.Recording

/-!
# What is live on record

The record of a recording backend tells which objects are live: those that were created and
not destroyed since (`Live.ofRecord`). Every call keeps the record and the objects in step.

A draw is recorded with the handles that were bound for it. The program in use and the bound
framebuffer are looked up for it, so they are live; nobody looks up the attached textures, or
those that the samplers read.

Results:
* `perform_tallied`: record and objects stay in step.
* `currentDraw_parts`: what a draw is made of.
* `perform_plain`: a call that does not draw records no draw.
-/
namespace FrameGraph.Gpu

/-- The live objects. -/
structure Live where
  textures : List TextureId := []
  framebuffers : List FramebufferId := []
  programs : List ProgramId := []
  deriving DecidableEq, Repr

namespace Live

def after (l : Live) : Command → Live
  | .createTexture t _ _ => { l with textures := t :: l.textures }
  | .destroyTexture t => { l with textures := l.textures.filter (· ≠ t) }
  | .createFramebuffer f => { l with framebuffers := f :: l.framebuffers }
  | .destroyFramebuffer f => { l with framebuffers := l.framebuffers.filter (· ≠ f) }
  | .compileProgram p => { l with programs := p :: l.programs }
  | .deleteProgram p => { l with programs := l.programs.filter (· ≠ p) }
  | .clear .. | .draw _ | .resizeSurface _ | .endFrame => l

/-- What these commands have created and not destroyed since. -/
def ofRecord (cs : List Command) : Live := cs.foldl after {}

theorem ofRecord_append (cs : List Command) (c : Command) :
    ofRecord (cs ++ [c]) = (ofRecord cs).after c := by
  simp only [ofRecord, List.foldl_append, List.foldl_cons, List.foldl_nil]

end Live

/-- A call that neither sets a uniform nor draws. -/
def Call.plain : {a : Answer} → Call a → Prop
  | _, .setUniform .. | _, .drawFullscreen => False
  | _, _ => True

/-- A draw that was made. -/
def Event.drew : Event → Bool
  | ⟨.drawFullscreen, .ok ()⟩ => true
  | _ => false

/-- A draw on record. -/
def Command.draws : Command → Bool
  | .draw _ => true
  | _ => false

theorem Event.drew_of_plain {a : Answer} {call : Call a} (h : call.plain) (answer : a.Of) :
    Event.drew ⟨call, answer⟩ = false := by
  cases call <;> first | exact h.elim | rfl

namespace Recorder

variable {fe : Program.FrontEnd} {r r' : Recorder fe} {o : Objects RecordedProgram}

/-- The live objects are those that are live on record. -/
structure Tallied (r : Recorder fe) : Prop where
  textures : ∀ t, t ∈ (Live.ofRecord r.commands).textures ↔ r.objects.textures.contains t
  framebuffers : ∀ f,
    f ∈ (Live.ofRecord r.commands).framebuffers ↔ r.objects.framebuffers.contains f
  programs : ∀ p, p ∈ (Live.ofRecord r.commands).programs ↔ r.objects.programs.contains p

theorem tallied_empty {limit : UInt32} : ({ limit } : Recorder fe).Tallied := by
  constructor <;> intro x <;> simp [Live.ofRecord, Dict.contains]

/-! ## Record and objects -/

theorem mem_cons_iff_contains {κ ν : Type} [DecidableEq κ] [Ord κ] {d : Dict κ ν} {l : List κ}
    (h : ∀ k, k ∈ l ↔ d.contains k) (new : κ) (v : ν) (k : κ) :
    k ∈ new :: l ↔ (d.insert new v).contains k := by
  rw [List.mem_cons, h, Dict.contains, Dict.contains, Dict.get?_insert]
  by_cases hk : k = new <;> simp [hk]

theorem mem_filter_iff_contains {κ ν : Type} [DecidableEq κ] {d : Dict κ ν} {l : List κ}
    (h : ∀ k, k ∈ l ↔ d.contains k) (old k : κ) :
    k ∈ l.filter (· ≠ old) ↔ (d.erase old).contains k := by
  rw [List.mem_filter, h, Dict.contains, Dict.contains, Dict.get?_erase]
  by_cases hk : k = old <;> simp [hk]

/-- What is not there is not taken out. -/
theorem contains_erase_of_not {κ ν : Type} [DecidableEq κ] {d : Dict κ ν} {old : κ}
    (h : ¬ d.contains old) (k : κ) : (d.erase old).contains k ↔ d.contains k := by
  rw [Dict.contains, Dict.contains, Dict.get?_erase]
  by_cases hk : k = old
  · subst hk
    rw [Dict.contains, Option.not_isSome_iff_eq_none] at h
    simp [h]
  · rw [if_neg hk]

/-- A command that goes on record with what it does to the objects. -/
theorem Tallied.record {c : Command} (hcommands : r'.commands = r.commands ++ [c])
    (ht : ∀ t, t ∈ ((Live.ofRecord r.commands).after c).textures
      ↔ r'.objects.textures.contains t)
    (hf : ∀ f, f ∈ ((Live.ofRecord r.commands).after c).framebuffers
      ↔ r'.objects.framebuffers.contains f)
    (hp : ∀ p, p ∈ ((Live.ofRecord r.commands).after c).programs
      ↔ r'.objects.programs.contains p) : r'.Tallied := by
  constructor <;> rw [hcommands, Live.ofRecord_append]
  exacts [ht, hf, hp]

/-- A call that neither creates nor destroys anything, whatever it puts on record. -/
theorem Tallied.keep (h : r.Tallied) (hn : r.objects.Numbered) {a : Answer} {call : Call a}
    (hcall : call.keepsObjects) : (perform call r).2.Tallied := by
  obtain ⟨-, hacc, -⟩ := perform_follows hn call
  obtain ⟨ht, hf, hp⟩ := r.objects.account.after_of_keepsObjects (perform call r).1 hcall
  rw [← hacc] at ht hf hp
  have hlive : Live.ofRecord (perform call r).2.commands = Live.ofRecord r.commands := by
    rcases r.perform_records call with hsame | ⟨c, hone, hc⟩
    · rw [hsame]
    · rw [hone, Live.ofRecord_append]
      cases call <;> first
        | exact hcall.elim
        | exact hc.elim
        | (rw [show c = _ from hc]; rfl)
        | (obtain ⟨x, rfl⟩ := hc; rfl)
  refine ⟨fun t => ?_, fun f => ?_, fun p => ?_⟩ <;> rw [hlive]
  · exact (h.textures t).trans (Set.ext_iff.1 ht t).symm
  · exact (h.framebuffers f).trans (Set.ext_iff.1 hf f).symm
  · exact (h.programs p).trans (Set.ext_iff.1 hp p).symm

theorem perform_tallied (h : r.Tallied) (hn : r.objects.Numbered) {a : Answer} (call : Call a) :
    (perform call r).2.Tallied := by
  cases call with
  | createTexture format size =>
    simp only [perform, createTexture]
    split
    · exact .record rfl (mem_cons_iff_contains h.textures _ _) h.framebuffers h.programs
    · exact h
  | destroyTexture t =>
    simp only [perform, destroyTexture]
    split
    · exact .record rfl (mem_filter_iff_contains h.textures t) h.framebuffers h.programs
    · exact h
  | createFramebuffer =>
    exact .record rfl h.textures (mem_cons_iff_contains h.framebuffers _ _) h.programs
  | destroyFramebuffer f =>
    simp only [perform, destroyFramebuffer]
    split
    · exact .record rfl h.textures (mem_filter_iff_contains h.framebuffers f) h.programs
    · next hf =>
      refine ⟨h.textures, fun g => ?_, h.programs⟩
      exact (h.framebuffers g).trans (contains_erase_of_not hf g).symm
  | compileProgram source =>
    simp only [perform, compileProgram]
    split
    · exact h
    · exact .record rfl h.textures h.framebuffers (mem_cons_iff_contains h.programs _ _)
  | deleteProgram p =>
    simp only [perform, deleteProgram]
    split
    · exact .record rfl h.textures h.framebuffers (mem_filter_iff_contains h.programs p)
    · next hp =>
      refine ⟨h.textures, h.framebuffers, fun q => ?_⟩
      exact (h.programs q).trans (contains_erase_of_not hp q).symm
  | _ => exact h.keep hn trivial

/-! ## Draws -/

/-- What a draw is made of. -/
theorem currentDraw_parts {d : Draw} (h : currentDraw o = .ok d) :
    d.framebuffer = o.bound ∧ attachments o = .ok d.attachments ∧
      o.current = some d.program ∧ ∃ m, o.programs.get? d.program = some m ∧
        d.samplers =
          (List.range m.layout.samplers.length).map fun k => o.units.get? (m.unit k) := by
  obtain ⟨m, hcurrent, hm, hattachments, hd⟩ := currentDraw_eq h
  exact ⟨congrArg Draw.framebuffer hd, hattachments, hcurrent, m, hm, congrArg Draw.samplers hd⟩

/-- What a draw attaches is what its framebuffer draws into. -/
theorem attachments_ok {as : List (UInt32 × TextureId)} (h : attachments o = .ok as) :
    (o.bound = none ∧ as = []) ∨
      ∃ f t, o.bound = some f ∧ o.framebuffers.get? f = some t ∧ as = t.drawn := by
  unfold attachments at h
  split at h
  · next hbound =>
    cases h
    exact .inl ⟨hbound, rfl⟩
  · next f hbound =>
    cases ht : o.framebuffers.get? f with
    | none => simp only [Objects.framebuffer, ht, bind, Except.bind] at h; cases h
    | some t =>
      simp only [Objects.framebuffer, ht, bind, Except.bind] at h
      split at h
      · cases h
      · cases h
        exact .inr ⟨f, t, hbound, ht, rfl⟩

/-- What is drawn goes on record, if anything is, and all else stays as it is. -/
theorem perform_draw (r : Recorder fe) :
    (∃ e, perform .drawFullscreen r = (.error e, r)) ∨ ∃ d, currentDraw r.objects = .ok d ∧
      perform .drawFullscreen r = (.ok (), r.record (.draw d)) := by
  simp only [perform, attempt]
  cases currentDraw r.objects with
  | error e => exact .inl ⟨e, rfl⟩
  | ok d => exact .inr ⟨d, rfl, rfl⟩

/-- A call that does not draw puts no draw on record. -/
theorem perform_plain {a : Answer} {call : Call a} (hcall : call.plain) :
    ∃ cs, (perform call r).2.commands = r.commands ++ cs ∧ ∀ c ∈ cs, ¬ c.draws := by
  rcases r.perform_records call with hsame | ⟨c, hone, hc⟩
  · exact ⟨[], by rw [hsame, List.append_nil], fun _ hno => nomatch hno⟩
  · refine ⟨[c], hone, ?_⟩
    intro c' hc' hdraws
    obtain rfl := List.mem_singleton.1 hc'
    cases c' with
    | draw d =>
      cases call <;> first
        | exact hcall.elim
        | exact hc.elim
        | (obtain ⟨x, hx⟩ := hc; cases hx)
        | cases hc
    | _ => cases hdraws

end Recorder
end FrameGraph.Gpu
