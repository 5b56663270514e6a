import FrameGraph.Proofs.Frame.OnRecord
import FrameGraph.Proofs.Gpu.Live

/-!
# Every invocation is accounted for

An invocation that cannot be planned makes no call. Any other one puts its program in use
first. If that fails it ends there; otherwise it sets its values and attaches its targets, and
if nothing is refused on the way it draws, between two bindings of a framebuffer. So what its
calls were and how they were answered tells whether it was executed, and which failures it
reports in which order.

The backend is any backend behind a layer that journals its calls and may refuse some, so every
call that can fail may do so at any time.

Results:
* `Invocation.invoke_ways`: the ways of an invocation, with its calls.
* `Invocation.invoke_accounted`: what its calls tell about its report.
* `invokeAll_accounted`: the report of a list of invocations.
-/
namespace FrameGraph

open Gpu

/-! ## Calls of a computation -/

namespace Gpu

/-- What the account comes to after some calls. -/
def Account.run (k : Account) (es : List Event) : Account :=
  es.foldl (fun k e => k.after e.call e.answer) k

namespace Event

/-- Asks for a draw. -/
def asksDraw : Event → Bool
  | ⟨.drawFullscreen, _⟩ => true
  | _ => false

/-- A program that was put in use. -/
def used : Event → Bool
  | ⟨.useProgram _, .ok ()⟩ => true
  | _ => false

/-- Sets a value or says what is drawn into. -/
def prepares : Event → Prop
  | ⟨.setUniform .., _⟩ | ⟨.bindTexture .., _⟩ | ⟨.attachColor .., _⟩
  | ⟨.setDrawBuffers .., _⟩ => True
  | _ => False

theorem not_of_prepares {e : Event} (h : e.prepares) :
    e.asksDraw = false ∧ e.drew = false ∧ e.used = false := by
  obtain ⟨call, answer⟩ := e
  cases call <;> first | exact h.elim | exact ⟨rfl, rfl, rfl⟩

end Event

section
variable {σ α β : Type}

/-- The calls that a computation makes, with their answers, go with its result. -/
def Logs (m : StateM (Faulty σ) α) (P : List Event → α → Prop) : Prop :=
  ∀ f, ∃ es, (m f).2.journal = f.journal ++ es ∧ P es (m f).1

namespace Logs

variable {m : StateM (Faulty σ) α} {k : α → StateM (Faulty σ) β} {P P' : List Event → α → Prop}
  {Q : α → List Event → β → Prop} {R : List Event → β → Prop}

theorem pure {a : α} (h : P [] a) : Logs (σ := σ) (Pure.pure a) P :=
  fun _ => ⟨[], (List.append_nil _).symm, h⟩

theorem weaken (hm : Logs m P) (h : ∀ es a, P es a → P' es a) : Logs m P' := by
  intro f
  obtain ⟨es, hjournal, hp⟩ := hm f
  exact ⟨es, hjournal, h _ _ hp⟩

theorem bind (hm : Logs m P) (hk : ∀ a, Logs (k a) (Q a))
    (h : ∀ es a es' b, P es a → Q a es' b → R (es ++ es') b) : Logs (m >>= k) R := by
  intro f
  obtain ⟨es, hjournal, hp⟩ := hm f
  obtain ⟨es', hjournal', hq⟩ := hk (m f).1 (m f).2
  refine ⟨es ++ es', ?_, h _ _ _ _ hp hq⟩
  rw [← List.append_assoc, ← hjournal]
  exact hjournal'

/-- One call, and what comes then. -/
theorem cons [Backend σ] {a : Answer} (call : Call a) {k : a.Of → StateM (Faulty σ) β}
    (hk : ∀ answer, Logs (k answer) fun es b => R (⟨call, answer⟩ :: es) b) :
    Logs (Backend.perform call >>= k) R := by
  intro f
  obtain ⟨es, hjournal, hr⟩ := hk _ (Backend.perform call f).2
  refine ⟨_ :: es, ?_, hr⟩
  rw [Faulty.journal_perform, List.append_assoc] at hjournal
  exact hjournal

end Logs

/-- All calls prepare a draw. -/
abbrev Prepares (m : StateM (Faulty σ) α) : Prop := Logs m fun es _ => ∀ e ∈ es, e.prepares

namespace Prepares

variable {m : StateM (Faulty σ) α} {k : α → StateM (Faulty σ) β} {P : List Event → β → Prop}

theorem pure (a : α) : Prepares (σ := σ) (Pure.pure a) := Logs.pure fun _ he => nomatch he

theorem call [Backend σ] {a : Answer} {call : Call a}
    (h : ∀ answer, Event.prepares ⟨call, answer⟩) : Prepares (σ := σ) (Backend.perform call) :=
  Logs.cons (k := Pure.pure) call fun answer =>
    Logs.pure (List.forall_mem_singleton.2 (h answer))

theorem bind (hm : Prepares m) (hk : ∀ a, Prepares (k a)) : Prepares (m >>= k) :=
  Logs.bind hm hk fun _ _ _ _ h h' => List.forall_mem_append.2 ⟨h, h'⟩

theorem discard (hm : Prepares m) : Prepares (discard m) := hm

end Prepares

end
end Gpu

namespace Invocation

variable {σ : Type} [Backend σ]

theorem prepares_setUniforms (ls : List (Option Program.Location))
    (vs : List (Option UniformValue)) : Prepares (σ := σ) (setUniforms ls vs) := by
  fun_induction setUniforms (σ := Faulty σ) ls vs with
  | case1 l ls v vs ih => exact .bind (.discard (.call fun _ => trivial)) fun _ => ih
  | case2 _ _ _ _ _ ih => exact ih
  | case3 => exact .pure ()

theorem prepares_bindSamplers (cache : ImageCache) (i : Invocation) (index : Nat)
    (ls : List (Option Program.Location)) :
    Prepares (σ := σ) (i.bindSamplers cache index ls) := by
  induction ls generalizing index with
  | nil => exact .pure ()
  | cons l ls ih =>
    have hrest : Prepares (σ := σ) (do
        bindTexture (UInt32.ofNat index) (samplerTexture cache i index)
        bindSamplers cache i (index + 1) ls) :=
      .bind (.call fun _ => trivial) fun _ => ih (index + 1)
    cases l with
    | none => exact hrest
    | some l => exact .bind (.discard (.call fun _ => trivial)) fun _ => hrest

theorem prepares_attachAll (f : FramebufferId) (slots : List (UInt32 × Option TextureId)) :
    Prepares (σ := σ) (attachAll f slots) := by
  induction slots with
  | nil => exact .pure _
  | cons s rest ih =>
    refine .bind (.call fun _ => trivial) fun answer => ?_
    cases answer with
    | error e => exact .pure _
    | ok _ => exact ih

/-! ## The ways of an invocation -/

/-- A draw into the framebuffer of a pass, with its answer. -/
def drawing (p : DrawPlan) (answer : Except Error Unit) : List Event :=
  [⟨.bindFramebuffer (some p.pass.framebuffer), ()⟩, ⟨.setViewport p.size, ()⟩,
    ⟨.setBlend p.pass.blendMode.state, ()⟩, ⟨.drawFullscreen, answer⟩, ⟨.bindFramebuffer none, ()⟩]

theorem logs_drawInto (p : DrawPlan) :
    Logs (σ := σ) (drawInto p) fun es answer => es = drawing p answer :=
  .cons (.bindFramebuffer (some p.pass.framebuffer)) fun _ => .cons (.setViewport p.size) fun _ =>
    .cons (.setBlend p.pass.blendMode.state) fun _ => .cons .drawFullscreen fun _ =>
      .cons (.bindFramebuffer none) fun _ => .pure rfl

/-- Either something is refused on the way, or the draw is made. -/
def Rendered (p : DrawPlan) (es : List Event) (answer : Except Error Unit) : Prop :=
  ((∃ e, answer = .error e) ∧ ∀ e ∈ es, e.prepares) ∨
    ∃ before, (∀ e ∈ before, e.prepares) ∧ es = before ++ drawing p answer

theorem Rendered.prepend {p : DrawPlan} {before es : List Event} {answer : Except Error Unit}
    (hbefore : ∀ e ∈ before, e.prepares) (h : Rendered p es answer) :
    Rendered p (before ++ es) answer := by
  rcases h with ⟨he, hes⟩ | ⟨between, hbetween, rfl⟩
  · exact .inl ⟨he, List.forall_mem_append.2 ⟨hbefore, hes⟩⟩
  · exact .inr ⟨before ++ between, List.forall_mem_append.2 ⟨hbefore, hbetween⟩,
      (List.append_assoc _ _ _).symm⟩

theorem logs_render (p : DrawPlan) : Logs (σ := σ) (render p) (Rendered p) := by
  have hrefused (e : Error) : Rendered p [] (.error e) := .inl ⟨⟨e, rfl⟩, fun _ he => nomatch he⟩
  have hbuffers : Prepares (σ := σ)
      (setDrawBuffers p.pass.framebuffer (p.targets.map Prod.fst)) := .call fun _ => trivial
  refine .bind (Q := fun _ => Rendered p) (prepares_attachAll p.pass.framebuffer p.slots)
    (fun answer => ?_) fun _ _ _ _ hbefore h => h.prepend hbefore
  cases answer with
  | error e => exact .pure (hrefused e)
  | ok _ =>
    refine .bind (Q := fun _ => Rendered p) hbuffers (fun answer => ?_)
      fun _ _ _ _ hbefore h => h.prepend hbefore
    cases answer with
    | error e => exact .pure (hrefused e)
    | ok _ =>
      exact (logs_drawInto p).weaken fun es answer hes => .inr ⟨[], by simp, hes⟩

/-- The same with the failures that an invocation notes. -/
def Finished (cache : ImageCache) (i : Invocation) (p : DrawPlan) (es : List Event)
    (a : Attempt) : Prop :=
  ∃ answer, Rendered p es answer ∧
    a = ⟨missingSamplers cache p.pass i, answer.mapError i.drawFailed⟩

theorem Finished.prepend {cache : ImageCache} {i : Invocation} {p : DrawPlan}
    {before es : List Event} {a : Attempt} (hbefore : ∀ e ∈ before, e.prepares)
    (h : Finished cache i p es a) : Finished cache i p (before ++ es) a :=
  h.imp fun _ h => ⟨h.1.prepend hbefore, h.2⟩

theorem logs_finish (cache : ImageCache) (i : Invocation) (p : DrawPlan) :
    Logs (σ := σ) (do
      let drawn ← render p
      return (⟨missingSamplers cache p.pass i, drawn.mapError i.drawFailed⟩ : Attempt))
      (Finished cache i p) :=
  .bind (Q := fun answer es a => es = [] ∧
      a = ⟨missingSamplers cache p.pass i, answer.mapError i.drawFailed⟩)
    (logs_render p) (fun answer => .pure ⟨rfl, rfl⟩) fun es answer _ _ h ⟨hnil, ha⟩ =>
      ⟨answer, by rwa [hnil, List.append_nil], ha⟩

/-- The calls of an invocation that is carried out. -/
inductive CarriedOut (cache : ImageCache) (i : Invocation) (p : DrawPlan) :
    List Event → Attempt → Prop
  /-- The program cannot be used. -/
  | unused (e : Error) :
    CarriedOut cache i p [⟨.useProgram p.pass.program, .error e⟩] ⟨[], .error (i.drawFailed e)⟩
  /-- Something is refused before the draw. -/
  | refused (before : List Event) (hbefore : ∀ e ∈ before, e.prepares) (e : Error) :
    CarriedOut cache i p (⟨.useProgram p.pass.program, .ok ()⟩ :: before)
      ⟨missingSamplers cache p.pass i, .error (i.drawFailed e)⟩
  | drawn (before : List Event) (hbefore : ∀ e ∈ before, e.prepares)
    (answer : Except Error Unit) :
    CarriedOut cache i p (⟨.useProgram p.pass.program, .ok ()⟩ :: (before ++ drawing p answer))
      ⟨missingSamplers cache p.pass i, answer.mapError i.drawFailed⟩

theorem logs_carryOut (cache : ImageCache) (i : Invocation) (p : DrawPlan) :
    Logs (σ := σ) (i.carryOut cache p) (CarriedOut cache i p) := by
  refine .cons (.useProgram p.pass.program) fun answer => ?_
  cases answer with
  | error e => exact .pure (.unused e)
  | ok _ =>
    have hrest (index : Nat) : Logs (σ := σ) (do
        bindSamplers cache i index p.pass.samplers
        let drawn ← render p
        return (⟨missingSamplers cache p.pass i, drawn.mapError i.drawFailed⟩ : Attempt))
        (Finished cache i p) :=
      .bind (Q := fun _ => Finished cache i p) (prepares_bindSamplers cache i index _)
        (fun _ => logs_finish cache i p) fun _ _ _ _ hbefore h => h.prepend hbefore
    refine .bind (Q := fun _ => Finished cache i p) (prepares_setUniforms _ _) (fun _ => hrest 0) ?_
    intro before _ es a hbefore h
    obtain ⟨answer, hrendered, rfl⟩ := h.prepend hbefore
    rcases hrendered with ⟨⟨e, rfl⟩, hes⟩ | ⟨before', hbefore', hes⟩
    · exact .refused _ hes e
    · rw [hes]
      exact .drawn before' hbefore' answer

/-! ## What the calls tell -/

/-- The failure that the number of attachments comes to: none without a pass or attachments. -/
def CountNoted (passes : PassTable) (i : Invocation) (errors : List ResourceError) : Prop :=
  (∃ pass, passes.get? i.shader = some pass ∧ i.attachments ≠ [] ∧
    pass.outputs.length ≠ i.attachments.length ∧
    errors = [.attachmentCountMismatch i.shader pass.outputs.length i.attachments.length]) ∨
  ((∀ pass, passes.get? i.shader = some pass → i.attachments ≠ [] →
    pass.outputs.length = i.attachments.length) ∧ errors = [])

/-- A failure for each declared sampler that is bound to an image that is not there, in the
order of the samplers. -/
def SamplersNoted (passes : PassTable) (cache : ImageCache) (i : Invocation)
    (errors : List ResourceError) : Prop :=
  ∃ pass, passes.get? i.shader = some pass ∧ ∃ missing : List (Nat × UInt32),
    missing.Pairwise (fun m m' => m.1 < m'.1) ∧
    errors = missing.map (fun m => .missingSamplerImage pass.name m.1 m.2) ∧
    ∀ k id, (k, id) ∈ missing ↔ k < pass.samplers.length ∧
      ∃ b, i.samplers[k]? = some b ∧ b.id = id ∧ cache.texture? id = none

end Invocation

/-- The invocation cannot be planned. -/
def ResourceError.unplanned : ResourceError → Prop
  | .unknownPass _ | .noAttachments _ | .missingAttachmentImage .. | .attachmentSizeMismatch .. =>
    True
  | _ => False

namespace Invocation

variable {σ : Type} [Backend σ]

/-- The calls of an invocation, and what it adds to the failures of a frame: the number of
attachments, the samplers if the program was put in use, and one failure more unless the draw
was made. -/
structure Accounted (passes : PassTable) (cache : ImageCache) (i : Invocation) (es : List Event)
    (errors : List ResourceError) : Prop where
  once : es.countP Event.asksDraw ≤ 1
  unbound : ∀ k : Account, k.bound = none → (k.run es).bound = none
  errors : ∃ counts missing last, errors = counts ++ missing ++ last ∧
    CountNoted passes i counts ∧
    (es.any Event.used = true ∧ SamplersNoted passes cache i missing ∨
      es.any Event.used = false ∧ missing = []) ∧
    (es.any Event.drew = true ∧ last = [] ∨
      es.any Event.drew = false ∧ ∃ e, last = [e] ∧ (e.unplanned ↔ es = []))

theorem countNoted (passes : PassTable) (i : Invocation) :
    CountNoted passes i (countMismatch passes i) := by
  unfold countMismatch
  split
  · next hnone =>
    refine .inr ⟨fun pass hpass => ?_, rfl⟩
    cases hnone.symm.trans hpass
  · next pass hpass =>
    split
    · next h =>
      refine .inr ⟨fun pass' hpass' hne => ?_, rfl⟩
      cases hpass.symm.trans hpass'
      exact h.resolve_left hne
    · next h =>
      rw [not_or] at h
      exact .inl ⟨pass, hpass, h.1, h.2, rfl⟩

/-- The samplers that are bound to images that are not there, with their images. -/
def absent (cache : ImageCache) (i : Invocation) (k : Nat) : Option (Nat × UInt32) :=
  i.samplers[k]?.bind fun b => if (cache.texture? b.id).isNone then some (k, b.id) else none

theorem absent_eq_some {cache : ImageCache} {i : Invocation} {k : Nat} {m : Nat × UInt32} :
    absent cache i k = some m ↔
      m.1 = k ∧ ∃ b, i.samplers[k]? = some b ∧ b.id = m.2 ∧ cache.texture? m.2 = none := by
  obtain ⟨k', id⟩ := m
  simp only [absent, Option.bind_eq_some_iff, Option.ite_none_right_eq_some, Option.some.injEq,
    Prod.mk.injEq, Option.isNone_iff_eq_none]
  constructor
  · rintro ⟨b, hb, hnone, rfl, rfl⟩
    exact ⟨rfl, b, hb, rfl, hnone⟩
  · rintro ⟨rfl, b, hb, rfl, hnone⟩
    exact ⟨b, hb, hnone, rfl, rfl⟩

theorem samplersNoted {passes : PassTable} (cache : ImageCache) {i : Invocation} {pass : Pass}
    (h : passes.get? i.shader = some pass) :
    SamplersNoted passes cache i (missingSamplers cache pass i) := by
  refine ⟨pass, h, (List.range pass.samplers.length).filterMap (absent cache i), ?_, ?_, ?_⟩
  · refine List.pairwise_filterMap.2 (List.pairwise_lt_range.imp ?_)
    intro k k' hlt m hm m' hm'
    rw [(absent_eq_some.1 hm).1, (absent_eq_some.1 hm').1]
    exact hlt
  · rw [missingSamplers, List.map_filterMap]
    refine List.filterMap_congr fun k _ => ?_
    unfold absent
    cases i.samplers[k]? with
    | none => rfl
    | some b =>
      simp only [Option.bind_some]
      split <;> rfl
  · intro k id
    simp only [List.mem_filterMap, List.mem_range, absent_eq_some]
    constructor
    · rintro ⟨_, hk, rfl, b⟩
      exact ⟨hk, b⟩
    · rintro ⟨hk, b⟩
      exact ⟨k, hk, rfl, b⟩

theorem unplanned_of_resolveTargets {cache : ImageCache} {pass : String} {index : Nat}
    {size : Option Extent} {slots : List (UInt32 × ImageBinding)} {e : ResourceError}
    (h : resolveTargets cache pass index size slots = .error e) : e.unplanned := by
  fun_induction resolveTargets cache pass index size slots with
  | case1 => cases h
  | case2 =>
    cases h
    trivial
  | case3 =>
    cases h
    trivial
  | case4 index size slot binding rest image himage hsize ih =>
    cases hrest : resolveTargets cache pass (index + 1) (some image.size) rest with
    | error e' =>
      rw [hrest] at h
      cases h
      exact ih hrest
    | ok found =>
      rw [hrest] at h
      cases h

/-- An invocation that cannot be planned says so. -/
theorem unplanned_of_plan {passes : PassTable} {cache : ImageCache} {i : Invocation}
    {e : ResourceError} (h : plan passes cache i = .error e) : e.unplanned := by
  unfold plan at h
  split at h
  · cases h
    trivial
  · split at h
    · cases h
      trivial
    · split at h
      · next herror =>
        cases h
        exact unplanned_of_resolveTargets herror
      · cases h
        trivial
      · cases h

/-- An invocation that is not planned makes no call, and any other is carried out. -/
theorem invoke_ways (passes : PassTable) (cache : ImageCache) (i : Invocation) :
    Logs (σ := σ) (i.invoke passes cache) fun es a =>
      (∃ e, e.unplanned ∧ es = [] ∧ a = ⟨countMismatch passes i, .error e⟩) ∨
      ∃ p a', passes.get? i.shader = some p.pass ∧ CarriedOut cache i p es a' ∧
        a = { a' with notes := countMismatch passes i ++ a'.notes } := by
  unfold invoke
  dsimp only
  cases hplan : plan passes cache i with
  | error e => exact .pure (.inl ⟨e, unplanned_of_plan hplan, rfl, rfl⟩)
  | ok p =>
    refine .bind (Q := fun a' es a => es = [] ∧
        a = { a' with notes := countMismatch passes i ++ a'.notes })
      (logs_carryOut cache i p) (fun a' => .pure ⟨rfl, rfl⟩) ?_
    rintro es a' _ a hes ⟨rfl, rfl⟩
    rw [List.append_nil]
    exact .inr ⟨p, a', plan_pass hplan, hes, rfl⟩

/-! ### Calls that prepare a draw -/

section
variable {es : List Event}

theorem run_of_prepares (h : ∀ e ∈ es, e.prepares) (k : Account) : k.run es = k := by
  induction es with
  | nil => rfl
  | cons e es ih =>
    obtain ⟨he, hes⟩ := List.forall_mem_cons.1 h
    have hsame : k.after e.call e.answer = k := by
      obtain ⟨call, answer⟩ := e
      cases call <;> first | exact he.elim | rfl
    rw [Account.run, List.foldl_cons, hsame]
    exact ih hes

theorem any_of_prepares (h : ∀ e ∈ es, e.prepares) :
    es.countP Event.asksDraw = 0 ∧ es.any Event.drew = false ∧ es.any Event.used = false := by
  refine ⟨List.countP_eq_zero.2 fun e he => ?_, List.any_eq_false.2 fun e he => ?_,
    List.any_eq_false.2 fun e he => ?_⟩ <;>
    simp [Event.not_of_prepares (h e he)]

end

theorem run_append (k : Account) (es es' : List Event) :
    k.run (es ++ es') = (k.run es).run es' := List.foldl_append

end Invocation

/-- All failures of an invocation, in order. -/
def Attempt.errors (a : Attempt) : List ResourceError :=
  a.notes ++ match a.result with
    | .ok () => []
    | .error e => [e]

namespace Invocation

/-- An invocation that was planned: its program, what it set and attached, and its draw. -/
theorem CarriedOut.accounted {passes : PassTable} {cache : ImageCache} {i : Invocation}
    {p : DrawPlan} {es : List Event} {a : Attempt} (h : CarriedOut cache i p es a)
    (hpass : passes.get? i.shader = some p.pass) :
    Accounted passes cache i es (countMismatch passes i ++ a.errors) ∧
      (a.result = .ok () ↔ es.any Event.drew = true) := by
  have hcounts := countNoted passes i
  have hsamplers := samplersNoted cache hpass
  have hfailed (e : Error) (es' : List Event) (e' : Event) :
      (i.drawFailed e).unplanned ↔ e' :: es' = [] := iff_of_false id nofun
  cases h with
  | unused e =>
    exact ⟨⟨Nat.zero_le 1, fun k hk => hk, _, [], [_], by simp [Attempt.errors], hcounts,
      .inr ⟨rfl, rfl⟩, .inr ⟨rfl, _, rfl, hfailed e _ _⟩⟩, iff_of_false nofun nofun⟩
  | refused before hbefore e =>
    obtain ⟨hasks, hdrew, hused⟩ := any_of_prepares hbefore
    refine ⟨⟨?_, fun k hk => ?_, _, missingSamplers cache p.pass i, [i.drawFailed e], ?_, hcounts,
      .inl ⟨rfl, hsamplers⟩, .inr ⟨hdrew, _, rfl, hfailed e _ _⟩⟩, iff_of_false nofun ?_⟩
    · exact (hasks.trans_le (Nat.zero_le 1) : before.countP _ ≤ 1)
    · exact (congrArg Account.bound (run_of_prepares hbefore _)).trans hk
    · exact (List.append_assoc _ _ _).symm
    · exact fun h => Bool.false_ne_true (hdrew.symm.trans h)
  | drawn before hbefore answer =>
    obtain ⟨hasks, hdrew, hused⟩ := any_of_prepares hbefore
    have hasksOnce : (before ++ drawing p answer).countP Event.asksDraw = 1 := by
      rw [List.countP_append, hasks]
      rfl
    have hunbound (k : Account) :
        (k.run (⟨.useProgram p.pass.program, .ok ()⟩ :: (before ++ drawing p answer))).bound
          = none := by
      rw [← List.cons_append, run_append]
      rfl
    have hdraws : (before ++ drawing p answer).any Event.drew
        = Event.drew ⟨.drawFullscreen, answer⟩ := by
      rw [List.any_append, hdrew]
      cases answer <;> rfl
    cases answer with
    | ok _ =>
      exact ⟨⟨hasksOnce.le, fun k _ => hunbound k, countMismatch passes i,
        missingSamplers cache p.pass i, [], (List.append_assoc _ _ _).symm, hcounts,
        .inl ⟨rfl, hsamplers⟩, .inl ⟨hdraws, rfl⟩⟩, iff_of_true rfl hdraws⟩
    | error e =>
      exact ⟨⟨hasksOnce.le, fun k _ => hunbound k, countMismatch passes i,
        missingSamplers cache p.pass i, [i.drawFailed e], (List.append_assoc _ _ _).symm, hcounts,
        .inl ⟨rfl, hsamplers⟩, .inr ⟨hdraws, _, rfl, hfailed e _ _⟩⟩,
        iff_of_false nofun fun h => Bool.false_ne_true (hdraws.symm.trans h)⟩

/-- The calls of an invocation tell what it reports, and whether it was executed. -/
theorem invoke_accounted {σ : Type} [Backend σ] (passes : PassTable) (cache : ImageCache)
    (i : Invocation) :
    Logs (σ := σ) (i.invoke passes cache) fun es a =>
      Accounted passes cache i es a.errors ∧ (a.result = .ok () ↔ es.any Event.drew = true) := by
  refine (invoke_ways passes cache i).weaken fun es a => ?_
  rintro (⟨e, he, rfl, rfl⟩ | ⟨p, a', hpass, hes, rfl⟩)
  · refine ⟨⟨Nat.zero_le 1, fun k hk => hk, countMismatch passes i, [], [e], ?_,
      countNoted passes i, .inr ⟨rfl, rfl⟩, .inr ⟨rfl, e, rfl, iff_of_true he rfl⟩⟩,
      iff_of_false nofun nofun⟩
    rw [List.append_nil]
    rfl
  · obtain ⟨haccounted, hresult⟩ := hes.accounted hpass
    rw [Attempt.errors, ← List.append_assoc] at haccounted
    exact ⟨haccounted, hresult⟩

end Invocation

theorem FrameReport.count_errors (r : FrameReport) (a : Attempt) :
    (r.count a).errors = r.errors ++ a.errors := by
  obtain ⟨notes, result⟩ := a
  cases result with
  | ok _ => exact congrArg (r.errors ++ ·) (List.append_nil notes).symm
  | error e => exact List.append_assoc r.errors notes [e]

/-- The calls of a frame's invocations fall into one part for each of them, and these tell the
report: the failures part by part, one execution for each part with a draw that was made, and a
skipped invocation for each part without one. -/
theorem invokeAll_accounted {σ : Type} [Backend σ] (passes : PassTable) (cache : ImageCache)
    (is : List Invocation) (report : FrameReport) (f : Faulty σ) :
    let r := invokeAll passes cache is report f
    ∃ parts : List (List Event × List ResourceError),
      List.Forall₂ (fun i part => i.Accounted passes cache part.1 part.2) is parts ∧
      r.2.journal = f.journal ++ parts.flatMap Prod.fst ∧
      r.1.errors = report.errors ++ parts.flatMap Prod.snd ∧
      r.1.executed = report.executed + parts.countP (fun part => part.1.any Event.drew) ∧
      r.1.executed + r.1.skipped = report.executed + report.skipped + is.length ∧
      ∀ k : Account, k.bound = none → (k.run (parts.flatMap Prod.fst)).bound = none := by
  intro r
  induction is generalizing report f with
  | nil =>
    exact ⟨[], .nil, (List.append_nil _).symm, (List.append_nil _).symm, rfl, rfl, fun k hk => hk⟩
  | cons i is ih =>
    obtain ⟨es, hjournal, haccounted, hresult⟩ := i.invoke_accounted passes cache f
    obtain ⟨parts, hparts, hjournal', herrors, hexecuted, hlength, hunbound⟩ :=
      ih (report.count (i.invoke passes cache f).1) (i.invoke passes cache f).2
    refine ⟨(es, (i.invoke passes cache f).1.errors) :: parts, .cons haccounted hparts, ?_, ?_, ?_,
      ?_, fun k hk => ?_⟩
    · rw [hjournal, List.append_assoc] at hjournal'
      exact hjournal'
    · rw [FrameReport.count_errors, List.append_assoc] at herrors
      exact herrors
    · refine hexecuted.trans ?_
      rw [List.countP_cons]
      cases hr : (i.invoke passes cache f).1.result with
      | ok _ =>
        rw [(report.count_of_ok hr).1, if_pos (hresult.1 hr)]
        omega
      | error e =>
        rw [(report.count_of_error hr).1, if_neg fun h => nomatch hr.symm.trans (hresult.2 h)]
        rfl
    · refine hlength.trans ?_
      rw [List.length_cons]
      cases hr : (i.invoke passes cache f).1.result with
      | ok _ =>
        rw [(report.count_of_ok hr).1, (report.count_of_ok hr).2]
        omega
      | error e =>
        rw [(report.count_of_error hr).1, (report.count_of_error hr).2]
        omega
    · rw [List.flatMap_cons, Invocation.run_append]
      exact hunbound _ (haccounted.unbound k hk)

end FrameGraph
