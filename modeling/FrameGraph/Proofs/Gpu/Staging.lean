import FrameGraph.Gpu.Faulty
import FrameGraph.Proofs.Gpu.Memory
import FrameGraph.Proofs.Gpu.Trail

/-!
# What a draw is made of

Before a draw its program, uniforms, textures and targets are put in place, call by call.
Every backend does these calls on its objects in the same way (`Objects.stage`,
`Objects.put`), and makes the draw that the objects then amount to, if it accepts it
(`Staged`). So two backends can be compared that are told the same (`Coupled`).

Cells are numbered program by program. Objects are the same but for some cells (`Same`) if
they have the same textures, framebuffers and programs, and the memories of the programs
differ in these cells only; what is attached and bound does not count. If that is the same
as well for the next draw (`Poised`), the draws differ in these cells only.

Results:
* `Same.stage`, `Same.stage_left`: staging calls, made on both sides or on one.
* `Same.put`, `Same.put_left`: a value set on both sides, or on one.
* the instances of `Staged` for the two backends, and for a layer that refuses draws.
* `Coupled.bind`, `coupled_stage`, `coupled_set`, `coupled_draw`: how two runs are compared.
-/
namespace FrameGraph.Gpu

open Program (Location)

/-- Cells of programs. -/
abbrev Cells := Set (ProgramId × Nat)

/-- The cells of one program. -/
def Cells.of (S : Cells) (p : ProgramId) : Set Nat := {n | (p, n) ∈ S}

/-- Cells of one program, among those of all. -/
def Cells.at (p : ProgramId) (X : Set Nat) : Cells := {c | c.1 = p ∧ c.2 ∈ X}

section
variable (S : Cells) (p : ProgramId) (X Y : Set Nat)

@[simp] theorem Cells.at_empty : Cells.at p ∅ = ∅ := by
  ext c
  simp [Cells.at]

theorem Cells.at_union : Cells.at p (X ∪ Y) = Cells.at p X ∪ Cells.at p Y := by
  ext c
  simp [Cells.at, and_or_left]

theorem Cells.of_sdiff_at : (S \ Cells.at p X).of p = S.of p \ X := by
  ext n
  simp [Cells.of, Cells.at]

theorem Cells.of_sdiff_at_of_ne {q : ProgramId} (h : q ≠ p) : (S \ Cells.at p X).of q = S.of q := by
  ext n
  simp [Cells.of, Cells.at, h]

end

section
variable {τ ε : Type} {step : τ → Except ε τ} {s s' : τ} {e : ε}

theorem attempt_of_ok (h : step s = .ok s') : attempt step s = (.ok (), s') := by
  simp only [attempt, h]

theorem attempt_of_error (h : step s = .error e) : attempt step s = (.error e, s) := by
  simp only [attempt, h]

end

variable {π δ : Type}

/-! ## Objects -/

namespace Objects

/-- What a call does that prepares a draw; a uniform is set by `put`. -/
def stage : {a : Answer} → Call a → Option (StateM (Objects π) a.Of)
  | _, .useProgram p => some (attempt fun o => o.useProgram p)
  | _, .attachColor f slot t => some (attempt fun o => o.attachColor f slot t)
  | _, .setDrawBuffers f slots => some (attempt fun o => o.setDrawBuffers f slots)
  | _, .bindTexture unit t => some fun o => ((), o.bindTexture unit t)
  | _, .bindFramebuffer f => some fun o => ((), { o with bound := f })
  | _, .setViewport size => some fun o => ((), { o with viewport := size })
  | _, .setBlend blend => some fun o => ((), { o with blend })
  | _, _ => none

/-- Sets a value in the program in use, unless it is refused. -/
def put [Memory π] (l : Location) (v : UniformValue) (o : Objects π) : Objects π :=
  match o.inUse with
  | .ok (p, m) =>
    match Memory.take l v m with
    | some m' => o.setProgram p m'
    | none => o
  | .error _ => o

variable {o : Objects π} {p : ProgramId} {m : π}

theorem useProgram_of_none (h : o.programs.get? p = none) :
    o.useProgram p = .error (.invalidHandle .program p.number) := by
  simp only [useProgram, program, h]
  rfl

theorem useProgram_of_some (h : o.programs.get? p = some m) :
    o.useProgram p = .ok { o with current := some p } := by
  simp only [useProgram, program, h]
  rfl

variable {f : FramebufferId} {t : Targets}

theorem framebuffer_of_some (h : o.framebuffers.get? f = some t) : o.framebuffer f = .ok t := by
  simp only [framebuffer, h]

theorem setDrawBuffers_of_none (h : o.framebuffers.get? f = none) (slots : List UInt32) :
    o.setDrawBuffers f slots = .error (.invalidHandle .framebuffer f.number) := by
  simp only [setDrawBuffers, framebuffer, h]
  rfl

theorem setDrawBuffers_of_some (h : o.framebuffers.get? f = some t) (slots : List UInt32) :
    o.setDrawBuffers f slots = .ok (o.setTargets f { t with drawBuffers := slots }) := by
  simp only [setDrawBuffers, framebuffer, h]
  rfl

/-- A texture can be attached if it is live, or if there is none to attach. -/
def attachable (o : Objects π) : Option TextureId → Except Error Unit
  | some t => discard (o.texture t)
  | none => .ok ()

theorem attachColor_eq (o : Objects π) (f : FramebufferId) (slot : UInt32)
    (texture : Option TextureId) :
    o.attachColor f slot texture = do
      o.attachable texture
      let t ← o.framebuffer f
      return o.setTargets f (t.attach slot texture) := by
  cases texture <;> rfl

theorem attachColor_cases (o : Objects π) (f : FramebufferId) (slot : UInt32)
    (texture : Option TextureId) :
    (∃ e, o.attachColor f slot texture = .error e) ∨
    ∃ t, o.framebuffers.get? f = some t ∧
      o.attachColor f slot texture = .ok (o.setTargets f (t.attach slot texture)) := by
  rw [attachColor_eq]
  cases o.attachable texture with
  | error e => exact .inl ⟨e, rfl⟩
  | ok _ =>
    unfold framebuffer
    cases o.framebuffers.get? f with
    | none => exact .inl ⟨_, rfl⟩
    | some t => exact .inr ⟨t, rfl, rfl⟩

theorem inUse_eq_ok (hcurrent : o.current = some p) (hm : o.programs.get? p = some m) :
    o.inUse = .ok (p, m) := by
  simp only [inUse, hcurrent, program, hm]
  rfl

variable [Memory π] (l : Location) (v : UniformValue)

/-- A value goes to the memory of the program in use, and nowhere else. -/
theorem get?_put (hcurrent : o.current = some p) (hm : o.programs.get? p = some m)
    (q : ProgramId) :
    (o.put l v).programs.get? q
      = if q = p then some ((Memory.take l v m).getD m) else o.programs.get? q := by
  simp only [put, inUse_eq_ok hcurrent hm]
  cases Memory.take l v m with
  | some m' => exact Dict.get?_insert _ _ _ _
  | none =>
    show o.programs.get? q = if q = p then some m else o.programs.get? q
    split
    · next hq => rw [hq, hm]
    · rfl

theorem put_eq (o : Objects π) : o.put l v = { o with programs := (o.put l v).programs } := by
  unfold put
  split
  · split <;> rfl
  · rfl

end Objects

/-! ## Objects that are the same but for some cells -/

structure Same [Memory π] (S : Cells) (o o' : Objects π) : Prop where
  textures : o.textures = o'.textures
  surface : o.surface = o'.surface
  framebuffers : ∀ f, (o.framebuffers.get? f).isSome = (o'.framebuffers.get? f).isSome
  memories : ∀ p m, o.programs.get? p = some m →
    ∃ m', o'.programs.get? p = some m' ∧ Memory.Agree (S.of p) m m'
  dead : ∀ p, o.programs.get? p = none → o'.programs.get? p = none

namespace Same

variable [Memory π] {S S' : Cells} {o o' : Objects π} {p : ProgramId} {m m' : π}

theorem refl (o : Objects π) : Same ∅ o o where
  textures := rfl
  surface := rfl
  framebuffers _ := rfl
  memories _ m hm := ⟨m, hm, Memory.agree_refl m⟩
  dead _ hp := hp

theorem mono (h : Same S o o') (hS : S ⊆ S') : Same S' o o' where
  textures := h.textures
  surface := h.surface
  framebuffers := h.framebuffers
  memories p m hm := by
    obtain ⟨m', hm', hagree⟩ := h.memories p m hm
    exact ⟨m', hm', Memory.agree_mono (fun _ hn => hS hn) hagree⟩
  dead := h.dead

/-- A framebuffer is live on both sides or on none. -/
theorem targets (h : Same S o o') {f : FramebufferId} {t : Targets}
    (ht : o.framebuffers.get? f = some t) : ∃ t', o'.framebuffers.get? f = some t' := by
  rw [← Option.isSome_iff_exists, ← h.framebuffers f, ht]
  rfl

theorem no_targets (h : Same S o o') {f : FramebufferId} (ht : o.framebuffers.get? f = none) :
    o'.framebuffers.get? f = none := by
  rw [← Option.isNone_iff_eq_none, ← Option.not_isSome, ← h.framebuffers f, ht]
  rfl

/-- Attachments and draw buffers do not count. -/
theorem setTargets_left (h : Same S o o') {f : FramebufferId} {t : Targets}
    (hf : o.framebuffers.get? f = some t) (t' : Targets) : Same S (o.setTargets f t') o' where
  textures := h.textures
  surface := h.surface
  framebuffers g := by
    rw [← h.framebuffers g, Objects.setTargets, Dict.get?_insert]
    split
    · next hg =>
      rw [hg, hf]
      rfl
    · rfl
  memories := h.memories
  dead := h.dead

theorem setTargets (h : Same S o o') (f : FramebufferId) (t t' : Targets) :
    Same S (o.setTargets f t) (o'.setTargets f t') where
  textures := h.textures
  surface := h.surface
  framebuffers g := by
    simp only [Objects.setTargets, Dict.get?_insert]
    split
    · rfl
    · exact h.framebuffers g
  memories := h.memories
  dead := h.dead

variable {a : Answer} {call : Call a} {f : StateM (Objects π) a.Of}

/-- A call that prepares a draw changes nothing that counts. -/
theorem stage_left (h : Same S o o') (hf : Objects.stage call = some f) :
    Same S (f o).2 o' := by
  cases call <;> cases hf
  case useProgram p =>
    cases hm : o.programs.get? p with
    | none => simpa only [attempt, Objects.useProgram_of_none hm]
    | some m =>
      simp only [attempt, Objects.useProgram_of_some hm]
      exact { h with }
  case attachColor f slot t =>
    rcases o.attachColor_cases f slot t with ⟨e, he⟩ | ⟨t', ht', he⟩ <;>
      simp only [attempt, he]
    · exact h
    · exact h.setTargets_left ht' _
  case setDrawBuffers f slots =>
    cases ht : o.framebuffers.get? f with
    | none => simpa only [attempt, Objects.setDrawBuffers_of_none ht]
    | some t =>
      simp only [attempt, Objects.setDrawBuffers_of_some ht]
      exact h.setTargets_left ht _
  case bindTexture unit t => cases t <;> exact { h with }
  all_goals exact { h with }

/-! ### On both sides -/

theorem useProgram (h : Same S o o') (p : ProgramId) :
    (∃ e, o.useProgram p = .error e ∧ o'.useProgram p = .error e) ∨
    ∃ m, o.programs.get? p = some m ∧ o.useProgram p = .ok { o with current := some p } ∧
      o'.useProgram p = .ok { o' with current := some p } := by
  cases hm : o.programs.get? p with
  | none =>
    exact .inl ⟨_, Objects.useProgram_of_none hm, Objects.useProgram_of_none (h.dead p hm)⟩
  | some m =>
    obtain ⟨m', hm', -⟩ := h.memories p m hm
    exact .inr ⟨m, rfl, Objects.useProgram_of_some hm, Objects.useProgram_of_some hm'⟩

theorem setDrawBuffers (h : Same S o o') (f : FramebufferId) (slots : List UInt32) :
    (∃ e, o.setDrawBuffers f slots = .error e ∧ o'.setDrawBuffers f slots = .error e) ∨
    ∃ t t', o.framebuffers.get? f = some t ∧ o'.framebuffers.get? f = some t' ∧
      o.setDrawBuffers f slots = .ok (o.setTargets f { t with drawBuffers := slots }) ∧
      o'.setDrawBuffers f slots = .ok (o'.setTargets f { t' with drawBuffers := slots }) := by
  cases ht : o.framebuffers.get? f with
  | none =>
    exact .inl ⟨_, Objects.setDrawBuffers_of_none ht _,
      Objects.setDrawBuffers_of_none (h.no_targets ht) _⟩
  | some t =>
    obtain ⟨t', ht'⟩ := h.targets ht
    exact .inr ⟨t, t', rfl, ht', Objects.setDrawBuffers_of_some ht _,
      Objects.setDrawBuffers_of_some ht' _⟩

theorem attachColor (h : Same S o o') (f : FramebufferId) (slot : UInt32)
    (texture : Option TextureId) :
    (∃ e, o.attachColor f slot texture = .error e ∧ o'.attachColor f slot texture = .error e) ∨
    ∃ t t', o.framebuffers.get? f = some t ∧ o'.framebuffers.get? f = some t' ∧
      o.attachColor f slot texture = .ok (o.setTargets f (t.attach slot texture)) ∧
      o'.attachColor f slot texture = .ok (o'.setTargets f (t'.attach slot texture)) := by
  rw [Objects.attachColor_eq, Objects.attachColor_eq]
  have hattachable : o'.attachable texture = o.attachable texture := by
    cases texture with
    | none => rfl
    | some t => simp only [Objects.attachable, Objects.texture, h.textures]
  rw [hattachable]
  cases o.attachable texture with
  | error e => exact .inl ⟨e, rfl, rfl⟩
  | ok _ =>
    cases ht : o.framebuffers.get? f with
    | none =>
      refine .inl ⟨.invalidHandle .framebuffer f.number, ?_, ?_⟩
      · simp only [Objects.framebuffer, ht]
        rfl
      · simp only [Objects.framebuffer, h.no_targets ht]
        rfl
    | some t =>
      obtain ⟨t', ht'⟩ := h.targets ht
      refine .inr ⟨t, t', rfl, ht', ?_, ?_⟩
      · rw [Objects.framebuffer_of_some ht]
        rfl
      · rw [Objects.framebuffer_of_some ht']
        rfl

/-- A call that prepares a draw has the same answer on both sides. -/
theorem stage (h : Same S o o') (hf : Objects.stage call = some f) :
    (f o).1 = (f o').1 ∧ Same S (f o).2 (f o').2 := by
  cases call <;> cases hf
  case useProgram p =>
    rcases h.useProgram p with ⟨e, he, he'⟩ | ⟨m, -, he, he'⟩ <;> simp only [attempt, he, he']
    · exact ⟨trivial, h⟩
    · exact ⟨trivial, { h with }⟩
  case attachColor f slot t =>
    rcases h.attachColor f slot t with ⟨e, he, he'⟩ | ⟨_, _, -, -, he, he'⟩ <;>
      simp only [attempt, he, he']
    · exact ⟨trivial, h⟩
    · exact ⟨trivial, h.setTargets f _ _⟩
  case setDrawBuffers f slots =>
    rcases h.setDrawBuffers f slots with ⟨e, he, he'⟩ | ⟨_, _, -, -, he, he'⟩ <;>
      simp only [attempt, he, he']
    · exact ⟨trivial, h⟩
    · exact ⟨trivial, h.setTargets f _ _⟩
  case bindTexture unit t => cases t <;> exact ⟨rfl, { h with }⟩
  all_goals exact ⟨rfl, { h with }⟩

end Same

/-! ## A program at work -/

/-- The program is in use, and its memory is like `m₀`. -/
structure Working [Memory π] (p : ProgramId) (m₀ : π) (o : Objects π) : Prop where
  current : o.current = some p
  memory : ∃ m, o.programs.get? p = some m ∧ Memory.Like m m₀

/-- A call that puts a program in use. -/
def Call.uses : {a : Answer} → Call a → Prop
  | _, .useProgram _ => True
  | _, _ => False

section
variable [Memory π] {S : Cells} {o o' : Objects π} {p : ProgramId} {m₀ : π} {a : Answer}
  {call : Call a} {f : StateM (Objects π) a.Of}

theorem Working.stage (h : Working p m₀ o) (hf : Objects.stage call = some f)
    (hcall : ¬ call.uses) : Working p m₀ (f o).2 := by
  cases call <;> cases hf
  case useProgram => exact absurd trivial hcall
  case attachColor f slot t =>
    rcases o.attachColor_cases f slot t with ⟨e, he⟩ | ⟨t', -, he⟩ <;> simp only [attempt, he]
    · exact h
    · exact { h with }
  case setDrawBuffers f slots =>
    cases ht : o.framebuffers.get? f with
    | none => simpa only [attempt, Objects.setDrawBuffers_of_none ht]
    | some t =>
      simp only [attempt, Objects.setDrawBuffers_of_some ht]
      exact { h with }
  case bindTexture unit t => cases t <;> exact { h with }
  all_goals exact { h with }

variable (l : Program.Location) (v : UniformValue)

theorem Working.put (h : Working p m₀ o) : Working p m₀ (o.put l v) := by
  obtain ⟨m, hm, hlike⟩ := h.memory
  refine ⟨?_, (Memory.take l v m).getD m, ?_, hlike.take l v⟩
  · rw [Objects.put_eq]
    exact h.current
  · rw [Objects.get?_put l v h.current hm, if_pos rfl]

/-- A value that is set on one side alone. -/
theorem Same.put_left (h : Same S o o') (hp : Working p m₀ o)
    (hS : Cells.at p (Memory.cells l v m₀) ⊆ S) : Same S (o.put l v) o' := by
  obtain ⟨m, hm, hlike⟩ := hp.memory
  have hget := Objects.get?_put l v hp.current hm
  refine ⟨?_, ?_, ?_, fun q n hq => ?_, fun q hq => ?_⟩
  · rw [Objects.put_eq]
    exact h.textures
  · rw [Objects.put_eq]
    exact h.surface
  · rw [Objects.put_eq]
    exact h.framebuffers
  · rw [hget] at hq
    split at hq
    · next hqp =>
      cases hq
      subst hqp
      obtain ⟨m', hm', hagree⟩ := h.memories q m hm
      refine ⟨m', hm', Memory.agree_mono ?_ (Memory.agree_take_left l v hagree)⟩
      rw [hlike.cells]
      exact Set.union_subset le_rfl fun n hn => hS ⟨rfl, hn⟩
    · exact h.memories q n hq
  · rw [hget] at hq
    split at hq
    · cases hq
    · exact h.dead q hq

/-- Where a value is set on both sides they are the same again. -/
theorem Same.put (h : Same S o o') (hp : Working p m₀ o) (hp' : o'.current = some p) :
    Same (S \ Cells.at p (Memory.cells l v m₀)) (o.put l v) (o'.put l v) := by
  obtain ⟨m, hm, hlike⟩ := hp.memory
  obtain ⟨m', hm', hagree⟩ := h.memories p m hm
  have hget := Objects.get?_put l v hp.current hm
  have hget' := Objects.get?_put l v hp' hm'
  refine ⟨?_, ?_, ?_, fun q n hq => ?_, fun q hq => ?_⟩
  · rw [Objects.put_eq, Objects.put_eq l v o']
    exact h.textures
  · rw [Objects.put_eq, Objects.put_eq l v o']
    exact h.surface
  · rw [Objects.put_eq, Objects.put_eq l v o']
    exact h.framebuffers
  · rw [hget] at hq
    rw [hget']
    split at hq
    · next hqp =>
      cases hq
      subst hqp
      refine ⟨_, if_pos rfl, ?_⟩
      rw [Cells.of_sdiff_at, ← hlike.cells]
      exact Memory.agree_take l v hagree
    · next hqp =>
      rw [if_neg hqp, Cells.of_sdiff_at_of_ne _ _ _ hqp]
      exact h.memories q n hq
  · rw [hget] at hq
    rw [hget']
    split at hq
    · cases hq
    · next hqp =>
      rw [if_neg hqp]
      exact h.dead q hq

end

/-! ## Ready to draw -/

/-- What a draw is made of is the same but for some cells. -/
structure Poised [Memory π] (S : Cells) (o o' : Objects π) : Prop where
  textures : o.textures = o'.textures
  surface : o.surface = o'.surface
  viewport : o.viewport = o'.viewport
  blend : o.blend = o'.blend
  program : ∃ p m m', o.inUse = .ok (p, m) ∧ o'.inUse = .ok (p, m') ∧
    Memory.Agree (S.of p) m m' ∧ ∀ k < Memory.samplers m,
      o.units.get? (Memory.unit m k) = o'.units.get? (Memory.unit m' k)
  target : ∃ f t t', o.bound = some f ∧ o'.bound = some f ∧ o.framebuffer f = .ok t ∧
    o'.framebuffer f = .ok t' ∧ t.drawn = t'.drawn

end FrameGraph.Gpu
