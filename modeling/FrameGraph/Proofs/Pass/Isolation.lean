import FrameGraph.Proofs.Gpu.Acceptance
import FrameGraph.Proofs.Pass.Retouching

/-!
# Passes are built in isolation

All passes of a script are built in one go, in one table and on one backend. Still the
descriptions of one name go as if the others were not there: they give the same errors, and
the pass of that name ends up the same, with the same of its objects kept and the others made
anew. The new ones have other numbers, since numbers are given out in the order in which
objects are made (`Gpu.Numbering`); what the two runs share is that none of these was given out
before (`Gpu.SameOrigin`).

The two runs are compared name by name (`Abreast`): a description of the name is a step of
both of them, and any other description a step of the whole run only.

Results:
* `Filed.run`, `Issued.run`: the passes of a table are filed under their own names, and their
  objects have numbers that were given out.
* `Abreast.together`, `Abreast.aside`, `Abreast.buildAll`: the two runs stay abreast.
* `buildAll_isolated`: what building all passes does, name by name.
-/
namespace FrameGraph

open Gpu

/-! ## Numbers of objects -/

/-- A backend that never gives out a number twice. -/
class Gpu.Numbering (σ : Type) [Backend σ] where
  /-- The numbers below this one may have been given out. -/
  next : σ → Nat
  grows : ∀ (b : σ) {a : Answer} (call : Call a), next b ≤ next (Backend.perform call b).2
  program : ∀ {source : String} {b : σ} {p : ProgramId}, (compileProgram source b).1 = .ok p →
    next b ≤ p.number ∧ p.number < next (compileProgram source b).2
  framebuffer : ∀ {b : σ} {f : FramebufferId}, (createFramebuffer b).1 = .ok f →
    next b ≤ f.number ∧ f.number < next (createFramebuffer b).2

namespace Gpu

instance {fe : Program.FrontEnd} : Numbering (Recorder fe) where
  next r := r.objects.nextId
  grows r _ call := r.perform_nextId call
  program {source r p} h := by
    have hrun : compileProgram source r = Recorder.compileProgram source r := rfl
    rw [hrun, Recorder.compileProgram] at h ⊢
    cases hcompile : Program.compile fe source with
    | error e => simp only [hcompile] at h; cases h
    | ok layout =>
      simp only [hcompile] at h ⊢
      cases h
      exact ⟨Nat.le_refl _, Nat.lt_succ_self _⟩
  framebuffer {r f} h := by
    cases h
    exact ⟨Nat.le_refl _, Nat.lt_succ_self _⟩

theorem Device.perform_nextId {fe : Program.FrontEnd} (d : Device fe) {a : Answer}
    (call : Call a) : d.objects.nextId ≤ (Device.perform call d).2.objects.nextId := by
  have hstep := d.perform_step call
  generalize (Device.perform call d).2.objects = o, (Device.perform call d).1 = answer at hstep ⊢
  cases hstep with
  | createTexture | createFramebuffer | compileProgram => exact Nat.le_succ _
  | bindTexture unit t => cases t <;> exact Nat.le_refl _
  | _ => exact Nat.le_refl _

instance {fe : Program.FrontEnd} : Numbering (Device fe) where
  next d := d.objects.nextId
  grows d _ call := d.perform_nextId call
  program {source d p} h := by
    have hrun : compileProgram source d = Device.compileProgram source d := rfl
    rw [hrun, Device.compileProgram] at h ⊢
    cases hcompile : Program.compile fe source with
    | error e => simp only [hcompile] at h; cases h
    | ok layout =>
      simp only [hcompile] at h ⊢
      cases h
      exact ⟨Nat.le_refl _, Nat.lt_succ_self _⟩
  framebuffer {d f} h := by
    cases h
    exact ⟨Nat.le_refl _, Nat.lt_succ_self _⟩

/-- Both numbers are that of the object that was there, or neither was given out before. -/
def SameOrigin (there? : Option Nat) (issued m n : Nat) : Prop :=
  (there? = some m ∧ there? = some n) ∨ (issued ≤ m ∧ issued ≤ n)

theorem SameOrigin.kept_iff {k issued m n : Nat} (h : SameOrigin (some k) issued m n)
    (hk : k < issued) : m = k ↔ n = k := by
  rcases h with ⟨hm, hn⟩ | ⟨hm, hn⟩
  · cases hm
    cases hn
    rfl
  · omega

end Gpu

/-- Both options have a value, and these are related, or neither has one. -/
theorem rel_cases {α β : Type} {r : α → β → Prop} {x : Option α} {y : Option β}
    (h : Option.Rel r x y) :
    (x = none ∧ y = none) ∨ ∃ a b, x = some a ∧ y = some b ∧ r a b := by
  cases h with
  | none => exact .inl ⟨rfl, rfl⟩
  | some h => exact .inr ⟨_, _, rfl, rfl, h⟩

/-- Two passes that are alike, and have the same of their objects from before. -/
structure Pass.SameEffect (old? : Option Pass) (issued : Nat) (p q : Pass) : Prop
    extends Pass.Alike p q where
  program : SameOrigin (old?.map (·.program.number)) issued p.program.number q.program.number
  framebuffer :
    SameOrigin (old?.map (·.framebuffer.number)) issued p.framebuffer.number q.framebuffer.number

namespace Pass

variable {old? : Option Pass} {old p q : Pass} {issued : Nat}

theorem SameEffect.restyle (h : p.SameEffect old? issued q) (desc : ShaderDesc) :
    (p.restyle desc).SameEffect old? issued (q.restyle desc) :=
  ⟨⟨h.name, h.source, h.uniforms, h.samplers, rfl, rfl⟩, h.program, h.framebuffer⟩

/-- Both passes keep the program of the old one, or neither does; so with the framebuffer. -/
structure KeepSame (old p q : Pass) : Prop where
  program : p.program = old.program ↔ q.program = old.program
  framebuffer : p.framebuffer = old.framebuffer ↔ q.framebuffer = old.framebuffer

theorem SameEffect.keepSame (h : p.SameEffect (some old) issued q)
    (hprogram : old.program.number < issued) (hframebuffer : old.framebuffer.number < issued) :
    KeepSame old p q := by
  have hid {r s : ProgramId} : r = s ↔ r.number = s.number := by
    cases r; cases s; rw [ProgramId.mk.injEq]
  have hid' {f g : FramebufferId} : f = g ↔ f.number = g.number := by
    cases f; cases g; rw [FramebufferId.mk.injEq]
  exact ⟨hid.trans ((h.program.kept_iff hprogram).trans hid.symm),
    hid'.trans ((h.framebuffer.kept_iff hframebuffer).trans hid'.symm)⟩

end Pass

namespace PassTable

variable {σ : Type} [Backend σ] {t t' : PassTable} {b b' : σ} {p : Pass} {desc : ShaderDesc}
  {declarations : List Declaration}

/-! ## Other names -/

theorem Filed.build (h : t.Filed) (desc : ShaderDesc) (declarations : List Declaration) (b : σ) :
    (t.build desc declarations b).1.2.Filed := by
  have way := build_way t desc declarations b
  generalize (t.build desc declarations b).1.1 = outcome,
    (t.build desc declarations b).1.2 = t₁ at way ⊢
  cases way with
  | kept | filed => exact h.put _
  | failed => exact h

/-- However a table came about, its passes are filed under their own names. -/
theorem Filed.run (h : t.Filed) (steps : List Step) (b : σ) : (t.run steps b).1.Filed := by
  induction steps generalizing t b with
  | nil => exact h
  | cons s ss ih =>
    refine ih ?_ _
    cases s with
    | build desc declarations => exact h.build desc declarations b
    | retain keep => exact h.filter keep
    | release => exact filed_empty

/-- A build leaves the passes of other names as they are. -/
theorem Filed.get?_build (h : t.Filed) {name : String} (hne : name ≠ desc.name)
    (declarations : List Declaration) (b : σ) :
    (t.build desc declarations b).1.2.get? name = t.get? name := by
  have way := build_way t desc declarations b
  generalize (t.build desc declarations b).1.1 = outcome,
    (t.build desc declarations b).1.2 = t₁ at way ⊢
  cases way with
  | kept current =>
    rw [get?_put]
    have hp := h.named (current?_eq_some current).1
    exact if_neg fun heq => hne (heq.trans hp)
  | failed => rfl
  | filed =>
    rw [get?_put]
    exact if_neg hne

/-- Passes that no description names are left alone. -/
theorem Filed.get?_buildAll (h : t.Filed) (declarations : List Declaration)
    {descs : List ShaderDesc} {name : String} (hname : name ∉ descs.map ShaderDesc.name) (b : σ) :
    (t.buildAll declarations descs b).1.2.get? name = t.get? name := by
  induction descs generalizing t b with
  | nil => rfl
  | cons desc descs ih =>
    rw [List.map_cons, List.mem_cons, not_or] at hname
    rw [buildAll_cons]
    exact (ih (h.build desc declarations b) hname.2 _).trans (h.get?_build hname.1 declarations b)

variable [Numbering σ]

/-! ## Tables whose objects have been given out -/

/-- The objects of all passes have numbers that the backend has given out. -/
structure Issued (t : PassTable) (b : σ) : Prop where
  program : ∀ {name : String} {p : Pass}, t.get? name = some p →
    p.program.number < Numbering.next b
  framebuffer : ∀ {name : String} {p : Pass}, t.get? name = some p →
    p.framebuffer.number < Numbering.next b

theorem get?_put_make (t : PassTable) (desc : ShaderDesc) (source : String) (program : ProgramId)
    (framebuffer : FramebufferId) (uniforms samplers : List (Option Program.Location)) :
    (t.put (.make desc source program framebuffer uniforms samplers)).get? desc.name
      = some (.make desc source program framebuffer uniforms samplers) :=
  (get?_put ..).trans (if_pos rfl)

theorem get?_put_restyle (t : PassTable) (hname : p.name = desc.name) :
    (t.put (p.restyle desc)).get? desc.name = some (p.restyle desc) :=
  (get?_put ..).trans (if_pos hname.symm)

theorem issued_empty (b : σ) : empty.Issued b := ⟨(nomatch ·), (nomatch ·)⟩

theorem Issued.grow (h : t.Issued b) (hb : Numbering.next b ≤ Numbering.next b') :
    t.Issued b' :=
  ⟨fun hp => Nat.lt_of_lt_of_le (h.program hp) hb,
    fun hp => Nat.lt_of_lt_of_le (h.framebuffer hp) hb⟩

theorem Issued.put (h : t.Issued b) (hprogram : p.program.number < Numbering.next b)
    (hframebuffer : p.framebuffer.number < Numbering.next b) : (t.put p).Issued b := by
  have hall {name : String} {q : Pass} (hq : (t.put p).get? name = some q) :
      q.program.number < Numbering.next b ∧ q.framebuffer.number < Numbering.next b := by
    rw [get?_put] at hq
    split at hq
    · cases hq
      exact ⟨hprogram, hframebuffer⟩
    · exact ⟨h.program hq, h.framebuffer hq⟩
  exact ⟨fun hq => (hall hq).1, fun hq => (hall hq).2⟩

theorem grows_releaseEach (n : Nat) (ps : List Pass) :
    Keeps (fun b : σ => n ≤ Numbering.next b) (Pass.releaseEach ps) := by
  induction ps with
  | nil => exact Keeps.pure _
  | cons p ps ih =>
    have hgrows {a : Answer} (call : Call a) :
        Keeps (fun b : σ => n ≤ Numbering.next b) (Backend.perform call) :=
      fun b hb => Nat.le_trans hb (Numbering.grows b call)
    exact Keeps.bind (Keeps.bind (hgrows (.deleteProgram p.program)) fun _ =>
      hgrows (.destroyFramebuffer p.framebuffer)) fun _ => ih

/-! ## Two runs side by side -/

/-- Two runs that started in the same table, which had this pass of the name. -/
structure Abreast (name : String) (old? : Option Pass) (issued : Nat) (t t' : PassTable)
    (b b' : σ) : Prop where
  entry : Option.Rel (Pass.SameEffect old? issued) (t.get? name) (t'.get? name)
  left : t.Filed
  right : t'.Filed
  begun : issued ≤ Numbering.next b
  begun' : issued ≤ Numbering.next b'

theorem Filed.abreast (h : t.Filed) (b : σ) (name : String) :
    Abreast name (t.get? name) (Numbering.next b) t t b b := by
  refine ⟨?_, h, h, Nat.le_refl _, Nat.le_refl _⟩
  cases t.get? name with
  | none => exact .none
  | some p =>
    exact .some ⟨⟨rfl, rfl, rfl, rfl, rfl, rfl⟩, .inl ⟨rfl, rfl⟩, .inl ⟨rfl, rfl⟩⟩

/-- Both tables have a pass with this text, or neither does. -/
theorem current?_rel {name : String} {old? : Option Pass} {issued : Nat}
    (h : Option.Rel (Pass.SameEffect old? issued) (t.get? name) (t'.get? name))
    (source : String) :
    Option.Rel (Pass.SameEffect old? issued) (t.current? name source)
      (t'.current? name source) := by
  unfold current?
  rcases rel_cases h with ⟨hp, hq⟩ | ⟨p, q, hp, hq, hpq⟩
  · rw [hp, hq]
    exact .none
  · rw [hp, hq, Option.filter_some, Option.filter_some, hpq.source]
    split
    · exact .some hpq
    · exact .none

/-! ## What a build files -/

/-- The number was given out between the two states. -/
def GivenOut (b b' : σ) (n : Nat) : Prop := Numbering.next b ≤ n ∧ n < Numbering.next b'

section
variable {fe : Program.FrontEnd} [Reflecting σ fe] {layout : Program.Layout}

include fe

/-- The text is new and accepted: the program is new, and the framebuffer too unless there
was a pass of this name. -/
theorem build_files (hnew : t.current? desc.name (Source.assemble desc declarations).text = none)
    (hcompile : Program.compile fe (Source.assemble desc declarations).text = .ok layout)
    (b : σ) :
    let built := t.build desc declarations b
    Numbering.next b ≤ Numbering.next built.2 ∧
    ∃ outcome program framebuffer,
      built.1 = (.ok outcome, t.put (.make desc (Source.assemble desc declarations).text program
        framebuffer (layout.locate desc.uniforms) (layout.locate desc.samplers))) ∧
      GivenOut b built.2 program.number ∧
      match t.get? desc.name with
      | some old => outcome = .recompiled ∧ framebuffer = old.framebuffer
      | none => outcome = .created ∧ GivenOut b built.2 framebuffer.number := by
  intro built
  obtain ⟨program, b₁, hcompiled, hrun⟩ := build_accepts hnew hcompile b
  have hgrown : Numbering.next b ≤ Numbering.next b₁ := by
    have h := Numbering.grows b (.compileProgram (Source.assemble desc declarations).text)
    rwa [show Backend.perform _ b = _ from hcompiled] at h
  obtain ⟨hprogram, hissued⟩ :
      Numbering.next b ≤ program.number ∧ program.number < Numbering.next b₁ := by
    have h := Numbering.program (b := b) (congrArg Prod.fst hcompiled)
    rwa [hcompiled] at h
  simp only [built, hrun]
  cases hget : t.get? desc.name with
  | some old =>
    have hlast : Numbering.next b₁ ≤ Numbering.next (deleteProgram old.program b₁).2 :=
      Numbering.grows b₁ (.deleteProgram old.program)
    simp only [file, hget, run_bind, run_pure]
    exact ⟨Nat.le_trans hgrown hlast, _, program, old.framebuffer, rfl,
      ⟨hprogram, Nat.lt_of_lt_of_le hissued hlast⟩, rfl, rfl⟩
  | none =>
    obtain ⟨framebuffer, b₂, hframe⟩ := Reflecting.frames b₁
    have hlast : Numbering.next b₁ ≤ Numbering.next b₂ := by
      have h := Numbering.grows b₁ .createFramebuffer
      rwa [show Backend.perform _ b₁ = _ from hframe] at h
    obtain ⟨hfirst, hframebuffer⟩ :
        Numbering.next b₁ ≤ framebuffer.number ∧ framebuffer.number < Numbering.next b₂ := by
      have h := Numbering.framebuffer (b := b₁) (congrArg Prod.fst hframe)
      rwa [hframe] at h
    simp only [file, hget, run_bind, hframe, run_pure]
    exact ⟨Nat.le_trans hgrown hlast, _, program, framebuffer, rfl,
      ⟨hprogram, Nat.lt_of_lt_of_le hissued hlast⟩, rfl, Nat.le_trans hgrown hfirst,
      hframebuffer⟩

theorem build_grows (t : PassTable) (desc : ShaderDesc) (declarations : List Declaration)
    (b : σ) : Numbering.next b ≤ Numbering.next (t.build desc declarations b).2 := by
  cases hcurrent : t.current? desc.name (Source.assemble desc declarations).text with
  | some p => rw [build_current hcurrent]
  | none =>
    cases hcompile : Program.compile fe (Source.assemble desc declarations).text with
    | error e => rw [build_rejected hcurrent hcompile]
    | ok layout => exact (build_files hcurrent hcompile b).1

theorem Issued.build (h : t.Issued b) (desc : ShaderDesc) (declarations : List Declaration) :
    (t.build desc declarations b).1.2.Issued (t.build desc declarations b).2 := by
  cases hcurrent : t.current? desc.name (Source.assemble desc declarations).text with
  | some p =>
    obtain ⟨hget, -⟩ := current?_eq_some hcurrent
    have hprogram := h.program hget
    have hframebuffer := h.framebuffer hget
    rw [build_current hcurrent]
    exact h.put hprogram hframebuffer
  | none =>
    cases hcompile : Program.compile fe (Source.assemble desc declarations).text with
    | error e =>
      rw [build_rejected hcurrent hcompile]
      exact h
    | ok layout =>
      obtain ⟨hgrown, outcome, program, framebuffer, hrun, hprogram, hframebuffer⟩ :=
        build_files hcurrent hcompile b
      rw [hrun]
      refine (h.grow hgrown).put hprogram.2 ?_
      cases hget : t.get? desc.name with
      | some old =>
        have hold := Nat.lt_of_lt_of_le (h.framebuffer hget) hgrown
        simp only [hget] at hframebuffer
        exact hframebuffer.2 ▸ hold
      | none =>
        simp only [hget] at hframebuffer
        exact hframebuffer.2.2

/-- However a table came about, the backend has given out the numbers of its objects. -/
theorem Issued.run (h : t.Issued b) (steps : List Step) :
    (t.run steps b).1.Issued (t.run steps b).2 := by
  induction steps generalizing t b with
  | nil => exact h
  | cons s ss ih =>
    refine ih ?_
    cases s with
    | build desc declarations => exact h.build desc declarations
    | retain keep =>
      have hgrown : Numbering.next b ≤ Numbering.next (t.retain keep b).2 :=
        Keeps.bind (grows_releaseEach _ _) (fun _ => Keeps.pure _) b (Nat.le_refl _)
      have hkept {name : String} {p : Pass} (hp : (t.retain keep b).1.get? name = some p) :
          t.get? name = some p := by
        have hget := Dict.get?_filter_key (· ∈ keep) t.passes name
        rw [show (t.retain keep b).1.get? name = _ from hget] at hp
        split at hp
        · exact hp
        · cases hp
      refine Issued.grow (b := b) ?_ hgrown
      exact ⟨fun hp => h.program (hkept hp), fun hp => h.framebuffer (hkept hp)⟩
    | release => exact issued_empty _

/-- A failing build has no other effect than its error. -/
theorem build_failed {e : CompileError} (h : (t.build desc declarations b).1.1 = .error e) :
    e.pass = desc.name ∧ (t.build desc declarations b).1.2 = t := by
  cases hcurrent : t.current? desc.name (Source.assemble desc declarations).text with
  | some p =>
    rw [build_current hcurrent] at h
    cases h
  | none =>
    cases hcompile : Program.compile fe (Source.assemble desc declarations).text with
    | error e' =>
      rw [build_rejected hcurrent hcompile] at h ⊢
      cases h
      exact ⟨rfl, rfl⟩
    | ok layout =>
      obtain ⟨-, outcome, program, framebuffer, hrun, -⟩ := build_files hcurrent hcompile b
      rw [hrun] at h
      cases h

/-- The error of a build is one of its pass. -/
theorem filter_errorsOf (t : PassTable) (desc : ShaderDesc) (declarations : List Declaration)
    (b : σ) (name : String) :
    (errorsOf (t.build desc declarations b).1.1).filter (fun e => e.pass = name)
      = if desc.name = name then errorsOf (t.build desc declarations b).1.1 else [] := by
  cases hbuilt : (t.build desc declarations b).1.1 with
  | ok outcome => exact (ite_self _).symm
  | error e =>
    rw [errorsOf, List.filter_singleton, (build_failed hbuilt).1]
    split <;> simp_all

namespace Abreast

variable {name : String} {old? : Option Pass} {issued : Nat}

/-- A description of another name is a step of the one run only. -/
theorem aside (h : Abreast name old? issued t t' b b') (hne : name ≠ desc.name)
    (declarations : List Declaration) :
    Abreast name old? issued (t.build desc declarations b).1.2 t'
      (t.build desc declarations b).2 b' := by
  refine ⟨?_, h.left.build desc declarations b, h.right,
    Nat.le_trans h.begun (build_grows t desc declarations b), h.begun'⟩
  rw [h.left.get?_build hne]
  exact h.entry

/-- A description of the name is a step of both runs, with the same outcome. -/
theorem together (h : Abreast desc.name old? issued t t' b b')
    (declarations : List Declaration) :
    (t.build desc declarations b).1.1 = (t'.build desc declarations b').1.1 ∧
    Abreast desc.name old? issued (t.build desc declarations b).1.2
      (t'.build desc declarations b').1.2 (t.build desc declarations b).2
      (t'.build desc declarations b').2 := by
  suffices hstep : (t.build desc declarations b).1.1 = (t'.build desc declarations b').1.1 ∧
      Option.Rel (Pass.SameEffect old? issued)
        ((t.build desc declarations b).1.2.get? desc.name)
        ((t'.build desc declarations b').1.2.get? desc.name) from
    ⟨hstep.1, hstep.2, h.left.build desc declarations b, h.right.build desc declarations b',
      Nat.le_trans h.begun (build_grows t desc declarations b),
      Nat.le_trans h.begun' (build_grows t' desc declarations b')⟩
  have hrel := current?_rel h.entry (Source.assemble desc declarations).text
  rcases rel_cases hrel with ⟨hcurrent, hcurrent'⟩ | ⟨p, q, hcurrent, hcurrent', hpq⟩
  · cases hcompile : Program.compile fe (Source.assemble desc declarations).text with
    | error e =>
      rw [build_rejected hcurrent hcompile, build_rejected hcurrent' hcompile]
      exact ⟨rfl, h.entry⟩
    | ok layout =>
      obtain ⟨-, outcome, p, f, hrun, hp, hf⟩ := build_files hcurrent hcompile b
      obtain ⟨-, outcome', p', f', hrun', hp', hf'⟩ := build_files hcurrent' hcompile b'
      obtain ⟨houtcome, hframe⟩ : outcome = outcome' ∧
          SameOrigin (old?.map (·.framebuffer.number)) issued f.number f'.number := by
        rcases rel_cases h.entry with ⟨hget, hget'⟩ | ⟨old, old', hget, hget', hold⟩ <;>
          simp only [hget, hget'] at hf hf'
        · exact ⟨hf.1.trans hf'.1.symm,
            .inr ⟨Nat.le_trans h.begun hf.2.1, Nat.le_trans h.begun' hf'.2.1⟩⟩
        · rw [hf.2, hf'.2]
          exact ⟨hf.1.trans hf'.1.symm, hold.framebuffer⟩
      rw [hrun, hrun', get?_put_make, get?_put_make, houtcome]
      exact ⟨rfl, .some ⟨⟨rfl, rfl, rfl, rfl, rfl, rfl⟩,
        .inr ⟨Nat.le_trans h.begun hp.1, Nat.le_trans h.begun' hp'.1⟩, hframe⟩⟩
  · have hp : p.name = desc.name := h.left.named (current?_eq_some hcurrent).1
    have hq : q.name = desc.name := h.right.named (current?_eq_some hcurrent').1
    rw [build_current hcurrent, build_current hcurrent', get?_put_restyle t hp,
      get?_put_restyle t' hq]
    exact ⟨rfl, .some (hpq.restyle desc)⟩

/-- What the descriptions of a name do among others, they do alone. -/
theorem buildAll (h : Abreast name old? issued t t' b b') (declarations : List Declaration)
    (descs : List ShaderDesc) :
    let all := t.buildAll declarations descs b
    let alone := t'.buildAll declarations (descs.filter fun desc => desc.name = name) b'
    all.1.1.filter (fun e => e.pass = name) = alone.1.1 ∧
      Abreast name old? issued all.1.2 alone.1.2 all.2 alone.2 := by
  induction descs generalizing t t' b b' with
  | nil => exact ⟨rfl, h⟩
  | cons desc descs ih =>
    intro all alone
    by_cases hname : desc.name = name
    · subst hname
      have hfilter : (desc :: descs).filter (fun d => d.name = desc.name)
          = desc :: descs.filter fun d => d.name = desc.name :=
        List.filter_cons_of_pos (decide_eq_true rfl)
      obtain ⟨houtcome, hafter⟩ := h.together declarations
      obtain ⟨hrest, hend⟩ := ih hafter
      simp only [all, alone, hfilter, buildAll_cons]
      refine ⟨?_, hend⟩
      rw [List.filter_append, filter_errorsOf, if_pos rfl, hrest, houtcome]
    · have hfilter : (desc :: descs).filter (fun d => d.name = name)
          = descs.filter fun d => d.name = name :=
        List.filter_cons_of_neg (by simpa using hname)
      obtain ⟨hrest, hend⟩ := ih (h.aside (Ne.symm hname) declarations)
      simp only [all, alone, hfilter, buildAll_cons]
      refine ⟨?_, hend⟩
      rw [List.filter_append, filter_errorsOf, if_neg hname, hrest, List.nil_append]

end Abreast

/-- Building all passes in a table does for each name what building the passes of that name
does: it gives their errors, and leaves them with the same text, locations, slots and blending,
the same of their objects kept and the others made anew. Other names are left alone. The errors
come in the order of the descriptions, one for each that fails. Every description has the
outcome that it has among those of its name alone, and leaves the table as it finds it if it
fails. -/
theorem buildAll_isolated (h : t.Filed) (declarations : List Declaration)
    (descs : List ShaderDesc) (b : σ) :
    let all := t.buildAll declarations descs b
    (∀ name,
      let alone := t.buildAll declarations (descs.filter fun desc => desc.name = name) b
      all.1.1.filter (fun e => e.pass = name) = alone.1.1 ∧
        Option.Rel (Pass.SameEffect (t.get? name) (Numbering.next b)) (all.1.2.get? name)
          (alone.1.2.get? name) ∧
        (t.Issued b → ∀ old, t.get? name = some old →
          Option.Rel (Pass.KeepSame old) (all.1.2.get? name) (alone.1.2.get? name))) ∧
    (∀ name, name ∉ descs.map ShaderDesc.name → all.1.2.get? name = t.get? name) ∧
    ∀ before desc after, descs = before ++ desc :: after →
      let first := t.buildAll declarations before b
      let built := first.1.2.build desc declarations first.2
      let rest := built.1.2.buildAll declarations after built.2
      let namesakes := t.buildAll declarations (before.filter fun d => d.name = desc.name) b
      all.1.1 = first.1.1 ++ errorsOf built.1.1 ++ rest.1.1 ∧
        built.1.1 = (namesakes.1.2.build desc declarations namesakes.2).1.1 ∧
        ∀ e, built.1.1 = .error e → e.pass = desc.name ∧ built.1.2 = first.1.2 := by
  intro all
  refine ⟨fun name => ?_, fun name hname => ?_, fun before desc after hsplit => ?_⟩
  · obtain ⟨herrors, hend⟩ := (h.abreast b name).buildAll declarations descs
    refine ⟨herrors, hend.entry, fun hissued old hold => ?_⟩
    rcases rel_cases hend.entry with ⟨hp, hq⟩ | ⟨p, q, hp, hq, hpq⟩
    · rw [hp, hq]
      exact .none
    · rw [hp, hq]
      rw [hold] at hpq
      exact .some (hpq.keepSame (hissued.program hold) (hissued.framebuffer hold))
  · exact h.get?_buildAll declarations hname b
  · intro first built rest namesakes
    obtain ⟨-, hbefore⟩ := (h.abreast b desc.name).buildAll declarations before
    subst hsplit
    refine ⟨?_, (hbefore.together declarations).1, fun e he => build_failed he⟩
    simp only [all, first, built, rest, buildAll_append, buildAll_cons, List.append_assoc]

end

/-- A pass of another name. -/
def blur : ShaderDesc := { declaring with name := "blur" }

/-- A pass that the front end below rejects. -/
def faulty : ShaderDesc := { declaring with body := ⟨"out_color = fault;", 2⟩ }

def picky : Program.FrontEnd := fun source =>
  if source = (Source.assemble faulty []).text then .error ⟨none, "fault"⟩
  else Program.oneUniform source

/-- The pass is kept, rejected and then built again: alone with program 3, and with program 5
after `blur` was given a program and a framebuffer. -/
theorem buildAll_isolated_sample :
    let start := empty.run [.build declaring []] ({} : Recorder picky)
    let descs := [blur, declaring, faulty, { declaring with body := ⟨"out_color = vec4(0);", 2⟩ }]
    let all := start.1.buildAll [] descs start.2
    let alone := start.1.buildAll [] (descs.filter fun desc => desc.name = "fill") start.2
    start.1.Filed ∧ start.1.Issued start.2 ∧
      all.1.1.filter (fun e => e.pass = "fill") = alone.1.1 ∧
      Option.Rel (Pass.SameEffect (start.1.get? "fill") (Numbering.next start.2))
        (all.1.2.get? "fill") (alone.1.2.get? "fill") ∧
      alone.1.1.length = 1 ∧
      (all.1.2.get? "fill").map (·.program) = some ⟨5⟩ ∧
      (alone.1.2.get? "fill").map (·.program) = some ⟨3⟩ := by
  have hfiled := filed_empty.run [.build declaring []] ({} : Recorder picky)
  have hissued := (issued_empty ({} : Recorder picky)).run [.build declaring []]
  have hfill := (buildAll_isolated hfiled []
    [blur, declaring, faulty, { declaring with body := ⟨"out_color = vec4(0);", 2⟩ }]
    (empty.run [.build declaring []] ({} : Recorder picky)).2).1 "fill"
  exact ⟨hfiled, hissued, hfill.1, hfill.2.1, by decide +kernel⟩

end PassTable
end FrameGraph
