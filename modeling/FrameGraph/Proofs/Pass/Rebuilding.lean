import FrameGraph.Proofs.Gpu.Reflecting
import FrameGraph.Proofs.Pass.Building

/-!
# Builds that are skipped

A pass whose text is that of the table is not built again; only what its text does not tell
is taken from the new description. Its locations stay those of the names that the
description it was built from declares (`Pass.From`). So a skipped build leaves what a build
in an empty table would have made exactly if the layout has the names of both descriptions
at the same places. Two descriptions can have one text and declare different names, since
what one of them declares the other may include.

Results:
* `build_current`, `build_new`, `build_rejected`: the three ways of a build.
* `Reflected`: every pass was built from some description. Every step of a table keeps it
  (`Reflected.run`).
* `skipped_build_agrees_iff`: when a skipped build agrees with one in an empty table.
* `skipped_build_keeps_locations`: two descriptions for which it does not.
-/
namespace FrameGraph

open Gpu

namespace Pass

/-- The pass was built from this description, and its program has this layout. -/
structure From (fe : Program.FrontEnd) (desc : ShaderDesc) (declarations : List Declaration)
    (layout : Program.Layout) (p : Pass) : Prop where
  name : p.name = desc.name
  source : p.source = (Source.assemble desc declarations).text
  compiles : Program.compile fe p.source = .ok layout
  uniforms : p.uniforms = layout.locate desc.uniforms
  samplers : p.samplers = layout.locate desc.samplers

/-- Both passes are the same but for their objects on the backend. -/
structure Alike (p q : Pass) : Prop where
  name : p.name = q.name
  source : p.source = q.source
  uniforms : p.uniforms = q.uniforms
  samplers : p.samplers = q.samplers
  outputs : p.outputs = q.outputs
  blendMode : p.blendMode = q.blendMode

variable {fe : Program.FrontEnd} {layout : Program.Layout} {p q : Pass} {desc : ShaderDesc}
  {declarations : List Declaration}

/-- What the text does not tell has no part in where a pass comes from. -/
theorem From.restyle (h : p.From fe desc declarations layout) (desc' : ShaderDesc) :
    (p.restyle desc').From fe desc declarations layout :=
  ⟨h.name, h.source, h.compiles, h.uniforms, h.samplers⟩

theorem From.make {source : String} (hsource : source = (Source.assemble desc declarations).text)
    (hcompile : Program.compile fe source = .ok layout) (program : ProgramId)
    (framebuffer : FramebufferId) :
    (Pass.make desc source program framebuffer (layout.locate desc.uniforms)
      (layout.locate desc.samplers)).From fe desc declarations layout :=
  ⟨rfl, hsource, hcompile, rfl, rfl⟩

/-- Passes of one name, text and style are alike exactly if the layout has the names that
they were built from at the same places. -/
theorem From.alike_iff {desc' : ShaderDesc} {declarations' : List Declaration}
    (h : p.From fe desc declarations layout) (h' : q.From fe desc' declarations' layout)
    (hname : p.name = q.name) (hsource : p.source = q.source) (houtputs : p.outputs = q.outputs)
    (hblend : p.blendMode = q.blendMode) :
    p.Alike q ↔ layout.locate desc.uniforms = layout.locate desc'.uniforms ∧
      layout.locate desc.samplers = layout.locate desc'.samplers := by
  rw [← h.uniforms, ← h'.uniforms, ← h.samplers, ← h'.samplers]
  exact ⟨fun hp => ⟨hp.uniforms, hp.samplers⟩,
    fun ⟨hu, hs⟩ => ⟨hname, hsource, hu, hs, houtputs, hblend⟩⟩

end Pass

namespace PassTable

/-- Every pass is filed under its own name, and was built from some description. -/
def Reflected (fe : Program.FrontEnd) (t : PassTable) : Prop :=
  ∀ name p, t.get? name = some p →
    p.name = name ∧ ∃ desc declarations layout, p.From fe desc declarations layout

/-! ## The ways of a build -/

variable {σ : Type} [Backend σ] {t : PassTable} {desc : ShaderDesc}
  {declarations : List Declaration} {p : Pass}

/-- The text is that of the table: nothing is asked of the backend. -/
theorem build_current
    (h : t.current? desc.name (Source.assemble desc declarations).text = some p) (b : σ) :
    t.build desc declarations b = ((.ok .unchanged, t.put (p.restyle desc)), b) := by
  simp only [build, h, run_pure]

theorem length_locations (program : ProgramId) (names : List TypedName) (b : σ) :
    (Pass.locations program names b).1.length = names.length := by
  induction names generalizing b with
  | nil => rfl
  | cons n ns ih => exact congrArg (· + 1) (ih _)

/-- A pass that was not there is built in whole, or not at all. -/
theorem build_table (desc : ShaderDesc) (declarations : List Declaration) (b : σ)
    (hnew : t.get? desc.name = none) :
    (t.build desc declarations b).1.2 = t ∨
      ∃ source program framebuffer uniforms, ∃ b' : σ, (t.build desc declarations b).1.2
        = t.put (.make desc source program framebuffer uniforms
            (Pass.locations program desc.samplers b').1) := by
  have hcurrent (source : String) : t.current? desc.name source = none := by
    rw [current?, hnew]
    rfl
  simp only [build, hcurrent, run_bind]
  cases (compileProgram (Source.assemble desc declarations).text b).1 with
  | error e => exact .inl rfl
  | ok program =>
    let b₁ := (compileProgram (Source.assemble desc declarations).text b).2
    let b₂ := (Pass.locations program desc.uniforms b₁).2
    simp only [file, hnew, run_bind]
    cases (createFramebuffer (Pass.locations program desc.samplers b₂).2).1 with
    | error e => exact .inl rfl
    | ok framebuffer => exact .inr ⟨_, program, framebuffer, _, b₂, rfl⟩

variable {fe : Program.FrontEnd} [Reflecting σ fe] {layout : Program.Layout}

/-- The text is new and accepted: its program is filed, with the locations that the layout has
for the declared names. -/
theorem build_accepts (hnew : t.current? desc.name (Source.assemble desc declarations).text = none)
    (hcompile : Program.compile fe (Source.assemble desc declarations).text = .ok layout)
    (b : σ) :
    ∃ program b₁,
      compileProgram (Source.assemble desc declarations).text b = (.ok program, b₁) ∧
      t.build desc declarations b
        = t.file desc (Source.assemble desc declarations).text program
            (layout.locate desc.uniforms) (layout.locate desc.samplers) b₁ := by
  obtain ⟨program, b₁, hcompiled, hlayout⟩ := Reflecting.accepts b hcompile
  refine ⟨program, b₁, hcompiled, ?_⟩
  simp only [build, hnew, run_bind, hcompiled, locations_eq hlayout]

/-- The text is new and accepted: the pass has the locations of the declared names. -/
theorem build_new (hnew : t.current? desc.name (Source.assemble desc declarations).text = none)
    (hcompile : Program.compile fe (Source.assemble desc declarations).text = .ok layout)
    (b : σ) :
    ∃ program framebuffer b', t.build desc declarations b
      = ((.ok (if (t.get? desc.name).isSome then .recompiled else .created),
          t.put (.make desc (Source.assemble desc declarations).text program framebuffer
            (layout.locate desc.uniforms) (layout.locate desc.samplers))), b') := by
  obtain ⟨program, b₁, -, hrun⟩ := build_accepts hnew hcompile b
  rw [hrun]
  cases hget : t.get? desc.name with
  | some old =>
    refine ⟨program, old.framebuffer, (deleteProgram old.program b₁).2, ?_⟩
    simp only [file, hget, run_bind, run_pure, Option.isSome_some, if_true]
  | none =>
    obtain ⟨framebuffer, b₂, hframe⟩ := Reflecting.frames b₁
    refine ⟨program, framebuffer, b₂, ?_⟩
    simp only [file, hget, run_bind, hframe, run_pure, Option.isSome_none, Bool.false_eq_true,
      if_false]

/-- The text is new and rejected: the table stays as it is. -/
theorem build_rejected {e : Program.ShaderError}
    (hnew : t.current? desc.name (Source.assemble desc declarations).text = none)
    (hcompile : Program.compile fe (Source.assemble desc declarations).text = .error e) (b : σ) :
    t.build desc declarations b
      = ((.error (.ofShader desc.name (Source.assemble desc declarations) e), t), b) := by
  simp only [build, hnew, run_bind, Reflecting.rejects b hcompile, run_pure]

/-! ## Where passes come from -/

theorem reflected_empty : Reflected fe empty := fun _ _ h => by cases h

theorem Reflected.put (h : t.Reflected fe)
    (hp : ∃ desc declarations layout, p.From fe desc declarations layout) :
    (t.put p).Reflected fe := by
  intro name q hq
  rw [get?_put] at hq
  split at hq
  · next hname =>
    cases hq
    exact ⟨hname.symm, hp⟩
  · exact h name q hq

theorem Reflected.build (h : t.Reflected fe) (desc : ShaderDesc)
    (declarations : List Declaration) (b : σ) :
    (t.build desc declarations b).1.2.Reflected fe := by
  cases hcurrent : t.current? desc.name (Source.assemble desc declarations).text with
  | some p =>
    rw [build_current hcurrent]
    obtain ⟨-, origin, ds, layout, hfrom⟩ := h _ _ (current?_eq_some hcurrent).1
    exact h.put ⟨origin, ds, layout, hfrom.restyle desc⟩
  | none =>
    cases hcompile : Program.compile fe (Source.assemble desc declarations).text with
    | error e =>
      rw [build_rejected hcurrent hcompile]
      exact h
    | ok layout =>
      obtain ⟨program, framebuffer, b', hrun⟩ := build_new hcurrent hcompile b
      rw [hrun]
      exact h.put ⟨desc, declarations, layout, .make rfl hcompile program framebuffer⟩

/-- What is done with a table. -/
inductive Step where
  | build (desc : ShaderDesc) (declarations : List Declaration)
  | retain (keep : List String)
  | release

def perform (t : PassTable) : Step → StateM σ PassTable
  | .build desc declarations => do return (← t.build desc declarations).2
  | .retain keep => t.retain keep
  | .release => t.releaseAll

/-- The table and the backend after some steps. -/
def run (t : PassTable) : List Step → StateM σ PassTable
  | [] => return t
  | s :: ss => do run (← t.perform s) ss

theorem Reflected.run (h : t.Reflected fe) (steps : List Step) (b : σ) :
    (t.run steps b).1.Reflected fe := by
  induction steps generalizing t b with
  | nil => exact h
  | cons s ss ih =>
    refine ih ?_ _
    cases s with
    | build desc declarations => exact h.build desc declarations b
    | retain keep =>
      intro name p hp
      have hget := Dict.get?_filter_key (· ∈ keep) t.passes name
      rw [show (t.retain keep b).1.get? name = _ from hget] at hp
      split at hp
      · exact h name p hp
      · cases hp
    | release => exact reflected_empty

/-- A build that succeeds files a pass with its text, that was built from this description
unless the text was there before. -/
theorem Reflected.built (h : t.Reflected fe) {b : σ} {outcome : BuildOutcome}
    (hbuilt : (t.build desc declarations b).1.1 = .ok outcome) :
    ∃ p origin ds layout, (t.build desc declarations b).1.2.get? desc.name = some p ∧
      p.name = desc.name ∧ p.source = (Source.assemble desc declarations).text ∧
      p.From fe origin ds layout ∧ (outcome ≠ .unchanged → origin = desc) := by
  cases hcurrent : t.current? desc.name (Source.assemble desc declarations).text with
  | some p =>
    obtain ⟨hget, hsource⟩ := current?_eq_some hcurrent
    obtain ⟨hname, origin, ds, layout, hfrom⟩ := h _ _ hget
    rw [build_current hcurrent] at hbuilt ⊢
    cases hbuilt
    refine ⟨p.restyle desc, origin, ds, layout, ?_, hname, hsource, hfrom.restyle desc,
      fun hne => absurd rfl hne⟩
    rw [get?_put]
    exact if_pos hname.symm
  | none =>
    cases hcompile : Program.compile fe (Source.assemble desc declarations).text with
    | error e =>
      rw [build_rejected hcurrent hcompile] at hbuilt
      cases hbuilt
    | ok layout =>
      obtain ⟨program, framebuffer, b', hrun⟩ := build_new hcurrent hcompile b
      rw [hrun]
      refine ⟨_, desc, declarations, layout, ?_, rfl, rfl,
        .make rfl hcompile program framebuffer, fun _ => rfl⟩
      rw [get?_put]
      exact if_pos rfl

/-- However a table came about: once a pass is built, a build of the same name and text is
skipped. It leaves name, text, outputs and blending as a build in an empty table would. The
locations are those that the layout has for the description that the pass was built from,
so they are the same exactly if it has those of the new one at the same places. -/
theorem skipped_build_agrees_iff {τ : Type} [Backend τ] [Reflecting τ fe] (steps : List Step)
    (b : σ) (b' : τ) {desc₁ desc₂ : ShaderDesc} {ds₁ ds₂ : List Declaration}
    (hname : desc₁.name = desc₂.name)
    (htext : (Source.assemble desc₁ ds₁).text = (Source.assemble desc₂ ds₂).text)
    {outcome : BuildOutcome}
    (hbuilt : ((empty.run steps b).1.build desc₁ ds₁ (empty.run steps b).2).1.1 = .ok outcome) :
    let first := (empty.run steps b).1.build desc₁ ds₁ (empty.run steps b).2
    let second := first.1.2.build desc₂ ds₂ first.2
    let anew := empty.build desc₂ ds₂ b'
    ∃ kept fresh origin ds₀ layout,
      (second.1.1 = .ok .unchanged ∧ second.2 = first.2 ∧
        second.1.2.get? desc₂.name = some kept) ∧
      (anew.1.1 = .ok .created ∧ anew.1.2.get? desc₂.name = some fresh) ∧
      (kept.name = fresh.name ∧ kept.source = fresh.source ∧ kept.outputs = fresh.outputs ∧
        kept.blendMode = fresh.blendMode) ∧
      ((Source.assemble origin ds₀).text = (Source.assemble desc₂ ds₂).text ∧
        (outcome ≠ .unchanged → origin = desc₁) ∧
        Program.compile fe (Source.assemble desc₂ ds₂).text = .ok layout) ∧
      (kept.Alike fresh ↔ layout.locate origin.uniforms = layout.locate desc₂.uniforms ∧
        layout.locate origin.samplers = layout.locate desc₂.samplers) := by
  intro first second anew
  have hreflected : (empty.run steps b).1.Reflected fe := reflected_empty.run steps b
  obtain ⟨p, origin, ds₀, layout, hget, hpname, hsource, hfrom, horigin⟩ :=
    hreflected.built hbuilt
  rw [hname] at hget hpname
  rw [htext] at hsource
  have hcompile : Program.compile fe (Source.assemble desc₂ ds₂).text = .ok layout := by
    rw [← hsource]
    exact hfrom.compiles
  have hcurrent : first.1.2.current? desc₂.name (Source.assemble desc₂ ds₂).text = some p := by
    rw [current?, hget, Option.filter_some, hsource]
    exact if_pos (decide_eq_true rfl)
  have hsecond : second = ((.ok .unchanged, first.1.2.put (p.restyle desc₂)), first.2) :=
    build_current hcurrent first.2
  obtain ⟨program, framebuffer, b'', hanew⟩ := build_new (t := empty) rfl hcompile b'
  have hanew : anew = _ := hanew
  let fresh := Pass.make desc₂ (Source.assemble desc₂ ds₂).text program framebuffer
    (layout.locate desc₂.uniforms) (layout.locate desc₂.samplers)
  have hfresh : fresh.From fe desc₂ ds₂ layout := .make rfl hcompile program framebuffer
  refine ⟨p.restyle desc₂, fresh, origin, ds₀, layout, ?_, ?_, ⟨hpname, hsource, rfl, rfl⟩,
    ⟨hfrom.source.symm.trans hsource, horigin, hcompile⟩,
    (hfrom.restyle desc₂).alike_iff hfresh hpname hsource rfl rfl⟩
  · rw [hsecond]
    refine ⟨rfl, rfl, ?_⟩
    rw [get?_put]
    exact if_pos hpname.symm
  · rw [hanew]
    refine ⟨rfl, ?_⟩
    rw [get?_put]
    exact if_pos rfl

/-! ## A text that two descriptions have -/

/-- A pass that declares its output and its uniform. -/
def declaring : ShaderDesc where
  name := "fill"
  includes := []
  uniforms := [⟨"color", "vec4"⟩]
  samplers := []
  outputs := [⟨"out_color", "vec4"⟩]
  body := ⟨"out_color = color;", 2⟩
  blendMode := .overwrite

/-- The same pass, which includes the lines that the other one declares. -/
def including : ShaderDesc :=
  { declaring with includes := ["interface"], uniforms := [], outputs := [] }

def interface : Declaration where
  name := "interface"
  body := ⟨Source.outputsBlock declaring.outputs ++ Source.uniformsBlock declaring.uniforms, 1⟩

theorem skipped_build_keeps_locations :
    let first := empty.build including [interface] ({} : Recorder Program.oneUniform)
    let second := first.1.2.build declaring [] first.2
    let anew := empty.build declaring [] ({} : Recorder Program.oneUniform)
    including.name = declaring.name ∧
      (Source.assemble including [interface]).text = (Source.assemble declaring []).text ∧
      first.1.1 = .ok .created ∧ second.1.1 = .ok .unchanged ∧
      (second.1.2.get? declaring.name).map Pass.uniforms = some [] ∧
      (anew.1.2.get? declaring.name).map Pass.uniforms = some [some ⟨0⟩] := by
  decide +kernel

theorem skipped_build_agrees_iff_sample :
    let start := empty.run [] ({} : Recorder Program.oneUniform)
    let first := start.1.build including [interface] start.2
    let second := first.1.2.build declaring [] first.2
    let anew := empty.build declaring [] ({} : Recorder Program.oneUniform)
    ∃ kept fresh, second.1.2.get? declaring.name = some kept ∧
      anew.1.2.get? declaring.name = some fresh ∧ kept.outputs = fresh.outputs ∧
      ¬ kept.Alike fresh := by
  have hname : including.name = declaring.name := rfl
  have htext : (Source.assemble including [interface]).text
      = (Source.assemble declaring []).text := by decide +kernel
  have hbuilt : ((empty.run [] ({} : Recorder Program.oneUniform)).1.build including [interface]
      (empty.run [] ({} : Recorder Program.oneUniform)).2).1.1 = .ok .created := by decide +kernel
  obtain ⟨kept, fresh, origin, ds₀, layout, ⟨-, -, hkept⟩, ⟨-, hfresh⟩, ⟨-, -, houtputs, -⟩,
      ⟨-, horigin, -⟩, hiff⟩ :=
    skipped_build_agrees_iff [] ({} : Recorder Program.oneUniform)
      ({} : Recorder Program.oneUniform) hname htext hbuilt
  refine ⟨kept, fresh, hkept, hfresh, houtputs, fun halike => ?_⟩
  obtain ⟨huniforms, -⟩ := hiff.1 halike
  rw [horigin fun h => by cases h] at huniforms
  cases huniforms

end PassTable
end FrameGraph
