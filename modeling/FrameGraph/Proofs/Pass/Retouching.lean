import FrameGraph.Proofs.Gpu.Reflecting
import FrameGraph.Proofs.Pass.Rebuilding
import FrameGraph.Proofs.Source.LineMapping

/-!
# Edits that do not reach a program

An edit of a script may move its lines, change how passes blend, and add, remove or reorder
declarations. None of this is in the text of a program as long as each name that a pass
includes is still first declared with the same body. So if all passes were built before the
edit, they are built after it too, and a pass whose name occurs once is not built again: its
turn is a computation that makes no call at all, on whichever backend, and only its blending
follows the new description. A name that occurs more than once is built again at each of its
turns, since the table has the text of the last one; for this the backend has to accept a
text that it has accepted once (`Gpu.Steady`).

Results:
* `Source.text_retouched`: the edit leaves the text as it was.
* `build_way`: the three ways of a build, on any backend.
* `retouched_passes_are_kept`: all passes are built again without error, and those whose
  names occur once without a call.
-/
namespace FrameGraph

open Gpu

/-! ## The text -/

/-- The same pass, whose body may stand on other lines and which may blend otherwise. -/
def ShaderDesc.Retouched (desc desc' : ShaderDesc) : Prop :=
  ∃ start blendMode, desc' = { desc with body := { desc.body with start }, blendMode }

/-- The name is first declared with the same text in both, or in neither. -/
def Source.SameBody (declarations declarations' : List Declaration) (name : String) : Prop :=
  (Source.included? declarations name).map SourceText.text
    = (Source.included? declarations' name).map SourceText.text

/-- The retouched passes have the names of the old ones. -/
theorem names_retouched {descs descs' : List ShaderDesc}
    (h : List.Forall₂ ShaderDesc.Retouched descs descs') :
    descs.map ShaderDesc.name = descs'.map ShaderDesc.name := by
  induction h with
  | nil => rfl
  | cons hdesc _ ih =>
    obtain ⟨start, blendMode, rfl⟩ := hdesc
    simp only [List.map_cons, ih]

/-- What stands around a pass was retouched like it. -/
theorem retouched_split {descs before after : List ShaderDesc} {desc' : ShaderDesc}
    (h : List.Forall₂ ShaderDesc.Retouched descs (before ++ desc' :: after)) :
    ∃ before₀ desc after₀, descs = before₀ ++ desc :: after₀ ∧ desc.Retouched desc' ∧
      List.Forall₂ ShaderDesc.Retouched before₀ before ∧
      List.Forall₂ ShaderDesc.Retouched after₀ after := by
  induction before generalizing descs with
  | nil =>
    obtain ⟨desc, after₀, hdesc, hafter, rfl⟩ := List.forall₂_cons_right_iff.mp h
    exact ⟨[], desc, after₀, rfl, hdesc, .nil, hafter⟩
  | cons first before ih =>
    obtain ⟨first₀, rest, hfirst, hrest, rfl⟩ := List.forall₂_cons_right_iff.mp h
    obtain ⟨before₀, desc, after₀, rfl, hdesc, hbefore, hafter⟩ := ih hrest
    exact ⟨first₀ :: before₀, desc, after₀, rfl, hdesc, .cons hfirst hbefore, hafter⟩

namespace Source

instance (declarations declarations' : List Declaration) (name : String) :
    Decidable (SameBody declarations declarations' name) :=
  inferInstanceAs (Decidable (_ = _))

variable {desc desc' : ShaderDesc} {declarations declarations' : List Declaration}

theorem ended_congr {fs fs' : List Fragment} (h : fs.map Fragment.text = fs'.map Fragment.text) :
    fs.map Fragment.ended = fs'.map Fragment.ended := by
  have hended : Fragment.ended
      = (fun t => if t = "" then "" else Text.withNewline t) ∘ Fragment.text := rfl
  rw [hended, ← List.map_map, h, List.map_map]

theorem text_retouched (hdesc : desc.Retouched desc')
    (hbodies : ∀ name ∈ desc.includes, SameBody declarations declarations' name) :
    (assemble desc declarations).text = (assemble desc' declarations').text := by
  obtain ⟨start, blendMode, rfl⟩ := hdesc
  rw [assemble_eq, assemble_eq, text_ofFragments, text_ofFragments]
  refine congrArg String.join (ended_congr ?_)
  have hincludes : (desc.includes.filterMap (included? declarations)).map SourceText.text
      = (desc.includes.filterMap (included? declarations')).map SourceText.text := by
    rw [List.map_filterMap, List.map_filterMap]
    exact List.filterMap_congr hbodies
  have hfragments (ds : List Declaration) :
      (desc.includes.filterMap (included? ds)).map
          (Fragment.text ∘ fun body => ⟨body.text, some body.start⟩)
        = (desc.includes.filterMap (included? ds)).map SourceText.text := rfl
  simp only [fragments, List.map_append, List.map_map, List.map_cons, List.map_nil, hfragments,
    hincludes]

end Source

/-! ## The ways of a build, on any backend -/

namespace Gpu

/-- In some state the backend builds a program of this text. -/
def Accepts (σ : Type) [Backend σ] (source : String) : Prop :=
  ∃ (b : σ) (program : ProgramId), (compileProgram source b).1 = .ok program

/-- What the backend has accepted once, it accepts again. -/
class Steady (σ : Type) [Backend σ] : Prop where
  again : ∀ {source : String} (b : σ), Accepts σ source →
    ∃ program, (compileProgram source b).1 = .ok program

instance {σ : Type} [Backend σ] {fe : Program.FrontEnd} [Reflecting σ fe] : Steady σ where
  again {source} b h := by
    obtain ⟨b₀, program, h⟩ := h
    cases hcompile : Program.compile fe source with
    | ok layout =>
      obtain ⟨p, b', hrun, -⟩ := Reflecting.accepts b hcompile
      exact ⟨p, by rw [hrun]⟩
    | error e =>
      rw [Reflecting.rejects b₀ hcompile] at h
      cases h

end Gpu

namespace PassTable

variable {σ : Type} [Backend σ] {t t' : PassTable} {desc : ShaderDesc}
  {declarations : List Declaration}

/-- How a build goes, with its outcome and the table after it. -/
inductive Way (σ : Type) [Backend σ] (t : PassTable) (desc : ShaderDesc)
    (declarations : List Declaration) : Except CompileError BuildOutcome → PassTable → Prop
  | kept {p : Pass}
      (current : t.current? desc.name (Source.assemble desc declarations).text = some p) :
    Way σ t desc declarations (.ok .unchanged) (t.put (p.restyle desc))
  | failed {e : CompileError} : Way σ t desc declarations (.error e) t
  | filed {outcome : BuildOutcome} {program : ProgramId} {framebuffer : FramebufferId}
      {uniforms samplers : List (Option Program.Location)}
      (accepted : Accepts σ (Source.assemble desc declarations).text) :
    Way σ t desc declarations (.ok outcome)
      (t.put (.make desc (Source.assemble desc declarations).text program framebuffer uniforms
        samplers))

theorem file_way (accepted : Accepts σ (Source.assemble desc declarations).text)
    (program : ProgramId) (uniforms samplers : List (Option Program.Location)) (b : σ) :
    let filed := t.file desc (Source.assemble desc declarations).text program uniforms samplers b
    Way σ t desc declarations filed.1.1 filed.1.2 := by
  intro filed
  simp only [filed, file]
  cases hget : t.get? desc.name with
  | some old => exact .filed accepted
  | none =>
    simp only [run_bind]
    cases (createFramebuffer b).1 with
    | ok framebuffer => exact .filed accepted
    | error e => exact .failed

theorem build_way (t : PassTable) (desc : ShaderDesc) (declarations : List Declaration) (b : σ) :
    Way σ t desc declarations (t.build desc declarations b).1.1
      (t.build desc declarations b).1.2 := by
  cases hcurrent : t.current? desc.name (Source.assemble desc declarations).text with
  | some p =>
    rw [build_current hcurrent]
    exact .kept hcurrent
  | none =>
    simp only [build, hcurrent, run_bind]
    cases hcompile : (compileProgram (Source.assemble desc declarations).text b).1 with
    | error e => exact .failed
    | ok program =>
      exact file_way ⟨b, program, hcompile⟩ _ _ _ _

/-- A pass that is there is built again if the backend accepts its text. -/
theorem build_accepted {old : Pass} (hget : t.get? desc.name = some old) {b : σ}
    (haccept : ∃ program,
      (compileProgram (Source.assemble desc declarations).text b).1 = .ok program) :
    ∃ outcome, (t.build desc declarations b).1.1 = .ok outcome := by
  cases hcurrent : t.current? desc.name (Source.assemble desc declarations).text with
  | some p => exact ⟨.unchanged, by rw [build_current hcurrent]⟩
  | none =>
    obtain ⟨program, hcompile⟩ := haccept
    refine ⟨.recompiled, ?_⟩
    simp only [build, hcurrent, run_bind, hcompile, file, hget]
    rfl

/-! ## Tables that builds leave -/

/-- Every pass is filed under its own name, and the backend has accepted its text. -/
def Compiled (σ : Type) [Backend σ] (t : PassTable) : Prop :=
  ∀ name p, t.get? name = some p → p.name = name ∧ Accepts σ p.source

theorem compiled_empty : Compiled σ empty := fun _ _ h => by cases h

theorem Compiled.put (h : t.Compiled σ) {p : Pass} (hp : Accepts σ p.source) :
    (t.put p).Compiled σ := by
  intro name q hq
  rw [get?_put] at hq
  split at hq
  · next hname =>
    cases hq
    exact ⟨hname.symm, hp⟩
  · exact h name q hq

theorem Compiled.build (h : t.Compiled σ) {outcome : Except CompileError BuildOutcome}
    (way : Way σ t desc declarations outcome t') : t'.Compiled σ := by
  cases way with
  | kept current => exact h.put (h _ _ (current?_eq_some current).1).2
  | failed => exact h
  | filed accepted => exact h.put accepted

/-- The tables that come about by building and releasing, whatever else is done with the
backend in between. -/
inductive Reached (σ : Type) [Backend σ] : PassTable → Prop
  | empty : Reached σ empty
  | perform {t : PassTable} (h : Reached σ t) (s : Step) (b : σ) : Reached σ (t.perform s b).1

theorem Reached.compiled (h : Reached σ t) : t.Compiled σ := by
  induction h with
  | empty => exact compiled_empty
  | @perform t h s b ih =>
    cases s with
    | build desc declarations => exact ih.build (build_way t desc declarations b)
    | retain keep =>
      intro name p hp
      have hget := Dict.get?_filter_key (· ∈ keep) t.passes name
      rw [show (t.perform (.retain keep) b).1.get? name = _ from hget] at hp
      split at hp
      · exact ih name p hp
      · cases hp
    | release => exact compiled_empty

/-- A build that succeeds leaves a pass with its text, and with the slots of its outputs. -/
theorem Compiled.built (h : t.Compiled σ) {outcome : BuildOutcome}
    (way : Way σ t desc declarations (.ok outcome) t') :
    ∃ p, t'.get? desc.name = some p ∧ p.source = (Source.assemble desc declarations).text ∧
      p.outputs = Pass.outputSlots desc ∧ Accepts σ p.source := by
  cases way with
  | @kept p current =>
    obtain ⟨hget, hsource⟩ := current?_eq_some current
    obtain ⟨hname, accepted⟩ := h _ _ hget
    refine ⟨p.restyle desc, ?_, hsource, rfl, accepted⟩
    rw [get?_put]
    exact if_pos hname.symm
  | filed accepted =>
    refine ⟨_, (get?_put ..).trans (if_pos rfl), ?_, ?_, ?_⟩
    exacts [rfl, rfl, accepted]

/-- Passes of other names are left alone. -/
theorem Compiled.get?_of_ne (h : t.Compiled σ) {outcome : Except CompileError BuildOutcome}
    (way : Way σ t desc declarations outcome t') {name : String} (hne : name ≠ desc.name) :
    t'.get? name = t.get? name := by
  cases way with
  | kept current =>
    rw [get?_put]
    exact if_neg fun heq => hne (heq.trans (h _ _ (current?_eq_some current).1).1)
  | failed => rfl
  | filed accepted =>
    rw [get?_put]
    exact if_neg hne

/-- No pass is lost. -/
theorem Way.isSome {outcome : Except CompileError BuildOutcome}
    (way : Way σ t desc declarations outcome t') {name : String} (h : (t.get? name).isSome) :
    (t'.get? name).isSome := by
  cases way with
  | kept | filed =>
    rw [get?_put]
    split
    · rfl
    · exact h
  | failed => exact h

/-! ## Building all passes -/

/-- The error of a build, if it has one. -/
def errorsOf : Except CompileError BuildOutcome → List CompileError
  | .ok _ => []
  | .error e => [e]

theorem buildAll_cons (t : PassTable) (declarations : List Declaration) (desc : ShaderDesc)
    (descs : List ShaderDesc) (b : σ) :
    t.buildAll declarations (desc :: descs) b
      = let built := t.build desc declarations b
        let rest := built.1.2.buildAll declarations descs built.2
        ((errorsOf built.1.1 ++ rest.1.1, rest.1.2), rest.2) := by
  simp only [buildAll, run_bind]
  cases (t.build desc declarations b).1.1 <;> rfl

theorem buildAll_append (t : PassTable) (declarations : List Declaration)
    (before after : List ShaderDesc) (b : σ) :
    t.buildAll declarations (before ++ after) b
      = let first := t.buildAll declarations before b
        let rest := first.1.2.buildAll declarations after first.2
        ((first.1.1 ++ rest.1.1, rest.1.2), rest.2) := by
  induction before generalizing t b with
  | nil => rfl
  | cons desc descs ih => simp only [List.cons_append, buildAll_cons, ih, List.append_assoc]

variable {descs : List ShaderDesc}

theorem Compiled.buildAll (h : t.Compiled σ) (declarations : List Declaration)
    (descs : List ShaderDesc) (b : σ) : (t.buildAll declarations descs b).1.2.Compiled σ := by
  induction descs generalizing t b with
  | nil => exact h
  | cons desc descs ih =>
    rw [buildAll_cons]
    exact ih (h.build (build_way t desc declarations b)) _

theorem isSome_buildAll (declarations : List Declaration) (descs : List ShaderDesc) (b : σ)
    {name : String} (h : (t.get? name).isSome) :
    ((t.buildAll declarations descs b).1.2.get? name).isSome := by
  induction descs generalizing t b with
  | nil => exact h
  | cons desc descs ih =>
    rw [buildAll_cons]
    exact ih _ ((build_way t desc declarations b).isSome h)

theorem Compiled.get?_buildAll (h : t.Compiled σ) (declarations : List Declaration) (b : σ)
    {name : String} (hname : name ∉ descs.map ShaderDesc.name) :
    (t.buildAll declarations descs b).1.2.get? name = t.get? name := by
  induction descs generalizing t b with
  | nil => rfl
  | cons desc descs ih =>
    rw [List.map_cons, List.mem_cons, not_or] at hname
    have way := build_way t desc declarations b
    rw [buildAll_cons]
    exact (ih (h.build way) _ hname.2).trans (h.get?_of_ne way hname.1)

/-- If there was no error, each pass was built in its turn. -/
theorem built_of_no_errors {before after : List ShaderDesc} {b : σ}
    (h : (t.buildAll declarations (before ++ desc :: after) b).1.1 = []) :
    let first := t.buildAll declarations before b
    ∃ outcome, (first.1.2.build desc declarations first.2).1.1 = .ok outcome := by
  intro first
  simp only [buildAll_append, buildAll_cons, List.append_eq_nil_iff] at h
  have herrors := h.2.1
  cases hbuilt : (first.1.2.build desc declarations first.2).1.1 with
  | ok outcome => exact ⟨outcome, rfl⟩
  | error e => simp [first, errorsOf, hbuilt] at herrors

/-- If there was no error, all passes are there and their texts were accepted. -/
theorem Compiled.of_no_errors (h : t.Compiled σ) {b : σ}
    (hbuilt : (t.buildAll declarations descs b).1.1 = []) (hdesc : desc ∈ descs) :
    Accepts σ (Source.assemble desc declarations).text ∧
      ((t.buildAll declarations descs b).1.2.get? desc.name).isSome := by
  obtain ⟨before, after, rfl⟩ := List.append_of_mem hdesc
  obtain ⟨outcome, hok⟩ := built_of_no_errors hbuilt
  have way := build_way (t.buildAll declarations before b).1.2 desc declarations
    (t.buildAll declarations before b).2
  obtain ⟨p, hget, hsource, -, accepted⟩ := (h.buildAll declarations before b).built (hok ▸ way)
  refine ⟨hsource ▸ accepted, ?_⟩
  simp only [buildAll_append, buildAll_cons]
  exact isSome_buildAll _ _ _ (Option.isSome_iff_exists.mpr ⟨p, hget⟩)

/-- If there was no error, a pass whose name occurs once is that of its description. -/
theorem Compiled.get?_of_no_errors (h : t.Compiled σ) {before after : List ShaderDesc} {b : σ}
    (hbuilt : (t.buildAll declarations (before ++ desc :: after) b).1.1 = [])
    (hname : desc.name ∉ after.map ShaderDesc.name) :
    ∃ p, (t.buildAll declarations (before ++ desc :: after) b).1.2.get? desc.name = some p ∧
      p.source = (Source.assemble desc declarations).text ∧
      p.outputs = Pass.outputSlots desc := by
  obtain ⟨outcome, hok⟩ := built_of_no_errors hbuilt
  have hbefore := h.buildAll declarations before b
  have way := build_way (t.buildAll declarations before b).1.2 desc declarations
    (t.buildAll declarations before b).2
  obtain ⟨p, hget, hsource, houtputs, -⟩ := hbefore.built (hok ▸ way)
  refine ⟨p, ?_, hsource, houtputs⟩
  simp only [buildAll_append, buildAll_cons]
  exact ((hbefore.build way).get?_buildAll declarations _ hname).trans hget

/-- A steady backend builds again what is there and was accepted. -/
theorem buildAll_steady [Steady σ] (h : ∀ desc ∈ descs,
      Accepts σ (Source.assemble desc declarations).text ∧ (t.get? desc.name).isSome) (b : σ) :
    (t.buildAll declarations descs b).1.1 = [] := by
  induction descs generalizing t b with
  | nil => rfl
  | cons desc descs ih =>
    obtain ⟨⟨accepted, hsome⟩, hrest⟩ := List.forall_mem_cons.mp h
    obtain ⟨old, hold⟩ := Option.isSome_iff_exists.mp hsome
    obtain ⟨outcome, hok⟩ := build_accepted hold (Steady.again b accepted)
    have way := build_way t desc declarations b
    rw [buildAll_cons]
    simp only [hok, errorsOf, List.nil_append]
    exact ih (fun d hd => (hrest d hd).imp id way.isSome) _

/-! ## Builds after the edit -/

/-- A pass that has the text and the outputs of a description is kept without a call. -/
theorem build_kept {τ : Type} [Backend τ] {p : Pass} (hget : t.get? desc.name = some p)
    (hsource : p.source = (Source.assemble desc declarations).text)
    (houtputs : p.outputs = Pass.outputSlots desc) :
    (t.build desc declarations : StateM τ _)
      = pure (.ok .unchanged, t.put { p with blendMode := desc.blendMode }) := by
  have hcurrent : t.current? desc.name (Source.assemble desc declarations).text = some p := by
    rw [current?, hget, Option.filter_some, hsource]
    exact if_pos (decide_eq_true rfl)
  have hstyle : p.restyle desc = { p with blendMode := desc.blendMode } := by
    rw [Pass.restyle, ← houtputs]
  funext b
  rw [build_current hcurrent, hstyle]
  rfl

variable {descs' : List ShaderDesc} {declarations' : List Declaration}

/-- After an edit that leaves the texts as they were, all passes are built without error, as
they were before it. A pass whose name occurs once is built in its turn by a computation that
makes no call, on any backend: it stays as it is, and blends as the edit says. -/
theorem retouched_passes_are_kept [Steady σ] (ht : Reached σ t) (b b' : σ)
    (hbuilt : (t.buildAll declarations descs b).1.1 = [])
    (hdescs : List.Forall₂ ShaderDesc.Retouched descs descs')
    (hbodies : ∀ desc ∈ descs, ∀ name ∈ desc.includes,
      Source.SameBody declarations declarations' name) :
    let first := (t.buildAll declarations descs b).1.2
    (first.buildAll declarations' descs' b').1.1 = [] ∧
    ∀ before desc' after, descs' = before ++ desc' :: after →
      desc'.name ∉ (before ++ after).map ShaderDesc.name →
      let reached := (first.buildAll declarations' before b').1.2
      ∃ p, first.get? desc'.name = some p ∧
        (∀ (τ : Type) [Backend τ], (reached.build desc' declarations' : StateM τ _)
          = pure (.ok .unchanged, reached.put { p with blendMode := desc'.blendMode })) ∧
        (first.buildAll declarations' descs' b').1.2.get? desc'.name
          = some { p with blendMode := desc'.blendMode } := by
  intro first
  have hcompiled := ht.compiled
  have hfirst : first.Compiled σ := hcompiled.buildAll declarations descs b
  refine ⟨buildAll_steady (fun desc' hdesc' => ?_) b', fun before desc' after heq hname => ?_⟩
  · obtain ⟨before, after, rfl⟩ := List.append_of_mem hdesc'
    obtain ⟨before₀, desc, after₀, rfl, hdesc, -, -⟩ := retouched_split hdescs
    have hmem : desc ∈ before₀ ++ desc :: after₀ := List.mem_append_right _ List.mem_cons_self
    obtain ⟨accepted, hsome⟩ := hcompiled.of_no_errors hbuilt hmem
    rw [Source.text_retouched hdesc (hbodies desc hmem)] at accepted
    obtain ⟨start, blendMode, rfl⟩ := hdesc
    exact ⟨accepted, hsome⟩
  · subst heq
    obtain ⟨before₀, desc, after₀, rfl, hdesc, hbefore, hafter⟩ := retouched_split hdescs
    have htext := Source.text_retouched hdesc
      (hbodies desc (List.mem_append_right _ List.mem_cons_self))
    obtain ⟨start, blendMode, rfl⟩ := hdesc
    rw [List.map_append, List.mem_append, not_or] at hname
    have hafter₀ : desc.name ∉ after₀.map ShaderDesc.name := names_retouched hafter ▸ hname.2
    obtain ⟨p, hget, hsource, houtputs⟩ := hcompiled.get?_of_no_errors hbuilt hafter₀
    have hreached := (hfirst.get?_buildAll declarations' b' hname.1).trans hget
    have hkept {τ : Type} [Backend τ] := build_kept (τ := τ) hreached (hsource.trans htext) houtputs
    refine ⟨p, hget, fun τ _ => hkept, ?_⟩
    have hpname : p.name = desc.name := (hfirst _ _ hget).1
    have hcompiled' := hfirst.buildAll declarations' before b'
    simp only [buildAll_append, buildAll_cons, hkept, run_pure]
    refine ((hcompiled'.put ?_).get?_buildAll declarations' _ hname.2).trans ?_
    · exact (hfirst _ _ hget).2
    · rw [get?_put]
      exact if_pos hpname.symm

/-- Two lines further down, and blending. -/
def movedDown : ShaderDesc :=
  { including with body := { including.body with start := 4 }, blendMode := .alphaBlend }

/-- The declaration moved too, and has a new one before it and one behind that it hides. -/
def rearranged : List Declaration :=
  [⟨"noise", ⟨"float n();\n", 1⟩⟩,
    { interface with body := { interface.body with start := 3 } },
    ⟨"interface", ⟨"#error\n", 9⟩⟩]

theorem retouched_passes_are_kept_moved_down :
    let run := empty.buildAll [interface] [including] ({} : Recorder Program.oneUniform)
    let again := run.1.2.buildAll rearranged [movedDown] run.2
    run.1.1 = [] ∧ again.1.1 = [] ∧
      ∃ p, run.1.2.get? "fill" = some p ∧
        again.1.2.get? "fill" = some { p with blendMode := .alphaBlend } := by
  have hreached : Reached (Recorder Program.oneUniform) empty := .empty
  have hbuilt : (empty.buildAll [interface] [including]
      ({} : Recorder Program.oneUniform)).1.1 = [] := by decide +kernel
  have hdescs : List.Forall₂ ShaderDesc.Retouched [including] [movedDown] :=
    .cons ⟨4, .alphaBlend, rfl⟩ .nil
  have hbodies : ∀ desc ∈ [including], ∀ name ∈ desc.includes,
      Source.SameBody [interface] rearranged name := by decide +kernel
  obtain ⟨herrors, hkept⟩ := retouched_passes_are_kept hreached {}
    (empty.buildAll [interface] [including] ({} : Recorder Program.oneUniform)).2 hbuilt hdescs
    hbodies
  obtain ⟨p, hget, -, hget'⟩ := hkept [] movedDown [] rfl (by decide)
  exact ⟨hbuilt, herrors, p, hget, hget'⟩

end PassTable
end FrameGraph
