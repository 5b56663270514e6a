import FrameGraph.Proofs.Pass.Exceeding
import FrameGraph.Proofs.Pass.Isolation

/-!
# Where a load stops

A load that is checked goes from build to build, and the first number that is no word stops
it. So a load that is not stopped has met no such number: the lines it reports, the bindings
and the uniform buffers of its programs are what they are without limits on numbers.

Results:
* `buildAllChecked_cons`, `buildAllChecked_append`: a load is checked build by build.
* `buildAllChecked_error_iff`, `not_exceeds_of_ok`: where a load stops, and where it does not.
* `exists_of_mem_errors`, `build_keeps_program`: where the errors and the programs of a load
  come from.
* `load_stops_iff`: where a load stops, and what it comes to if it does not.
* `load_stops`: loads that are stopped.
-/
namespace FrameGraph

open Gpu

namespace PassTable

variable {fe : Program.FrontEnd} {buffers : Bool} {t : PassTable} {desc : ShaderDesc}
  {declarations : List Declaration} {overflow : Overflow}

/-! ## Loads that are stopped -/

section
variable {σ : Type} [Backend σ] [Reckoning σ] {b : σ} {before after descs : List ShaderDesc}
  {loaded : (List CompileError × PassTable) × σ}

/-- A load is checked build by build. -/
theorem buildAllChecked_cons (t : PassTable) (declarations : List Declaration) (desc : ShaderDesc)
    (descs : List ShaderDesc) (b : σ) :
    t.buildAllChecked declarations (desc :: descs) b
      = (t.buildChecked desc declarations b).bind fun built =>
          (built.1.2.buildAllChecked declarations descs built.2).map fun rest =>
            ((errorsOf built.1.1 ++ rest.1.1, rest.1.2), rest.2) := by
  let built := t.build desc declarations b
  have hops : t.buildAllOps declarations (desc :: descs) b
      = t.buildOps desc declarations b ++ built.1.2.buildAllOps declarations descs built.2 := rfl
  unfold buildAllChecked buildChecked checking checked
  rw [hops, WordOp.stop?_append, buildAll_cons]
  cases WordOp.stop? (t.buildOps desc declarations b) with
  | some overflow => rfl
  | none =>
    rw [Option.none_or, Except.bind]
    cases WordOp.stop? (built.1.2.buildAllOps declarations descs built.2) <;> rfl

theorem buildAllChecked_append (t : PassTable) (declarations : List Declaration)
    (before after : List ShaderDesc) (b : σ) :
    t.buildAllChecked declarations (before ++ after) b
      = (t.buildAllChecked declarations before b).bind fun first =>
          (first.1.2.buildAllChecked declarations after first.2).map fun rest =>
            ((first.1.1 ++ rest.1.1, rest.1.2), rest.2) := by
  induction before generalizing t b with
  | nil =>
    have hnil : t.buildAllChecked declarations [] b = .ok (([], t), b) := rfl
    rw [hnil, List.nil_append, Except.bind]
    cases t.buildAllChecked declarations after b <;> rfl
  | cons desc before ih =>
    simp only [List.cons_append, buildAllChecked_cons, ih]
    cases t.buildChecked desc declarations b with
    | error overflow => rfl
    | ok built =>
      simp only [Except.bind]
      cases built.1.2.buildAllChecked declarations before built.2 with
      | error overflow => rfl
      | ok first =>
        simp only [Except.map, List.append_assoc]
        cases first.1.2.buildAllChecked declarations after first.2 <;> rfl

theorem buildAllChecked_eq_error :
    t.buildAllChecked declarations descs b = .error overflow ↔
      WordOp.stop? (t.buildAllOps declarations descs b) = some overflow :=
  checked_eq_error_iff

/-- A load that is not stopped comes to what the builds come to. -/
theorem buildAllChecked_ok (h : t.buildAllChecked declarations descs b = .ok loaded) :
    t.buildAll declarations descs b = loaded :=
  (checked_eq_ok_iff.1 h).2

/-- A load that is not stopped was not stopped on the way. -/
theorem exists_of_buildAllChecked
    (h : t.buildAllChecked declarations (before ++ after) b = .ok loaded) :
    ∃ rest, t.buildAllChecked declarations before b = .ok (t.buildAll declarations before b) ∧
      (t.buildAll declarations before b).1.2.buildAllChecked declarations after
        (t.buildAll declarations before b).2 = .ok rest := by
  rw [buildAllChecked_append] at h
  cases hfirst : t.buildAllChecked declarations before b with
  | error overflow =>
    rw [hfirst] at h
    cases h
  | ok first =>
    rw [hfirst, Except.bind] at h
    rw [buildAllChecked_ok hfirst]
    cases hrest : first.1.2.buildAllChecked declarations after first.2 with
    | error overflow =>
      rw [hrest] at h
      cases h
    | ok rest => exact ⟨rest, rfl, rfl⟩

variable [Reflecting σ fe] [Padding σ fe buffers]

/-- A load is stopped by the first build that needs a number that is no word. -/
theorem buildAllChecked_error_iff
    (hlines : ∀ desc ∈ descs, ∀ f ∈ Source.fragments desc declarations, f.lineCount < 2 ^ 32) :
    t.buildAllChecked declarations descs b = .error overflow ↔
      ∃ before desc after, descs = before ++ desc :: after ∧
        ∃ first, t.buildAllChecked declarations before b = .ok first ∧
          first.1.2.Exceeds fe buffers declarations desc overflow := by
  constructor
  · intro hstopped
    induction descs generalizing t b with
    | nil => cases hstopped
    | cons desc descs ih =>
      obtain ⟨hdesc, hdescs⟩ := List.forall_mem_cons.1 hlines
      rw [buildAllChecked_cons] at hstopped
      cases hbuilt : t.buildChecked desc declarations b with
      | error overflow' =>
        rw [hbuilt] at hstopped
        cases hstopped
        exact ⟨[], desc, descs, rfl, _, rfl, (buildChecked_error_iff hdesc).1 hbuilt⟩
      | ok built =>
        rw [hbuilt, Except.bind] at hstopped
        cases hrest : built.1.2.buildAllChecked declarations descs built.2 with
        | ok rest =>
          rw [hrest] at hstopped
          cases hstopped
        | error overflow' =>
          rw [hrest] at hstopped
          cases hstopped
          obtain ⟨before, desc', after, hsplit, first, hfirst, hexceeds⟩ := ih hdescs hrest
          refine ⟨desc :: before, desc', after, by rw [hsplit, List.cons_append],
            ((errorsOf built.1.1 ++ first.1.1, first.1.2), first.2), ?_, hexceeds⟩
          rw [buildAllChecked_cons, hbuilt, Except.bind, hfirst]
          rfl
  · intro ⟨before, desc, after, hsplit, first, hfirst, hexceeds⟩
    have hdesc := hlines desc (by simp [hsplit])
    rw [hsplit, buildAllChecked_append, hfirst, Except.bind, buildAllChecked_cons,
      (buildChecked_error_iff hdesc).2 hexceeds]
    rfl

/-- A load that is not stopped needs no number that is no word. -/
theorem not_exceeds_of_ok
    (hlines : ∀ desc' ∈ before ++ desc :: after, ∀ f ∈ Source.fragments desc' declarations,
      f.lineCount < 2 ^ 32)
    (h : t.buildAllChecked declarations (before ++ desc :: after) b = .ok loaded)
    (overflow : Overflow) :
    ¬ (t.buildAll declarations before b).1.2.Exceeds fe buffers declarations desc overflow := by
  intro hexceeds
  obtain ⟨-, hfirst, -⟩ := exists_of_buildAllChecked h
  have hstopped : t.buildAllChecked declarations (before ++ desc :: after) b = .error overflow :=
    (buildAllChecked_error_iff hlines).2 ⟨before, desc, after, rfl, _, hfirst, hexceeds⟩
  rw [hstopped] at h
  cases h

end

/-! ## The errors of a load -/

section
variable {σ : Type} [Backend σ] {b : σ} {descs : List ShaderDesc}

/-- Every error of a load is that of a build on the way. -/
theorem exists_of_mem_errors {e : CompileError}
    (he : e ∈ (t.buildAll declarations descs b).1.1) :
    ∃ before desc after, descs = before ++ desc :: after ∧
      ((t.buildAll declarations before b).1.2.build desc declarations
        (t.buildAll declarations before b).2).1.1 = .error e := by
  induction descs generalizing t b with
  | nil => cases he
  | cons desc descs ih =>
    rw [buildAll_cons] at he
    rcases List.mem_append.1 he with he | he
    · refine ⟨[], desc, descs, rfl, ?_⟩
      cases hbuilt : (t.build desc declarations b).1.1 with
      | ok outcome =>
        rw [hbuilt] at he
        cases he
      | error e' =>
        rw [hbuilt] at he
        rw [List.mem_singleton.1 he]
        exact hbuilt
    · obtain ⟨before, desc', after, hsplit, hfailed⟩ := ih he
      refine ⟨desc :: before, desc', after, by rw [hsplit, List.cons_append], ?_⟩
      rw [buildAll_cons]
      exact hfailed

variable [Reflecting σ fe]

/-- A build fails only if the front end rejects a new text. -/
theorem rejected_of_error {e : CompileError} (h : (t.build desc declarations b).1.1 = .error e) :
    t.current? desc.name (Source.assemble desc declarations).text = none ∧
      ∃ r, fe (Source.assemble desc declarations).text = .error r ∧
        e = .ofShader desc.name (Source.assemble desc declarations) r := by
  cases hcurrent : t.current? desc.name (Source.assemble desc declarations).text with
  | some p =>
    rw [build_current hcurrent] at h
    cases h
  | none =>
    cases hverdict : fe (Source.assemble desc declarations).text with
    | error r =>
      rw [build_rejected hcurrent (Program.compile_of_rejected hverdict)] at h
      cases h
      exact ⟨rfl, r, rfl, rfl⟩
    | ok m =>
      obtain ⟨program, framebuffer, b', hrun⟩ :=
        build_new hcurrent (Program.compile_of_accepted hverdict) b
      rw [hrun] at h
      cases h

/-- The line that is reported is that of the script, or 0 if it is none. -/
theorem ofShader_line (hnot : ∀ overflow, ¬ t.Exceeds fe buffers declarations desc overflow)
    (hnew : t.current? desc.name (Source.assemble desc declarations).text = none)
    {r : Program.ShaderError} (hverdict : fe (Source.assemble desc declarations).text = .error r) :
    let fs := Source.fragments desc declarations
    let line := (CompileError.ofShader desc.name (Source.assemble desc declarations) r).line
    (∀ l n, r.line = some l → ComesFrom fs l.toNat n → line.toNat = n) ∧
      ((∀ l n, r.line = some l → ¬ ComesFrom fs l.toNat n) → line = 0) := by
  intro fs line
  have hfit : linesOf fs + 1 < 2 ^ 32 := Nat.lt_of_not_le fun hle => hnot _ (.lines hle)
  have hline : line = (r.line.bind (ofFragments fs).sourceLine).getD 0 := by
    rw [← Source.assemble_eq]
    rfl
  rw [hline]
  constructor
  · intro l n hl hn
    have hword : n < 2 ^ 32 := Nat.lt_of_not_le fun hle => hnot _ (.fault hnew hverdict hl hn hle)
    rw [hl, Option.bind_some, (sourceLine_eq_ofNat_iff hfit).2 ⟨n, hn, rfl⟩, Option.getD_some,
      UInt32.toNat_ofNat', Nat.mod_eq_of_lt hword]
  · intro hnone
    cases hsource : r.line.bind (ofFragments fs).sourceLine with
    | none => rfl
    | some n =>
      obtain ⟨l, hl, hline⟩ := Option.bind_eq_some_iff.1 hsource
      obtain ⟨n, hn, -⟩ := (sourceLine_eq_ofNat_iff hfit).1 hline
      exact absurd hn (hnone l n hl)

variable [Numbering σ]

include fe in
theorem Issued.buildAll {b : σ} (h : t.Issued b) (declarations : List Declaration)
    (descs : List ShaderDesc) :
    (t.buildAll declarations descs b).1.2.Issued (t.buildAll declarations descs b).2 := by
  induction descs generalizing t b with
  | nil => exact h
  | cons desc descs ih =>
    rw [buildAll_cons]
    exact ih (h.build desc declarations)

end

/-! ## The programs of a load -/

variable {d : Device fe} {layout : Program.Layout}

/-- A program that is filed in the place of another one stays on the device. -/
theorem file_keeps_program (desc : ShaderDesc) (source : String) {program : ProgramId}
    (uniforms samplers : List (Option Program.Location)) (d : Device fe)
    (h : ∀ old, t.get? desc.name = some old → program ≠ old.program) :
    let filed := t.file desc source program uniforms samplers d
    ∃ p, filed.1.2.get? desc.name = some p ∧ p.program = program ∧
      filed.2.objects.programs.get? program = d.objects.programs.get? program := by
  intro filed
  cases hget : t.get? desc.name with
  | some old =>
    simp only [filed, file, hget, run_bind, run_pure]
    exact ⟨_, get?_put_make .., rfl, (Dict.get?_erase ..).trans (if_neg (h old hget))⟩
  | none =>
    simp only [filed, file, hget]
    exact ⟨_, get?_put_make .., rfl, rfl⟩

/-- The device has the program of a text that is new and accepted. -/
theorem build_keeps_program (h : t.Issued d)
    (hnew : t.current? desc.name (Source.assemble desc declarations).text = none)
    (hcompile : Program.compile fe (Source.assemble desc declarations).text = .ok layout) :
    let built := t.build desc declarations d
    ∃ p, built.1.2.get? desc.name = some p ∧
      built.2.objects.programs.get? p.program = some (.ofLayout layout) := by
  intro built
  obtain ⟨program, d₁, hcompiled, hrun⟩ := build_accepts hnew hcompile d
  have hadded : compileProgram (Source.assemble desc declarations).text d
      = (.ok (d.objects.addProgram (.ofLayout layout)).1,
        { d with objects := (d.objects.addProgram (.ofLayout layout)).2 }) := by
    change Device.compileProgram _ d = _
    rw [Device.compileProgram, hcompile]
  rw [hadded] at hcompiled
  cases hcompiled
  have hother : ∀ old, t.get? desc.name = some old →
      (d.objects.addProgram (DeviceProgram.ofLayout layout)).1 ≠ old.program :=
    -- the number of the old program was given out before
    fun old hold heq => Nat.lt_irrefl _ (heq ▸ h.program hold)
  obtain ⟨p, hp, hprogram, hkept⟩ := file_keeps_program desc
    (Source.assemble desc declarations).text (layout.locate desc.uniforms)
    (layout.locate desc.samplers) _ hother
  refine ⟨p, (congrArg (fun r => r.1.2.get? desc.name) hrun).trans hp, ?_⟩
  rw [show built = _ from hrun, hprogram, hkept]
  exact layout?_addProgram d.objects _

/-! ## Loads -/

/-- A load that is checked is stopped exactly if a build on the way needs a number that is no
word: the line behind its text, the line of the script that the text is found fault with on, the
binding behind that of a texture, or, on the device, the multiple of 16 that holds the uniform
block. A load that is not stopped does what is done without checks. It reports the true lines of
the script, and 0 for what is none of them; and each program that it builds has its sampling
states behind their textures, and the least buffer that holds its block. -/
theorem load_stops_iff (fe : Program.FrontEnd) (declarations : List Declaration)
    (descs : List ShaderDesc)
    (hlines : ∀ desc ∈ descs, ∀ f ∈ Source.fragments desc declarations, f.lineCount < 2 ^ 32) :
    (∀ {σ : Type} [Backend σ] [Reckoning σ] {buffers : Bool} [Reflecting σ fe]
        [Padding σ fe buffers] (t : PassTable) (b : σ),
      (∀ overflow, t.buildAllChecked declarations descs b = .error overflow ↔
        ∃ before desc after, descs = before ++ desc :: after ∧
          ∃ first, t.buildAllChecked declarations before b = .ok first ∧
            first.1.2.Exceeds fe buffers declarations desc overflow) ∧
      ∀ loaded, t.buildAllChecked declarations descs b = .ok loaded →
        t.buildAll declarations descs b = loaded ∧
        ∀ e ∈ loaded.1.1, ∃ desc ∈ descs, ∃ r : Program.ShaderError,
          let fs := Source.fragments desc declarations
          fe (Source.assemble desc declarations).text = .error r ∧
            e.pass = desc.name ∧ e.message = r.message ∧
            (∀ l n, r.line = some l → ComesFrom fs l.toNat n → e.line.toNat = n) ∧
            ((∀ l n, r.line = some l → ¬ ComesFrom fs l.toNat n) → e.line = 0)) ∧
    ∀ (steps : List Step) (d : Device fe) before desc after,
      descs = before ++ desc :: after →
      let start := empty.run steps d
      let first := start.1.buildAll declarations before start.2
      let built := first.1.2.build desc declarations first.2
      let text := (Source.assemble desc declarations).text
      ∀ loaded m, start.1.buildAllChecked declarations descs start.2 = .ok loaded →
        first.1.2.current? desc.name text = none → fe text = .ok m →
          ∃ p state, built.1.2.get? desc.name = some p ∧
            built.2.objects.programs.get? p.program = some state ∧
            state.layout = .ofModule m ∧
            (∀ s ∈ state.layout.samplers,
              s.samplerBinding.toNat = s.textureBinding.toNat + 1) ∧
            IsLeast {n | 16 ∣ n ∧ 0 < n ∧ state.layout.blockSize.toNat ≤ n}
              state.data.length := by
  refine ⟨?_, ?_⟩
  · intro σ _ _ buffers _ _ t b
    refine ⟨fun overflow => buildAllChecked_error_iff hlines, ?_⟩
    intro loaded h
    have hloaded := buildAllChecked_ok h
    refine ⟨hloaded, ?_⟩
    intro e he
    rw [← hloaded] at he
    obtain ⟨before, desc, after, rfl, hfailed⟩ := exists_of_mem_errors he
    obtain ⟨hnew, r, hverdict, rfl⟩ := rejected_of_error hfailed
    have hline := ofShader_line (not_exceeds_of_ok hlines h) hnew hverdict
    exact ⟨desc, by simp, r, hverdict, rfl, rfl, hline⟩
  · intro steps d before desc after hsplit start first built text loaded m h hnew hverdict
    subst hsplit
    have hnot := not_exceeds_of_ok hlines h
    have hissued : first.1.2.Issued first.2 :=
      ((issued_empty d).run steps).buildAll declarations before
    obtain ⟨p, hp, hprogram⟩ :=
      build_keeps_program hissued hnew (Program.compile_of_accepted hverdict)
    have hbindings : ∀ s ∈ (Program.Layout.ofModule m).samplers,
        s.textureBinding.toNat + 1 < 2 ^ 32 := by
      intro s hs
      exact Nat.lt_of_not_le fun hle => hnot _ (.binding hnew hverdict hs hle)
    refine ⟨p, _, hp, hprogram, rfl, ?_, ?_⟩
    · intro s hs
      rw [Program.Layout.samplerBinding_eq hs, UInt32.toNat_add, UInt32.toNat_one,
        Nat.mod_eq_of_lt (hbindings s hs)]
    · have hlength : (DeviceProgram.ofLayout (.ofModule m)).data.length
          = (paddedBlock (Program.Layout.ofModule m).blockSize).toNat := List.length_replicate
      have hfit : linesOf (Source.fragments desc declarations) + 1 < 2 ^ 32 :=
        Nat.lt_of_not_le fun hle => hnot _ (.lines hle)
      rw [hlength]
      exact isLeast_paddedBlock (Nat.le_of_not_lt fun hlt =>
        hnot _ (.block hfit hnew hverdict hbindings rfl hlt))

/-- A body of two lines, the first of which is this line of the script. -/
def twoLines (start : UInt32) : ShaderDesc where
  name := "unk"
  includes := []
  uniforms := []
  samplers := []
  outputs := [⟨"o", "vec4"⟩]
  body := ⟨"o = vec4(1.0);\no = undefined_thing;", start⟩
  blendMode := .overwrite

/-- A pass that reads a texture. -/
def reading : ShaderDesc :=
  { twoLines 1 with name := "read", body := ⟨"o = gain * texture(tex, uv);", 1⟩ }

/-- Finds fault with the last line of the two; all other programs have a uniform block of this
size and a texture with this binding. -/
def demanding (size binding : UInt32) : Program.FrontEnd := fun source =>
  if source = (Source.assemble (twoLines 0) []).text then
    .error ⟨some 5, "Unknown variable: undefined_thing"⟩
  else
    .ok {
      globals :=
        [⟨some "params", .uniform, some ⟨0, 0⟩, .block [⟨some "gain", 0, none⟩] size⟩,
          ⟨some "tex_texture", .handle, some ⟨1, binding⟩, .image⟩]
      entryPoints := [] }

/-- A load with the greatest origin, block and binding of which no number goes beyond words. -/
theorem load_stops_iff_greatest :
    let fe := demanding 4294967280 4294967294
    let descs := [twoLines 4294967294, reading]
    let first := empty.buildAll [] [twoLines 4294967294] ({} : Device fe)
    let built := first.1.2.build reading [] first.2
    (∀ desc ∈ descs, ∀ f ∈ Source.fragments desc [], f.lineCount < 2 ^ 32) ∧
      ∃ loaded, empty.buildAllChecked [] descs ({} : Device fe) = .ok loaded ∧
        loaded.1.1.length = 1 ∧ (∀ e ∈ loaded.1.1, e.line.toNat = 4294967295) ∧
        ∃ p state, built.1.2.get? "read" = some p ∧
          built.2.objects.programs.get? p.program = some state ∧
          state.layout.samplers.length = 1 ∧
          (∀ s ∈ state.layout.samplers, s.samplerBinding.toNat = s.textureBinding.toNat + 1) ∧
          16 ∣ state.data.length ∧ state.layout.blockSize.toNat ≤ state.data.length := by
  intro fe descs first built
  have hlines : ∀ desc ∈ descs, ∀ f ∈ Source.fragments desc [], f.lineCount < 2 ^ 32 := by
    decide +kernel
  have hok : empty.buildAllChecked [] descs ({} : Device fe)
      = .ok (empty.buildAll [] descs ({} : Device fe)) :=
    checked_eq_ok_iff.2 ⟨by decide +kernel, rfl⟩
  obtain ⟨hloads, hprograms⟩ := load_stops_iff fe [] descs hlines
  obtain ⟨-, hexact⟩ := hloads empty ({} : Device fe)
  obtain ⟨-, herrors⟩ := hexact _ hok
  refine ⟨hlines, _, hok, by decide +kernel, ?_, ?_⟩
  · intro e he
    obtain ⟨desc, hmem, r, hverdict, hpass, -, hline, -⟩ := herrors e he
    rcases List.mem_cons.1 hmem with hdesc | hdesc
    · subst hdesc
      have hfault : fe (Source.assemble (twoLines 4294967294) []).text
          = .error ⟨some 5, "Unknown variable: undefined_thing"⟩ := if_pos rfl
      rw [hfault] at hverdict
      cases hverdict
      have hlast : LineOf (Source.fragments (twoLines 4294967294) []) 5
          ⟨(twoLines 4294967294).body.text, some 4294967294⟩ 1 := lineOf_iff.2 (by decide +kernel)
      exact hline 5 _ rfl ⟨_, 1, 4294967294, hlast, rfl, rfl⟩
    · obtain rfl := List.mem_singleton.1 hdesc
      rw [show fe (Source.assemble reading []).text = .ok _ from if_neg (by decide +kernel)]
        at hverdict
      cases hverdict
  · obtain ⟨p, state, hp, hstate, hlayout, hbindings, ⟨hdvd, -, hle⟩, -⟩ :=
      hprograms [] ({} : Device fe) [twoLines 4294967294] reading [] rfl _ _ hok
        (by decide +kernel) (if_neg (by decide +kernel))
    refine ⟨p, state, hp, hstate, ?_, hbindings, hdvd, hle⟩
    rw [hlayout]
    decide +kernel

/-- Loads that are stopped: by a line of the script behind the last word, by the last binding, and
by a block that cannot be rounded up. -/
theorem load_stops :
    empty.buildAllChecked [] [twoLines 4294967295] ({} : Recorder (demanding 16 0))
        = .error .addition ∧
      ComesFrom (Source.fragments (twoLines 4294967295) []) 5 4294967296 ∧
      empty.buildAllChecked [] [reading] ({} : Recorder (demanding 16 4294967295))
        = .error .addition ∧
      empty.buildAllChecked [] [reading] ({} : Device (demanding 4294967295 0))
        = .error .multiplication := by
  have hlast : LineOf (Source.fragments (twoLines 4294967295) []) 5
      ⟨(twoLines 4294967295).body.text, some 4294967295⟩ 1 := lineOf_iff.2 (by decide +kernel)
  refine ⟨buildAllChecked_eq_error.2 ?_, ⟨_, 1, 4294967295, hlast, rfl, rfl⟩,
    buildAllChecked_eq_error.2 ?_, buildAllChecked_eq_error.2 ?_⟩
  · decide +kernel
  · decide +kernel
  · decide +kernel

end PassTable
end FrameGraph
