import FrameGraph.Checked
import FrameGraph.Proofs.Gpu.Reflecting
import FrameGraph.Proofs.Program.Reflection
import FrameGraph.Proofs.Source.LineMapping

/-!
# What a build reckons with

A build reckons with words of 32 bits: the lines of an assembly are counted, the line of an
error is an origin and the lines behind it, the sampling state of a sampler has the binding
behind that of its texture, and a uniform block is rounded up. The origins come from a
script, and the bindings and the size of the block from what its text declares, so each of
them may be any word, and nothing is done about sums and products that are no words. A build
that is checked stops at the first of them.

Results:
* `stop?_ops_ofFragments`, `lineOps_stop_iff`: the lines of an assembly, and that of an error.
* `Program.Layout.stop?_ops`, `stop?_buffer_iff`: bindings and uniform blocks.
* `buildOps_stop_iff`: a build is stopped by a number that is no word (`Exceeds`), and by
  nothing else.
-/
namespace FrameGraph

open Gpu

/-- Sums stop a step exactly if one of them is no word. -/
theorem WordOp.stop?_of_sums {ops : List WordOp} (h : ∀ op ∈ ops, op.overflow = .addition) :
    stop? ops = if ∀ op ∈ ops, op.Fits then none else some .addition := by
  induction ops with
  | nil => rfl
  | cons op ops ih =>
    obtain ⟨hop, hops⟩ := List.forall_mem_cons.1 h
    rw [stop?_cons, ih hops, hop]
    by_cases hfits : op.Fits <;> simp [hfits]

/-! ## Lines of the assembly -/

section
variable {fs : List Fragment} {next : UInt32}

/-- The blocks are put together without a stop exactly if the line behind them is a word. -/
theorem stop?_blocksFrom (hlines : ∀ f ∈ fs, f.lineCount < 2 ^ 32) :
    WordOp.stop? ((blocksFrom next fs).map Block.endOp)
      = if next.toNat + linesOf fs < 2 ^ 32 then none else some .addition := by
  induction fs generalizing next with
  | nil => simp [blocksFrom, next.toNat_lt]
  | cons f fs ih =>
    obtain ⟨hf, hfs⟩ := List.forall_mem_cons.1 hlines
    have hcount : (UInt32.ofNat f.lineCount).toNat = f.lineCount := UInt32.toNat_ofNat_of_lt' hf
    rw [blocksFrom, linesOf_cons]
    by_cases hempty : f.text = ""
    · have hnone := Fragment.lineCount_of_empty hempty
      simp [hempty, hnone, ih hfs]
    · rw [if_neg hempty, List.singleton_append, List.map_cons, WordOp.stop?_cons, ih hfs]
      have hfits : (Block.endOp ⟨next, .ofNat f.lineCount, f.origin⟩).Fits
          ↔ next.toNat + f.lineCount < 2 ^ 32 := by
        unfold WordOp.Fits Block.endOp
        rw [WordOp.number, hcount]
        rfl
      by_cases h : next.toNat + f.lineCount < 2 ^ 32
      · rw [if_pos (hfits.2 h), UInt32.toNat_add, hcount, Nat.mod_eq_of_lt h, Nat.add_assoc]
      · rw [if_neg (mt hfits.1 h), if_neg (by omega)]
        rfl

theorem stop?_ops_ofFragments (hlines : ∀ f ∈ fs, f.lineCount < 2 ^ 32) :
    WordOp.stop? (ofFragments fs).ops
      = if linesOf fs + 1 < 2 ^ 32 then none else some .addition := by
  unfold Assembly.ops
  rw [blocks_ofFragments, stop?_blocksFrom hlines, Nat.add_comm]
  rfl

/-! ## Lines of errors -/

/-- The sum that is made for a line of the script comes to that line. -/
theorem lineOp?_number_iff (h : linesOf fs + 1 < 2 ^ 32) {l : UInt32} {n : Nat} :
    (∃ op, (ofFragments fs).lineOp? l = some op ∧ op.number = n) ↔ ComesFrom fs l.toNat n := by
  have hnumber {f : Fragment} {j : Nat} (hline : LineOf fs l.toNat f j) (origin : UInt32) :
      (WordOp.sum origin (.ofNat j)).number = origin.toNat + j := by
    obtain ⟨before, after, -, hl⟩ := hline.stands
    have hword := l.toNat_lt
    rw [WordOp.number, UInt32.toNat_ofNat']
    omega
  constructor
  · intro ⟨op, hop, hn⟩
    obtain ⟨f, j, origin, hline, horigin, rfl⟩ := (lineOp?_eq_some_iff h).1 hop
    exact ⟨f, j, origin, hline, horigin, by rw [← hn, hnumber hline]⟩
  · intro ⟨f, j, origin, hline, horigin, hn⟩
    exact ⟨_, (lineOp?_eq_some_iff h).2 ⟨f, j, origin, hline, horigin, rfl⟩,
      by rw [hn, hnumber hline]⟩

theorem lineOp?_overflow (h : linesOf fs + 1 < 2 ^ 32) {l : UInt32} {op : WordOp}
    (hop : (ofFragments fs).lineOp? l = some op) : op.overflow = .addition := by
  obtain ⟨f, j, origin, -, -, rfl⟩ := (lineOp?_eq_some_iff h).1 hop
  rfl

/-- The line of an error stops a step exactly if it is a line of the script behind the last
word. -/
theorem lineOps_stop_iff (h : linesOf fs + 1 < 2 ^ 32) {line : Option UInt32}
    {overflow : Overflow} :
    WordOp.stop? (line.bind (ofFragments fs).lineOp?).toList = some overflow ↔
      overflow = .addition ∧
        ∃ l n, line = some l ∧ ComesFrom fs l.toNat n ∧ 2 ^ 32 ≤ n := by
  cases line with
  | none => simp
  | some l =>
    rw [Option.bind_some]
    cases hop : (ofFragments fs).lineOp? l with
    | none =>
      constructor
      · intro hstop
        cases hstop
      · intro ⟨_, _, n, hl, hn, _⟩
        cases hl
        obtain ⟨op, hsome, -⟩ := (lineOp?_number_iff h).2 hn
        rw [hop] at hsome
        cases hsome
    | some op =>
      rw [Option.toList_some, WordOp.stop?_cons, lineOp?_overflow h hop, WordOp.stop?_nil]
      constructor
      · intro hstop
        split at hstop
        · cases hstop
        · next hnot =>
          cases hstop
          exact ⟨rfl, l, op.number, rfl, (lineOp?_number_iff h).1 ⟨op, hop, rfl⟩, by
            unfold WordOp.Fits UInt32.size at hnot
            omega⟩
      · intro ⟨hoverflow, _, n, hl, hn, hle⟩
        cases hl
        obtain ⟨op', hsome, hnumber⟩ := (lineOp?_number_iff h).2 hn
        rw [hop] at hsome
        cases hsome
        have hnot : ¬ op.Fits := by
          unfold WordOp.Fits UInt32.size
          omega
        rw [if_neg hnot, hoverflow]

end

/-! ## Bindings and uniform blocks -/

section
variable {fe : Program.FrontEnd} {source : String}

theorem Program.compile_of_accepted {m : Module} (h : fe source = .ok m) :
    compile fe source = .ok (.ofModule m) := by
  rw [compile, h]
  rfl

theorem Program.compile_of_rejected {r : ShaderError} (h : fe source = .error r) :
    compile fe source = .error r := by
  rw [compile, h]
  rfl

end

namespace Program.Layout

variable {m : Module}

/-- A sum is made for the sampling state of each sampler, and no other. -/
theorem mem_ops_iff {op : WordOp} :
    op ∈ ops m ↔ ∃ s ∈ (ofModule m).samplers, op = .sum s.textureBinding 1 := by
  have hsampler (g : Global) : stateOp? g = g.sampler?.map fun s => .sum s.textureBinding 1 := by
    obtain ⟨name, space, _ | b, shape⟩ := g
    · rfl
    · cases space <;> cases shape <;> try rfl
      unfold stateOp? Global.sampler? Global.image?
      dsimp only
      split <;> rfl
  unfold ops
  rw [samplers_ofModule, List.mem_filterMap]
  simp only [(sorted_samplers _ [] .nil).1.mem_iff, List.append_nil, List.mem_filterMap, hsampler,
    Option.map_eq_some_iff]
  constructor
  · intro ⟨g, hg, s, hs, hop⟩
    exact ⟨s, ⟨g, hg, hs⟩, hop.symm⟩
  · intro ⟨s, ⟨g, hg, hs⟩, hop⟩
    exact ⟨g, hg, s, hs, hop.symm⟩

/-- A module stops a step exactly if a texture has the last binding. -/
theorem stop?_ops (m : Module) :
    WordOp.stop? (ops m)
      = if ∀ s ∈ (ofModule m).samplers, s.textureBinding.toNat + 1 < 2 ^ 32 then none
        else some .addition := by
  have hsums : ∀ op ∈ ops m, op.overflow = .addition := by
    intro op hop
    obtain ⟨s, -, rfl⟩ := mem_ops_iff.1 hop
    rfl
  have hfits : (∀ op ∈ ops m, op.Fits) ↔
      ∀ s ∈ (ofModule m).samplers, s.textureBinding.toNat + 1 < 2 ^ 32 := by
    constructor
    · intro h s hs
      exact h _ (mem_ops_iff.2 ⟨s, hs, rfl⟩)
    · intro h op hop
      obtain ⟨s, hs, rfl⟩ := mem_ops_iff.1 hop
      exact h s hs
  simp only [WordOp.stop?_of_sums hsums, hfits]

end Program.Layout

namespace Gpu

variable {size : UInt32}

theorem number_paddedBlockOp (size : UInt32) :
    (paddedBlockOp size).number = (max size.toNat 16 + 15) / 16 * 16 := by
  have hmax : (max size 16).toNat = max size.toNat 16 := by
    change (if size ≤ 16 then (16 : UInt32) else size).toNat = _
    rw [Nat.max_def, apply_ite UInt32.toNat]
    rfl
  have hsize := size.toNat_lt
  unfold paddedBlockOp roundUpOp
  rw [WordOp.number, UInt32.toNat_ofNat', hmax]
  change (max size.toNat 16 + 15) / 16 % 2 ^ 32 * 16 = _
  omega

theorem paddedBlockOp_fits_iff : (paddedBlockOp size).Fits ↔ size.toNat ≤ 2 ^ 32 - 16 := by
  have hsize := size.toNat_lt
  unfold WordOp.Fits UInt32.size
  rw [number_paddedBlockOp]
  omega

/-- A uniform buffer stops a step exactly if its block cannot be rounded up. -/
theorem stop?_buffer_iff {buffers : Bool} {overflow : Overflow} :
    WordOp.stop? (if buffers then [paddedBlockOp size] else []) = some overflow ↔
      overflow = .multiplication ∧ buffers = true ∧ 2 ^ 32 - 16 < size.toNat := by
  cases buffers with
  | false => exact iff_of_false nofun nofun
  | true =>
    rw [if_pos rfl, WordOp.stop?_cons]
    split
    · next hfits =>
      have hle := paddedBlockOp_fits_iff.1 hfits
      exact iff_of_false nofun fun h => Nat.not_lt.2 hle h.2.2
    · next hnot =>
      have hlt := Nat.lt_of_not_le (mt paddedBlockOp_fits_iff.2 hnot)
      constructor
      · intro h
        exact ⟨(Option.some_inj.1 h).symm, rfl, hlt⟩
      · intro h
        rw [h.1]
        rfl

/-- A block that can be rounded up is rounded to the least multiple of 16 that holds it. -/
theorem isLeast_paddedBlock (h : size.toNat ≤ 2 ^ 32 - 16) :
    IsLeast {n | 16 ∣ n ∧ 0 < n ∧ size.toNat ≤ n} (paddedBlock size).toNat := by
  have hexact : (paddedBlock size).toNat = (max size.toNat 16 + 15) / 16 * 16 := by
    rw [← number_paddedBlockOp]
    exact WordOp.toNat_word (paddedBlockOp_fits_iff.2 h)
  rw [hexact]
  refine ⟨⟨Nat.dvd_mul_left 16 _, by omega, by omega⟩, ?_⟩
  intro n ⟨⟨k, hk⟩, hpos, hle⟩
  omega

/-! ## Backends that reckon -/

/-- A backend that reckons with what its front end makes of a text, and pads uniform buffers if
it has any. -/
class Padding (σ : Type) [Backend σ] [Reckoning σ] (fe : outParam Program.FrontEnd)
    (buffers : outParam Bool) : Prop where
  compileOps_eq (source : String) (b : σ) :
    Reckoning.compileOps source b
      = Program.compileOps fe source ++ if buffers then Device.bufferOps fe source else []

instance {fe : Program.FrontEnd} : Padding (Recorder fe) fe false where
  compileOps_eq _ _ := (List.append_nil _).symm

instance {fe : Program.FrontEnd} : Padding (Device fe) fe true where
  compileOps_eq _ _ := rfl

end Gpu

namespace PassTable

/-! ## Builds -/

/-- A build needs a number that is no word. -/
inductive Exceeds (fe : Program.FrontEnd) (buffers : Bool) (t : PassTable)
    (declarations : List Declaration) (desc : ShaderDesc) : Overflow → Prop where
  /-- The line behind the text. -/
  | lines (h : 2 ^ 32 ≤ linesOf (Source.fragments desc declarations) + 1) :
    Exceeds fe buffers t declarations desc .addition
  /-- The line of the script that a new text is found fault with on. -/
  | fault {r : Program.ShaderError} {l : UInt32} {n : Nat}
    (new : t.current? desc.name (Source.assemble desc declarations).text = none)
    (rejected : fe (Source.assemble desc declarations).text = .error r) (line : r.line = some l)
    (source : ComesFrom (Source.fragments desc declarations) l.toNat n) (h : 2 ^ 32 ≤ n) :
    Exceeds fe buffers t declarations desc .addition
  /-- The binding behind that of a texture. -/
  | binding {m : Program.Module} {s : Program.SamplerSlot}
    (new : t.current? desc.name (Source.assemble desc declarations).text = none)
    (accepted : fe (Source.assemble desc declarations).text = .ok m)
    (sampler : s ∈ (Program.Layout.ofModule m).samplers)
    (h : 2 ^ 32 ≤ s.textureBinding.toNat + 1) : Exceeds fe buffers t declarations desc .addition
  /-- The multiple of 16 that holds the uniform block. It is made last. -/
  | block {m : Program.Module}
    (lines : linesOf (Source.fragments desc declarations) + 1 < 2 ^ 32)
    (new : t.current? desc.name (Source.assemble desc declarations).text = none)
    (accepted : fe (Source.assemble desc declarations).text = .ok m)
    (bindings : ∀ s ∈ (Program.Layout.ofModule m).samplers, s.textureBinding.toNat + 1 < 2 ^ 32)
    (padded : buffers = true) (h : 2 ^ 32 - 16 < (Program.Layout.ofModule m).blockSize.toNat) :
    Exceeds fe buffers t declarations desc .multiplication

variable {fe : Program.FrontEnd} {buffers : Bool} {t : PassTable} {desc : ShaderDesc}
  {declarations : List Declaration} {overflow : Overflow}

/-! Which numbers are needed follows from what becomes of the text. -/

theorem exceeds_of_lines
    (h : ¬ linesOf (Source.fragments desc declarations) + 1 < 2 ^ 32) :
    t.Exceeds fe buffers declarations desc overflow ↔ overflow = .addition := by
  constructor
  · intro hexceeds
    cases hexceeds with
    | lines | fault | binding => rfl
    | block lines => exact absurd lines h
  · intro hoverflow
    rw [hoverflow]
    exact .lines (Nat.le_of_not_lt h)

section
variable (hfit : linesOf (Source.fragments desc declarations) + 1 < 2 ^ 32)
include hfit

theorem not_exceeds_of_current {p : Pass}
    (hcurrent : t.current? desc.name (Source.assemble desc declarations).text = some p) :
    ¬ t.Exceeds fe buffers declarations desc overflow := by
  intro hexceeds
  cases hexceeds with
  | lines h => omega
  | fault new | binding new | block _ new =>
    rw [hcurrent] at new
    cases new

variable (hnew : t.current? desc.name (Source.assemble desc declarations).text = none)
include hnew

theorem exceeds_of_rejected {r : Program.ShaderError}
    (hverdict : fe (Source.assemble desc declarations).text = .error r) :
    t.Exceeds fe buffers declarations desc overflow ↔
      overflow = .addition ∧ ∃ l n, r.line = some l ∧
        ComesFrom (Source.fragments desc declarations) l.toNat n ∧ 2 ^ 32 ≤ n := by
  constructor
  · intro hexceeds
    cases hexceeds with
    | lines h => omega
    | fault new rejected line source h =>
      rw [hverdict] at rejected
      cases rejected
      exact ⟨rfl, _, _, line, source, h⟩
    | binding new accepted | block _ new accepted =>
      rw [hverdict] at accepted
      cases accepted
  · intro ⟨hoverflow, l, n, hline, hn, hle⟩
    rw [hoverflow]
    exact .fault hnew hverdict hline hn hle

theorem exceeds_of_accepted {m : Program.Module}
    (hverdict : fe (Source.assemble desc declarations).text = .ok m) :
    t.Exceeds fe buffers declarations desc overflow ↔
      if ∀ s ∈ (Program.Layout.ofModule m).samplers, s.textureBinding.toNat + 1 < 2 ^ 32 then
        overflow = .multiplication ∧ buffers = true ∧
          2 ^ 32 - 16 < (Program.Layout.ofModule m).blockSize.toNat
      else overflow = .addition := by
  constructor
  · intro hexceeds
    cases hexceeds with
    | lines h => omega
    | fault new rejected =>
      rw [hverdict] at rejected
      cases rejected
    | binding new accepted sampler h =>
      rw [hverdict] at accepted
      cases accepted
      rw [if_neg fun hall => absurd (hall _ sampler) (Nat.not_lt.2 h)]
    | block _ new accepted bindings padded h =>
      rw [hverdict] at accepted
      cases accepted
      rw [if_pos bindings]
      exact ⟨rfl, padded, h⟩
  · intro hexceeds
    split at hexceeds
    · next hall =>
      obtain ⟨rfl, hbuffers, hblock⟩ := hexceeds
      exact .block hfit hnew hverdict hall hbuffers hblock
    · next hnot =>
      simp only [not_forall, Nat.not_lt] at hnot
      obtain ⟨s, hs, hle⟩ := hnot
      rw [hexceeds]
      exact .binding hnew hverdict hs hle

end

section
variable {σ : Type} [Backend σ] [Reckoning σ] [Reflecting σ fe] [Padding σ fe buffers] {b : σ}

include buffers in
/-- What a new text that is rejected makes a build reckon with. -/
theorem buildOps_rejected {r : Program.ShaderError}
    (hnew : t.current? desc.name (Source.assemble desc declarations).text = none)
    (hverdict : fe (Source.assemble desc declarations).text = .error r) :
    t.buildOps desc declarations b
      = (Source.assemble desc declarations).ops
        ++ (r.line.bind (Source.assemble desc declarations).lineOp?).toList := by
  have hcompile := Program.compile_of_rejected hverdict
  simp [buildOps, hnew, Padding.compileOps_eq, Program.compileOps, Device.bufferOps, hverdict,
    hcompile, Reflecting.rejects b hcompile]

/-- What a new text that is accepted makes a build reckon with. -/
theorem buildOps_accepted {m : Program.Module}
    (hnew : t.current? desc.name (Source.assemble desc declarations).text = none)
    (hverdict : fe (Source.assemble desc declarations).text = .ok m) :
    t.buildOps desc declarations b
      = (Source.assemble desc declarations).ops ++ (Program.Layout.ops m
        ++ if buffers then [paddedBlockOp (Program.Layout.ofModule m).blockSize] else []) := by
  have hcompile := Program.compile_of_accepted hverdict
  obtain ⟨program, b', hcompiled, -⟩ := Reflecting.accepts b hcompile
  simp [buildOps, hnew, Padding.compileOps_eq, Program.compileOps, Device.bufferOps, hverdict,
    hcompile, hcompiled]

/-- A build is stopped exactly if it needs a number that is no word. -/
theorem buildOps_stop_iff
    (hlines : ∀ f ∈ Source.fragments desc declarations, f.lineCount < 2 ^ 32) :
    WordOp.stop? (t.buildOps desc declarations b) = some overflow ↔
      t.Exceeds fe buffers declarations desc overflow := by
  have hassembly := stop?_ops_ofFragments hlines
  rw [← Source.assemble_eq] at hassembly
  by_cases hfit : linesOf (Source.fragments desc declarations) + 1 < 2 ^ 32
  · rw [if_pos hfit] at hassembly
    cases hcurrent : t.current? desc.name (Source.assemble desc declarations).text with
    | some p =>
      have hops : t.buildOps desc declarations b = (Source.assemble desc declarations).ops := by
        simp [buildOps, hcurrent]
      rw [hops, hassembly]
      exact iff_of_false nofun (not_exceeds_of_current hfit hcurrent)
    | none =>
      cases hverdict : fe (Source.assemble desc declarations).text with
      | error r =>
        rw [buildOps_rejected hcurrent hverdict, WordOp.stop?_append, hassembly, Option.none_or,
          Source.assemble_eq, lineOps_stop_iff hfit, exceeds_of_rejected hfit hcurrent hverdict]
      | ok m =>
        rw [buildOps_accepted hcurrent hverdict, WordOp.stop?_append, hassembly, Option.none_or,
          WordOp.stop?_append, Program.Layout.stop?_ops, exceeds_of_accepted hfit hcurrent hverdict]
        split
        · rw [Option.none_or, stop?_buffer_iff]
        · simp [eq_comm]
  · have hstop : WordOp.stop? (t.buildOps desc declarations b) = some .addition := by
      unfold buildOps
      rw [WordOp.stop?_append, hassembly, if_neg hfit, Option.some_or]
    rw [hstop, exceeds_of_lines hfit, Option.some_inj]
    exact eq_comm

theorem buildChecked_error_iff
    (hlines : ∀ f ∈ Source.fragments desc declarations, f.lineCount < 2 ^ 32) :
    t.buildChecked desc declarations b = .error overflow ↔
      t.Exceeds fe buffers declarations desc overflow :=
  checked_eq_error_iff.trans (buildOps_stop_iff hlines)

end

end PassTable
end FrameGraph
