import FrameGraph.Gpu.Recorder
import FrameGraph.Pass.Table
import FrameGraph.Proofs.Gpu.Trail

/-!
# Where a line of a program comes from

An assembly counts lines three times: the lines of a fragment, the newlines that stand in
the text, and the lines of its blocks, which a bisection searches. The three agree. Counted
from 0, line `k` of the program is line `j` of the fragment `f` if `f` has more than `j`
lines and `k - j` lines stand in front of it (`fragmentAt`); the blocks answer for it with
the origin of `f`, and `j` lines further.

All numbers are words of 32 bits: the line behind the program, which the next fragment
would start on, has to be one, and so has every line of the script that is answered (`Fits`).

Results:
* `getElem?_partitionPoint`: bisection finds the first entry that does not satisfy `p`.
* `text_foldl_add`, `blocks_foldl_add`: what a list of fragments is put together to.
* `count_join_ended`, `pieces_join_ended`: the newlines and the lines of that text.
* `sourceLine_eq_map`, `lineOp?_eq`: the answer for a line is a sum, that of its fragment.
* `sourceLine_eq_ofNat_iff`: this is the line of the script that it is, as a word.
* `assemble_eq`: a program is put together from fragments.
* `line_mapping_exact`: all of it, and the line that a rejected program is reported with.
-/
namespace FrameGraph

open Gpu

/-! ## Bisection -/

section Bisection
variable {α : Type} {p : α → Bool} {xs : List α}

/-- What the loop keeps: the place `base` satisfies `p`, unless it is the first one, and
nothing from `base + size` on does. -/
theorem bisect_spec {base size : Nat}
    (hp : ∀ i j : Nat, i ≤ j → xs[j]?.any p → xs[i]?.any p)
    (hbelow : base = 0 ∨ xs[base]?.any p) (habove : ∀ i, base + size ≤ i → ¬ xs[i]?.any p) :
    (bisect p xs base size = 0 ∨ xs[bisect p xs base size]?.any p) ∧
      ∀ i, bisect p xs base size < i → ¬ xs[i]?.any p := by
  fun_induction bisect p xs base size with
  | case1 base size hsize => exact ⟨hbelow, fun i hi => habove i (by omega)⟩
  | case2 base size hsize half ih =>
    refine ih ?_ ?_
    · split
      · next hmid => exact .inr hmid
      · exact hbelow
    · intro i hi
      split at hi
      · exact habove i (by omega)
      · next hmid => exact fun hany => hmid (hp _ i (by omega) hany)

theorem lt_partitionPoint_iff (hp : ∀ i j : Nat, i ≤ j → xs[j]?.any p → xs[i]?.any p) (i : Nat) :
    i < partitionPoint p xs ↔ xs[i]?.any p := by
  have habove : ∀ i, 0 + xs.length ≤ i → ¬ xs[i]?.any p := fun i hi => by
    simp [List.getElem?_eq_none (show xs.length ≤ i by omega)]
  obtain ⟨hlast, hbehind⟩ := bisect_spec hp (.inl rfl) habove
  unfold partitionPoint
  dsimp only
  split
  · next hany =>
    constructor
    · exact fun hi => hp _ _ (by omega) hany
    · intro hi
      by_contra hnot
      exact hbehind i (by omega) hi
  · next hnone =>
    have hzero := hlast.resolve_right hnone
    constructor
    · intro hi
      omega
    · intro hi
      exact absurd (hp _ i (by omega) hi) hnone

/-- In a list whose entries with `p` come first, bisection finds the first one without. -/
theorem getElem?_partitionPoint (h : xs.Pairwise fun x y => p y → p x) :
    xs[partitionPoint p xs]? = xs.find? fun x => !p x := by
  have hp : ∀ i j : Nat, i ≤ j → xs[j]?.any p → xs[i]?.any p := by
    intro i j hij hj
    rcases Nat.eq_or_lt_of_le hij with rfl | hlt
    · exact hj
    · obtain ⟨y, hy, hpy⟩ := (Option.any_eq_true _ _).1 hj
      obtain ⟨hjlen, rfl⟩ := List.getElem?_eq_some_iff.1 hy
      rw [List.getElem?_eq_getElem (by omega)]
      exact List.pairwise_iff_getElem.1 h i j (by omega) hjlen hlt hpy
  have hiff := lt_partitionPoint_iff hp
  cases hget : xs[partitionPoint p xs]? with
  | none =>
    have hlen := List.getElem?_eq_none_iff.1 hget
    refine (List.find?_eq_none.2 fun x hx => ?_).symm
    obtain ⟨i, hi, rfl⟩ := List.mem_iff_getElem.1 hx
    have hany := (hiff i).1 (by omega)
    rw [List.getElem?_eq_getElem hi] at hany
    simpa using hany
  | some x =>
    obtain ⟨hlen, hx⟩ := List.getElem?_eq_some_iff.1 hget
    refine (List.find?_eq_some_iff_getElem.2 ⟨?_, _, hlen, hx, fun j hj => ?_⟩).symm
    · have hnot := mt (hiff _).2 (Nat.lt_irrefl _)
      rw [hget] at hnot
      simpa using hnot
    · have hany := (hiff j).1 hj
      rw [List.getElem?_eq_getElem (by omega)] at hany
      simpa using hany

end Bisection

/-! ## Lines of fragments -/

namespace Fragment

def lineCount (f : Fragment) : Nat := Text.lineCount f.text

/-- The text as it stands in a program. -/
def ended (f : Fragment) : String := if f.text = "" then "" else Text.withNewline f.text

variable {f : Fragment}

theorem lineCount_of_empty (h : f.text = "") : f.lineCount = 0 := by
  rw [lineCount, h]
  rfl

theorem count_ended (f : Fragment) : f.ended.toList.count '\n' = f.lineCount := by
  unfold ended
  split
  · next h => simp [lineCount_of_empty h]
  · next h => exact Text.count_withNewline h

/-- A fragment that stands in front of a text puts its lines in front of those of the text. -/
theorem pieces_ended_append (f : Fragment) (cs : List Char) :
    ∃ ls, Text.pieces (f.ended.toList ++ cs) = ls ++ Text.pieces cs ∧ ls.length = f.lineCount ∧
      ∀ j < f.lineCount, ls[j]? = (Text.pieces f.text.toList)[j]? := by
  unfold ended
  split
  · next h => exact ⟨[], by simp, (lineCount_of_empty h).symm, by simp [lineCount_of_empty h]⟩
  · next h =>
    exact ⟨_, Text.pieces_withNewline_append f.text cs, Text.length_pieces_withNewline h,
      fun j hj => Text.pieces_withNewline h hj⟩

end Fragment

/-- The lines that fragments take up. -/
def linesOf (fs : List Fragment) : Nat := (fs.map Fragment.lineCount).sum

/-- The fragment that a line belongs to, counted from 0, and which of its lines it is. -/
def fragmentAt : List Fragment → Nat → Option (Fragment × Nat)
  | [], _ => none
  | f :: fs, k => if k < f.lineCount then some (f, k) else fragmentAt fs (k - f.lineCount)

@[simp] theorem linesOf_nil : linesOf [] = 0 := rfl

@[simp] theorem linesOf_cons (f : Fragment) (fs : List Fragment) :
    linesOf (f :: fs) = f.lineCount + linesOf fs := by
  simp [linesOf]

/-- Line `k` is line `j` of the fragment that stands behind `k - j` lines. -/
theorem fragmentAt_eq_some_iff {fs : List Fragment} {k : Nat} {f : Fragment} {j : Nat} :
    fragmentAt fs k = some (f, j) ↔
      ∃ before after, fs = before ++ f :: after ∧ k = linesOf before + j ∧ j < f.lineCount := by
  constructor
  · intro h
    fun_induction fragmentAt fs k with
    | case1 => cases h
    | case2 g fs k hlt =>
      cases h
      exact ⟨[], fs, rfl, by simp, hlt⟩
    | case3 g fs k hge ih =>
      obtain ⟨before, after, rfl, hk, hj⟩ := ih h
      exact ⟨g :: before, after, rfl, by simp; omega, hj⟩
  · rintro ⟨before, after, rfl, rfl, hj⟩
    induction before with
    | nil => simp [fragmentAt, hj]
    | cons g before ih =>
      rw [List.cons_append, fragmentAt, linesOf_cons, if_neg (by omega),
        show g.lineCount + linesOf before + j - g.lineCount = linesOf before + j by omega, ih]

theorem fragmentAt_eq_none_iff {fs : List Fragment} {k : Nat} :
    fragmentAt fs k = none ↔ linesOf fs ≤ k := by
  fun_induction fragmentAt fs k with
  | case1 => simp
  | case2 g fs k hlt => simp; omega
  | case3 g fs k hge ih => rw [ih, linesOf_cons]; omega

/-! ## The text -/

/-- Fragments put together. -/
def ofFragments (fs : List Fragment) : Assembly := fs.foldl Assembly.add .empty

theorem Assembly.text_add (a : Assembly) (f : Fragment) : (a.add f).text = a.text ++ f.ended := by
  unfold Assembly.add Fragment.ended
  split
  · simp
  · rfl

theorem text_foldl_add (fs : List Fragment) (a : Assembly) :
    (fs.foldl Assembly.add a).text = a.text ++ String.join (fs.map Fragment.ended) := by
  induction fs generalizing a with
  | nil => simp [String.join]
  | cons f fs ih =>
    rw [List.foldl_cons, ih, Assembly.text_add, List.map_cons, String.join_cons,
      String.append_assoc]

theorem text_ofFragments (fs : List Fragment) :
    (ofFragments fs).text = String.join (fs.map Fragment.ended) := by
  rw [ofFragments, text_foldl_add]
  exact String.empty_append

/-- Empty fragments are not seen. -/
theorem join_ended (fs : List Fragment) :
    String.join (fs.map Fragment.ended)
      = String.join ((fs.filter fun f => f.text ≠ "").map fun f => Text.withNewline f.text) := by
  induction fs with
  | nil => rfl
  | cons f fs ih =>
    rw [List.map_cons, String.join_cons, ih, Fragment.ended]
    by_cases h : f.text = ""
    · simp [h]
    · simp [h, String.join_cons]

theorem count_join_ended (fs : List Fragment) :
    (String.join (fs.map Fragment.ended)).toList.count '\n' = linesOf fs := by
  induction fs with
  | nil => rfl
  | cons f fs ih =>
    rw [List.map_cons, String.join_cons, String.toList_append, List.count_append, ih,
      f.count_ended, linesOf_cons]

theorem pieces_join_ended {fs : List Fragment} {k : Nat} {f : Fragment} {j : Nat}
    (h : fragmentAt fs k = some (f, j)) :
    (Text.pieces (String.join (fs.map Fragment.ended)).toList)[k]?
      = (Text.pieces f.text.toList)[j]? := by
  induction fs generalizing k with
  | nil => cases h
  | cons g fs ih =>
    rw [List.map_cons, String.join_cons, String.toList_append]
    obtain ⟨ls, hpieces, hlen, hls⟩ := g.pieces_ended_append
      (String.join (fs.map Fragment.ended)).toList
    rw [hpieces]
    rw [fragmentAt] at h
    split at h
    · next hlt =>
      cases h
      rw [List.getElem?_append_left (by omega), hls _ hlt]
    · next hge => rw [List.getElem?_append_right (by omega), hlen, ih h]

/-! ## The blocks -/

/-- The blocks of fragments, the first of which starts on the line `next`. -/
def blocksFrom (next : UInt32) : List Fragment → List Block
  | [] => []
  | f :: fs =>
    (if f.text = "" then [] else [⟨next, .ofNat f.lineCount, f.origin⟩])
      ++ blocksFrom (next + .ofNat f.lineCount) fs

theorem Assembly.blocks_add (a : Assembly) (f : Fragment) :
    (a.add f).blocks = a.blocks ++ blocksFrom a.nextLine [f] ∧
      (a.add f).nextLine = a.nextLine + .ofNat f.lineCount := by
  unfold Assembly.add
  split
  · next h => simp [blocksFrom, h, Fragment.lineCount_of_empty h]
  · next h =>
    have hmax : max (Text.lineCount f.text) 1 = f.lineCount :=
      Nat.max_eq_left (Text.lineCount_pos h)
    simp [blocksFrom, h, hmax]

theorem blocks_foldl_add (fs : List Fragment) (a : Assembly) :
    (fs.foldl Assembly.add a).blocks = a.blocks ++ blocksFrom a.nextLine fs := by
  induction fs generalizing a with
  | nil => simp [blocksFrom]
  | cons f fs ih =>
    rw [List.foldl_cons, ih, (a.blocks_add f).1, (a.blocks_add f).2]
    simp [blocksFrom]

section Blocks
variable {next : UInt32} {f : Fragment} {fs : List Fragment}

theorem toNat_next (h : next.toNat + linesOf (f :: fs) < 2 ^ 32) :
    (UInt32.ofNat f.lineCount).toNat = f.lineCount ∧
      (next + .ofNat f.lineCount).toNat = next.toNat + f.lineCount := by
  rw [linesOf_cons] at h
  rw [UInt32.toNat_add, UInt32.toNat_ofNat']
  omega

/-- No block reaches behind the last line. -/
theorem mem_blocksFrom (h : next.toNat + linesOf fs < 2 ^ 32) {b : Block}
    (hb : b ∈ blocksFrom next fs) :
    next.toNat ≤ b.firstLine.toNat ∧
      b.firstLine.toNat + b.lineCount.toNat ≤ next.toNat + linesOf fs := by
  induction fs generalizing next with
  | nil => cases hb
  | cons f fs ih =>
    obtain ⟨hcount, hnext⟩ := toNat_next h
    rw [linesOf_cons] at h ⊢
    rw [blocksFrom, List.mem_append] at hb
    rcases hb with hb | hb
    · split at hb
      · cases hb
      · obtain rfl := List.mem_singleton.1 hb
        dsimp only
        omega
    · have := ih (by omega) hb
      omega

theorem Block.above_iff {first count line : UInt32} {origin : Option UInt32}
    (h : first.toNat + count.toNat < 2 ^ 32) :
    Block.above line ⟨first, count, origin⟩ ↔ first.toNat + count.toNat ≤ line.toNat := by
  rw [Block.above, decide_eq_true_iff, UInt32.le_iff_toNat_le, UInt32.toNat_add,
    Nat.mod_eq_of_lt h]

/-- The blocks above a line come before all others. -/
theorem pairwise_blocksFrom (h : next.toNat + linesOf fs < 2 ^ 32) (line : UInt32) :
    (blocksFrom next fs).Pairwise fun b c => c.above line → b.above line := by
  induction fs generalizing next with
  | nil => exact .nil
  | cons f fs ih =>
    obtain ⟨hcount, hnext⟩ := toNat_next h
    have hrest : (next + .ofNat f.lineCount).toNat + linesOf fs < 2 ^ 32 := by
      rw [linesOf_cons] at h
      omega
    rw [blocksFrom]
    split
    · exact ih hrest
    · refine List.pairwise_cons.2 ⟨fun c hc habove => ?_, ih hrest⟩
      obtain ⟨hfirst, hlast⟩ := mem_blocksFrom hrest hc
      obtain ⟨first, count, origin⟩ := c
      dsimp only at hfirst hlast
      rw [Block.above_iff (by omega)] at habove
      exact (Block.above_iff (by omega)).2 (by omega)

/-- What is answered for a line is the sum that is made for it. -/
theorem Block.line?_eq (b : Block) (line : UInt32) :
    b.line? line = (b.lineOp? line).map WordOp.word := by
  unfold Block.line? Block.lineOp?
  split
  · rfl
  · rw [Option.map_map]
    rfl

theorem Assembly.sourceLine_eq_map (a : Assembly) (line : UInt32) :
    a.sourceLine line = (a.lineOp? line).map WordOp.word := by
  unfold Assembly.sourceLine Assembly.lineOp?
  rw [Option.map_bind]
  exact congrArg _ (funext fun b => b.line?_eq line)

/-- The first block that is not above a line answers for the line's fragment. -/
theorem find?_blocksFrom (h : next.toNat + linesOf fs < 2 ^ 32) {line : UInt32}
    (hline : next ≤ line) :
    (((blocksFrom next fs).find? fun b => !b.above line).bind fun b => b.lineOp? line)
      = (fragmentAt fs (line.toNat - next.toNat)).bind
          fun (f, j) => f.origin.map (WordOp.sum · (.ofNat j)) := by
  induction fs generalizing next with
  | nil => rfl
  | cons f fs ih =>
    obtain ⟨hcount, hnext⟩ := toNat_next h
    rw [linesOf_cons] at h
    rw [UInt32.le_iff_toNat_le] at hline
    have hmoves : f.lineCount ≤ line.toNat - next.toNat →
        ((blocksFrom (next + .ofNat f.lineCount) fs).find? fun b => !b.above line).bind
            (fun b => b.lineOp? line)
          = (fragmentAt (f :: fs) (line.toNat - next.toNat)).bind
              fun (f, j) => f.origin.map (WordOp.sum · (.ofNat j)) := by
      intro hle
      rw [ih (by omega) (UInt32.le_iff_toNat_le.2 (by omega)), hnext, fragmentAt,
        if_neg (by omega), Nat.sub_add_eq]
    rw [blocksFrom]
    by_cases hempty : f.text = ""
    · rw [if_pos hempty]
      exact hmoves (by rw [Fragment.lineCount_of_empty hempty]; omega)
    · rw [if_neg hempty, List.singleton_append, List.find?_cons]
      have habove : Block.above line ⟨next, .ofNat f.lineCount, f.origin⟩
          ↔ next.toNat + f.lineCount ≤ line.toNat := by
        rw [Block.above_iff (by omega), hcount]
      by_cases hlt : line.toNat - next.toNat < f.lineCount
      · have hnot : Block.above line ⟨next, .ofNat f.lineCount, f.origin⟩ = false := by
          rw [← Bool.not_eq_true, habove]
          omega
        have hfirst : ¬ line < next := by
          rw [UInt32.lt_iff_toNat_lt]
          omega
        have hoff : line - next = .ofNat (line.toNat - next.toNat) := by
          rw [← UInt32.toNat_inj, UInt32.toNat_sub_of_le _ _ (UInt32.le_iff_toNat_le.2 hline),
            UInt32.toNat_ofNat', Nat.mod_eq_of_lt]
          omega
        simp only [hnot, Bool.not_false, Option.bind_some, Block.lineOp?, if_neg hfirst, fragmentAt,
          if_pos hlt, hoff]
      · have hyes : Block.above line ⟨next, .ofNat f.lineCount, f.origin⟩ = true :=
          habove.2 (by omega)
        simp only [hyes, Bool.not_true]
        exact hmoves (by omega)

end Blocks

/-! ## The lines of the script -/

/-- Line `l` of the program, counted from 1, is line `j` of the fragment `f`, counted from 0:
it stands there, and reads the same. -/
structure LineOf (fs : List Fragment) (l : Nat) (f : Fragment) (j : Nat) : Prop where
  stands : ∃ before after, fs = before ++ f :: after ∧ l = linesOf before + j + 1
  inside : j < f.lineCount
  reads : ∃ line, (Text.pieces f.text.toList)[j]? = some line ∧
    (Text.pieces (ofFragments fs).text.toList)[l - 1]? = some line

/-- Line `l` of the program is line `n` of the script. -/
def ComesFrom (fs : List Fragment) (l n : Nat) : Prop :=
  ∃ f j origin, LineOf fs l f j ∧ f.origin = some origin ∧ n = origin.toNat + j

/-- The line behind the program is a word, and so is every line of the script in it. -/
def Fits (fs : List Fragment) : Prop :=
  linesOf fs + 1 < 2 ^ 32 ∧ ∀ f ∈ fs, ∀ origin ∈ f.origin, origin.toNat + f.lineCount ≤ 2 ^ 32

instance (fs : List Fragment) : Decidable (Fits fs) :=
  -- found by itself, the instance would go through all words
  letI (f : Fragment) : Decidable (∀ origin ∈ f.origin, origin.toNat + f.lineCount ≤ 2 ^ 32) :=
    Option.decidableForallMem f.origin
  inferInstanceAs (Decidable (_ ∧ _))

theorem lineOf_iff {fs : List Fragment} {l : Nat} {f : Fragment} {j : Nat} :
    LineOf fs l f j ↔ 0 < l ∧ fragmentAt fs (l - 1) = some (f, j) := by
  constructor
  · rintro ⟨⟨before, after, hfs, rfl⟩, hj, -⟩
    exact ⟨by omega, fragmentAt_eq_some_iff.2 ⟨before, after, hfs, by omega, hj⟩⟩
  · rintro ⟨hl, hat⟩
    obtain ⟨before, after, hfs, hk, hj⟩ := fragmentAt_eq_some_iff.1 hat
    have hlen : j < (Text.pieces f.text.toList).length :=
      Nat.lt_of_lt_of_le hj (Text.lineCount_le f.text)
    refine ⟨⟨before, after, hfs, by omega⟩, hj, _, List.getElem?_eq_getElem hlen, ?_⟩
    rw [text_ofFragments, pieces_join_ended hat, List.getElem?_eq_getElem hlen]

theorem blocks_ofFragments (fs : List Fragment) : (ofFragments fs).blocks = blocksFrom 1 fs :=
  blocks_foldl_add fs .empty

theorem one_add_linesOf {fs : List Fragment} (h : linesOf fs + 1 < 2 ^ 32) :
    (1 : UInt32).toNat + linesOf fs < 2 ^ 32 := by
  rw [Nat.add_comm]
  exact h

/-- The sum for a line is the origin of its fragment, and as many lines further. -/
theorem lineOp?_eq {fs : List Fragment} (h : linesOf fs + 1 < 2 ^ 32) {line : UInt32}
    (hline : line ≠ 0) :
    (ofFragments fs).lineOp? line
      = (fragmentAt fs (line.toNat - 1)).bind
          fun (f, j) => f.origin.map (WordOp.sum · (.ofNat j)) := by
  have hfit := one_add_linesOf h
  have hone : (1 : UInt32) ≤ line := by
    rw [UInt32.le_iff_toNat_le]
    exact Nat.pos_of_ne_zero fun hzero => hline (UInt32.toNat_inj.1 hzero)
  rw [Assembly.lineOp?, blocks_ofFragments,
    getElem?_partitionPoint (pairwise_blocksFrom hfit line), find?_blocksFrom hfit hone]
  rfl

theorem lineOp?_zero {fs : List Fragment} (h : linesOf fs + 1 < 2 ^ 32) :
    (ofFragments fs).lineOp? 0 = none := by
  rw [Assembly.lineOp?, blocks_ofFragments]
  cases hget : (blocksFrom 1 fs)[partitionPoint (Block.above 0) (blocksFrom 1 fs)]? with
  | none => rfl
  | some b =>
    have hfirst := (mem_blocksFrom (one_add_linesOf h) (List.mem_of_getElem? hget)).1
    have hlt : (0 : UInt32) < b.firstLine := by
      rw [UInt32.lt_iff_toNat_lt]
      exact hfirst
    simp only [Option.bind_some, Block.lineOp?, if_pos hlt]

theorem lineOp?_eq_some_iff {fs : List Fragment} (h : linesOf fs + 1 < 2 ^ 32) {l : UInt32}
    {op : WordOp} :
    (ofFragments fs).lineOp? l = some op ↔
      ∃ f j origin, LineOf fs l.toNat f j ∧ f.origin = some origin ∧
        op = .sum origin (.ofNat j) := by
  by_cases hl : l = 0
  · rw [hl, lineOp?_zero h]
    constructor
    · intro hnone
      cases hnone
    · intro ⟨f, j, origin, hline, _⟩
      exact absurd (lineOf_iff.1 hline).1 (Nat.lt_irrefl _)
  · rw [lineOp?_eq h hl]
    constructor
    · intro hsome
      obtain ⟨⟨f, j⟩, hat, hmap⟩ := Option.bind_eq_some_iff.1 hsome
      obtain ⟨origin, horigin, rfl⟩ := Option.map_eq_some_iff.1 hmap
      have hpos : 0 < l.toNat := Nat.pos_of_ne_zero fun hzero => hl (UInt32.toNat_inj.1 hzero)
      exact ⟨f, j, origin, lineOf_iff.2 ⟨hpos, hat⟩, horigin, rfl⟩
    · intro ⟨f, j, origin, hline, horigin, hop⟩
      rw [(lineOf_iff.1 hline).2, Option.bind_some, hop]
      simp only [horigin, Option.map_some]

/-- Lines of the script are counted without overflow. -/
theorem LineOf.toNat_add {fs : List Fragment} {l : Nat} {f : Fragment} {j : Nat} {origin : UInt32}
    (hline : LineOf fs l f j) (h : Fits fs) (horigin : f.origin = some origin) :
    (origin + .ofNat j).toNat = origin.toNat + j := by
  obtain ⟨before, after, hfs, -⟩ := hline.stands
  have hfit := h.2 f (by simp [hfs]) origin horigin
  have hj := hline.inside
  rw [UInt32.toNat_add, UInt32.toNat_ofNat']
  omega

theorem ComesFrom.word {fs : List Fragment} {l n : Nat} (hn : ComesFrom fs l n) (h : Fits fs) :
    ∃ line : UInt32, line.toNat = n := by
  obtain ⟨f, j, origin, hline, horigin, rfl⟩ := hn
  exact ⟨_, hline.toNat_add h horigin⟩

/-- What is answered for a line of the script, which may lie behind the last word. -/
theorem sourceLine_eq_ofNat_iff {fs : List Fragment} (h : linesOf fs + 1 < 2 ^ 32)
    {l line : UInt32} :
    (ofFragments fs).sourceLine l = some line ↔ ∃ n, ComesFrom fs l.toNat n ∧ line = .ofNat n := by
  have hword (origin : UInt32) (j : Nat) :
      (WordOp.sum origin (.ofNat j)).word = .ofNat (origin.toNat + j) := by
    rw [UInt32.ofNat_add, UInt32.ofNat_toNat]
    rfl
  rw [Assembly.sourceLine_eq_map, Option.map_eq_some_iff]
  constructor
  · intro ⟨op, hop, hline⟩
    obtain ⟨f, j, origin, hat, horigin, rfl⟩ := (lineOp?_eq_some_iff h).1 hop
    exact ⟨_, ⟨f, j, origin, hat, horigin, rfl⟩, hline.symm.trans (hword origin j)⟩
  · intro ⟨n, ⟨f, j, origin, hat, horigin, hn⟩, hline⟩
    refine ⟨_, (lineOp?_eq_some_iff h).2 ⟨f, j, origin, hat, horigin, rfl⟩, ?_⟩
    rw [hword, hline, hn]

theorem sourceLine_eq_some_iff {fs : List Fragment} (h : Fits fs) (l n : UInt32) :
    (ofFragments fs).sourceLine l = some n ↔ ComesFrom fs l.toNat n.toNat := by
  rw [sourceLine_eq_ofNat_iff h.1]
  constructor
  · rintro ⟨k, hk, rfl⟩
    obtain ⟨line, rfl⟩ := hk.word h
    rwa [UInt32.ofNat_toNat]
  · exact fun hn => ⟨n.toNat, hn, UInt32.ofNat_toNat.symm⟩

/-! ## Programs of passes -/

namespace Source

/-- What a program is put together from. -/
def fragments (desc : ShaderDesc) (declarations : List Declaration) : List Fragment :=
  [⟨preamble, none⟩]
    ++ (desc.includes.filterMap (included? declarations)).map
      (fun body => ⟨body.text, some body.start⟩)
    ++ [⟨outputsBlock desc.outputs, none⟩, ⟨uniformsBlock desc.uniforms, none⟩,
      ⟨samplersBlock desc.samplers, none⟩, ⟨"void main() \x7b\n", none⟩,
      ⟨desc.body.text, some desc.body.start⟩, ⟨"\x7d\n", none⟩]

theorem foldl_addInclude (declarations : List Declaration) (names : List String) (a : Assembly) :
    names.foldl (addInclude declarations) a
      = ((names.filterMap (included? declarations)).map
          fun body => (⟨body.text, some body.start⟩ : Fragment)).foldl Assembly.add a := by
  induction names generalizing a with
  | nil => rfl
  | cons name names ih =>
    rw [List.foldl_cons, ih, addInclude]
    cases h : included? declarations name with
    | none => simp [h]
    | some body => simp [h, Assembly.addSource]

theorem assemble_eq (desc : ShaderDesc) (declarations : List Declaration) :
    assemble desc declarations = ofFragments (fragments desc declarations) := by
  simp only [assemble, ofFragments, fragments, List.foldl_append, foldl_addInclude]
  rfl

end Source

/-- However a program is put together: its text is that of the fragments that are not empty,
each ended by one newline, its own or an added one; it has as many newlines as the fragments
have lines; and a line of it is answered with the line of the script that it is, and with
nothing if it is none. So a program that is rejected at a line is reported with the line of
the script that this very line is, or with 0. -/
theorem line_mapping_exact (fs : List Fragment) :
    (ofFragments fs).text
        = String.join ((fs.filter fun f => f.text ≠ "").map fun f => Text.withNewline f.text) ∧
      (ofFragments fs).text.toList.count '\n' = linesOf fs ∧
      (Fits fs →
        (∀ l n : UInt32,
          (ofFragments fs).sourceLine l = some n ↔ ComesFrom fs l.toNat n.toNat) ∧
        (∀ l : UInt32, 0 < l.toNat → l.toNat ≤ linesOf fs → ∃ f j, LineOf fs l.toNat f j) ∧
        (∀ l : UInt32,
          l = 0 ∨ linesOf fs < l.toNat ∨ (∃ f j, LineOf fs l.toNat f j ∧ f.origin = none) →
            (ofFragments fs).sourceLine l = none) ∧
        ∀ {σ : Type} [Backend σ] (t : PassTable) (desc : ShaderDesc)
          (declarations : List Declaration) (b b' : σ) (e : Program.ShaderError),
          Source.fragments desc declarations = fs →
          t.current? desc.name (ofFragments fs).text = none →
          compileProgram (ofFragments fs).text b = (.error e, b') →
            ∃ line : UInt32,
              t.build desc declarations b = ((.error ⟨desc.name, line, e.message⟩, t), b') ∧
              (∀ l n, e.line = some l → ComesFrom fs l.toNat n → line.toNat = n) ∧
              ((∀ l n, e.line = some l → ¬ ComesFrom fs l.toNat n) → line = 0)) := by
  refine ⟨?_, ?_, fun hfits => ⟨sourceLine_eq_some_iff hfits, ?_, ?_, ?_⟩⟩
  · rw [text_ofFragments, join_ended]
  · rw [text_ofFragments, count_join_ended]
  · intro l hpos hle
    cases hat : fragmentAt fs (l.toNat - 1) with
    | none =>
      have := fragmentAt_eq_none_iff.1 hat
      omega
    | some at? => exact ⟨at?.1, at?.2, lineOf_iff.2 ⟨hpos, hat⟩⟩
  · intro l hl
    by_contra hsome
    obtain ⟨n, hn⟩ := Option.ne_none_iff_exists'.1 hsome
    obtain ⟨f, j, origin, hline, horigin, -⟩ := (sourceLine_eq_some_iff hfits l n).1 hn
    obtain ⟨hpos, hat⟩ := lineOf_iff.1 hline
    rcases hl with rfl | hbehind | ⟨g, i, hmade, hnone⟩
    · exact absurd hpos (Nat.lt_irrefl _)
    · rw [fragmentAt_eq_none_iff.2 (by omega)] at hat
      cases hat
    · rw [(lineOf_iff.1 hmade).2] at hat
      cases hat
      rw [hnone] at horigin
      cases horigin
  · intro σ _ t desc declarations b b' e hfs hnew hrejected
    refine ⟨(e.line.bind (ofFragments fs).sourceLine).getD 0, ?_, ?_, ?_⟩
    · rw [← hfs, ← Source.assemble_eq] at hnew hrejected ⊢
      simp only [PassTable.build, hnew, run_bind, hrejected, run_pure, CompileError.ofShader]
    · intro l n hl hn
      obtain ⟨line, rfl⟩ := hn.word hfits
      rw [hl, Option.bind_some, (sourceLine_eq_some_iff hfits l line).2 hn]
      rfl
    · intro hnone
      rw [Option.getD_eq_iff]
      refine .inr ⟨Option.eq_none_iff_forall_ne_some.2 fun n hn => ?_, rfl⟩
      obtain ⟨l, hl, hline⟩ := Option.bind_eq_some_iff.1 hn
      exact hnone l n.toNat hl ((sourceLine_eq_some_iff hfits l n).1 hline)

/-- A pass with an include that ends in an empty line, and a body with carriage returns, an
empty line, and no newline at its end. -/
def striped : ShaderDesc where
  name := "striped"
  includes := ["noise", "missing"]
  uniforms := []
  samplers := []
  outputs := [⟨"out_color", "vec4"⟩]
  body := ⟨"float x;\r\n\r\nout_color = y;", 7⟩
  blendMode := .overwrite

def noise : Declaration := ⟨"noise", ⟨"float n();\n\n", 3⟩⟩

/-- Finds fault with line 8 of every program. -/
def faultOnLine8 : Program.FrontEnd := fun _ => .error ⟨some 8, "no y"⟩

theorem line_mapping_exact_sample :
    let fs := Source.fragments striped [noise]
    Fits fs ∧ linesOf fs = 9 ∧ (ofFragments fs).sourceLine 7 = some 8 ∧
      (ofFragments fs).sourceLine 4 = none ∧ (ofFragments fs).sourceLine 10 = none ∧
      ∃ line, (PassTable.empty.build striped [noise] ({} : Recorder faultOnLine8)).1.1
        = .error ⟨"striped", line, "no y"⟩ ∧ line.toNat = 9 := by
  intro fs
  have hfits : Fits fs := by decide +kernel
  obtain ⟨-, -, hlines⟩ := line_mapping_exact fs
  obtain ⟨hsome, -, hnone, hreported⟩ := hlines hfits
  have hempty : LineOf fs 7 ⟨striped.body.text, some 7⟩ 1 := lineOf_iff.2 (by decide +kernel)
  have hlast : LineOf fs 8 ⟨striped.body.text, some 7⟩ 2 := lineOf_iff.2 (by decide +kernel)
  have hmade : LineOf fs 4 ⟨Source.outputsBlock striped.outputs, none⟩ 0 :=
    lineOf_iff.2 (by decide +kernel)
  obtain ⟨line, hbuild, hline, -⟩ := hreported .empty striped [noise]
    ({} : Recorder faultOnLine8) _ ⟨some 8, "no y"⟩ rfl rfl rfl
  refine ⟨hfits, by decide +kernel, (hsome 7 8).2 ⟨_, 1, 7, hempty, rfl, rfl⟩,
    hnone 4 (.inr (.inr ⟨_, 0, hmade, rfl⟩)), hnone 10 (.inr (.inl (by decide +kernel))),
    line, ?_, hline 8 9 rfl ⟨_, 2, 7, hlast, rfl, rfl⟩⟩
  rw [hbuild]
  rfl

end FrameGraph
