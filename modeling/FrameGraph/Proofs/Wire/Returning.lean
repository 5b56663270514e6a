import FrameGraph.Proofs.Json.Arranging
import FrameGraph.Proofs.Json.Numerals
import FrameGraph.Wire.Codec

/-!
# Values that come back

A codec writes a value as a document, and the document is read again: from its text as it
stands, from a generic value with the fields sorted, or in parts that were set aside.
`Returns c n a b` covers them all: what `c` writes of `a` can be printed, is nested `n` deep
at most, and is read as `b` whatever the order of its fields and the mode. What is read need
not be what was written, since a codec may leave something out.

A number in single precision is printed in its shortest form and read by way of double
precision. Whether it comes back is a matter of its own, so it is assumed of each of them
where it is needed (`ReadsBack`).

Results:
* `Returns.parse`, `Returns.parseValue`: the text of such a value is accepted either way.
* `text_returns`, `bool_returns`, `uint32_returns`, `int32_returns`, `single_returns`,
  `option_none_returns`, `option_some_returns`, `list_returns`, `names_returns`: codecs one by
  one.
-/
namespace FrameGraph.Wire.Codec

open Json Doc

variable {α : Type} {c : Codec α} {n : Nat} {a b : α}

/-- What is written of the one value is read as the other, in any mode and with the fields in
any order. -/
structure Returns (c : Codec α) (n : Nat) (a b : α) : Prop where
  written : (c.write a).Written n
  reads : ∀ (m : Mode) {depth : Nat} {d : Doc}, n ≤ depth → Rearranged (c.write a) d →
    c.read m depth d = .ok b

/-- The value is what its own text is read as. -/
def ReadsBack (c : Codec α) (a : α) : Prop := c.parse (c.print a) = .ok a

instance [DecidableEq α] (c : Codec α) (a : α) : Decidable (c.ReadsBack a) :=
  inferInstanceAs (Decidable (_ = _))

/-! ## Whole texts -/

theorem Returns.parse (h : c.Returns n a b) (hn : n ≤ maxDepth) : c.parse (c.print a) = .ok b := by
  have hread := h.reads .text hn (rearranged_self h.written)
  simp only [Codec.parse, Codec.print, Reading.scan_compact h.written, hread]
  rfl

theorem Returns.parseValue (h : c.Returns n a b) (hn : n ≤ maxDepth) :
    c.parseValue (c.print a) = .ok b := by
  have hread := h.reads .value hn (rearranged_ordered h.written)
  simp only [Codec.parseValue, Codec.print, Reading.scan_compact h.written, Reading.value,
    h.written.settle hn, if_true]
  exact hread

/-! ## Scalars -/

/-- What is written as one piece is read as it stands. -/
theorem Returns.of_leaf (hwritten : (c.write a).Written n) (hleaf : (c.write a).Leaf)
    (hread : ∀ m depth, c.read m depth (c.write a) = .ok b) : c.Returns n a b where
  written := hwritten
  reads m depth d _ hd := by
    rw [hd.eq_of_leaf hleaf]
    exact hread m depth

theorem text_returns (n : Nat) (s : String) : text.Returns n s s :=
  .of_leaf (.string n s) trivial fun _ _ => rfl

theorem bool_returns (n : Nat) (b : Bool) : bool.Returns n b b :=
  .of_leaf (.bool n b) trivial fun _ _ => rfl

/-- A grammatical numeral that is worth a number with a place. -/
theorem number_returns {numeral : Numeral} {v : Number} {take? : Number → Option α} (n : Nat)
    (hwrite : c.write a = .number numeral) (hread : ∀ m depth, c.read m depth = readNumber take?)
    (hgrammatical : numeral.Grammatical) (hworth : numeral.number? = some v)
    (htake : take? v = some b) : c.Returns n a b := by
  refine .of_leaf ?_ ?_ fun m depth => ?_ <;> rw [hwrite]
  · exact .number n hgrammatical (by rw [hworth]; rfl)
  · trivial
  · simp only [hread, readNumber, hworth, htake]

theorem uint32_returns (n : Nat) (w : UInt32) : uint32.Returns n w w := by
  have hlt : w.toNat < Nat.pow 2 32 := w.toNat_lt
  have hworth : (Numeral.ofNat w.toNat).number? = some (.natural w.toNat) :=
    Numeral.number?_ofNat (Nat.lt_trans hlt (by decide))
  refine number_returns n rfl (fun _ _ => rfl) (Numeral.grammatical_ofNat _) hworth ?_
  rw [Number.toUInt32?, if_pos hlt, UInt32.ofNat_toNat]

theorem toInt32?_toInt (i : Int32) :
    (if i.toInt < 0 then Number.negative i.toInt.natAbs else .natural i.toInt.natAbs).toInt32?
      = some i := by
  have hlow := i.le_toInt
  have hhigh := i.toInt_lt
  have hlimit : Nat.pow 2 31 = 2 ^ 31 := rfl
  split
  · next hneg =>
    have hvalue : -(i.toInt.natAbs : Int) = i.toInt := by omega
    rw [Number.toInt32?, if_pos (by omega), hvalue, Int32.ofInt_toInt]
  · next hpos =>
    have hvalue : (i.toInt.natAbs : Int) = i.toInt := by omega
    rw [Number.toInt32?, if_pos (by omega), ← Int32.ofInt_eq_ofNat, hvalue, Int32.ofInt_toInt]

theorem int32_returns (n : Nat) (i : Int32) : int32.Returns n i i := by
  have hlow := i.le_toInt
  have hhigh := i.toInt_lt
  have hworth := Numeral.number?_ofInt (i := i.toInt) (by omega)
  exact number_returns n rfl (fun _ _ => rfl) (Numeral.grammatical_ofInt _) hworth
    (toInt32?_toInt i)

/-- A single that reads back is finite, and its numeral is worth a number. -/
theorem single_returns {x : Single} (n : Nat) (h : single.ReadsBack x) : single.Returns n x x := by
  unfold ReadsBack Codec.parse Codec.print at h
  by_cases hfinite : x.isFinite
  · have hwrite : single.write x = .number (.ofSingle x) := if_pos hfinite
    have hgrammatical := Numeral.grammatical_ofSingle x
    rw [hwrite, Reading.scan_found (Scan.opens_number hgrammatical)
      (Scan.found_number hgrammatical)] at h
    cases hworth : (Numeral.ofSingle x).number? with
    | none =>
      simp only [single, readNumber, hworth] at h
      cases h
    | some v =>
      have hread (m : Mode) (depth : Nat) :
          single.read m depth = readNumber fun v => some v.toSingle := rfl
      simp only [hread, readNumber, hworth] at h
      exact number_returns n hwrite hread hgrammatical hworth (congrArg some (Except.ok.inj h))
  · have hwrite : single.write x = .null := if_neg hfinite
    rw [hwrite, Reading.scan_compact (.null 0)] at h
    cases h

/-! ## Options and lists -/

theorem option_none_returns (n : Nat) : c.option.Returns n none none :=
  .of_leaf (.null n) trivial fun _ _ => rfl

theorem option_some_returns (h : c.Returns n a b) (hnull : c.write a ≠ .null) :
    c.option.Returns n (some a) (some b) where
  written := h.written
  reads m depth d hn hd := by
    have hread : c.option.read m depth d = (c.read m depth d).map some := by
      cases d <;> first | rfl | exact absurd rfl (hd.ne_null hnull)
    rw [hread, h.reads m hn hd]
    rfl

theorem readItems_ok {as bs : List α} {ds : List Doc} (m : Mode) {depth : Nat} (hn : n ≤ depth)
    (h : List.Forall₂ (c.Returns n) as bs)
    (hds : List.Forall₂ Rearranged (as.map c.write) ds) : c.readItems m depth ds = .ok bs := by
  induction h generalizing ds with
  | nil =>
    cases hds
    rfl
  | cons h _ ih =>
    cases hds with
    | cons hd hds =>
      rw [readItems, h.reads m hn hd, ih hds]
      rfl

theorem list_returns {as bs : List α} (h : List.Forall₂ (c.Returns n) as bs) :
    c.list.Returns (n + 1) as bs where
  written := by
    refine .items ?_
    induction h with
    | nil => nofun
    | cons h _ ih => exact List.forall_mem_cons.2 ⟨h.written, ih⟩
  reads m depth d hn hd := by
    obtain ⟨ds, rfl, hds⟩ := rearranged_items hd
    have hdepth : depth ≠ 0 := by omega
    have hitems := readItems_ok m (by omega : n ≤ depth - 1) h hds
    simp only [list, Doc.items, hdepth, if_false, hitems]
    rfl

/-- A list of values that come back as they are. -/
theorem list_returns_self {as : List α} (h : ∀ a ∈ as, c.Returns n a a) :
    c.list.Returns (n + 1) as as :=
  list_returns (List.forall₂_same.2 h)

/-! ## Names -/

theorem names_returns {table : List (String × α)} {name : α → String} (n : Nat)
    (h : table.lookup (name a) = some a) : (names table name).Returns n a a := by
  refine .of_leaf (.string n (name a)) trivial fun m depth => ?_
  simp only [names, Doc.text, readName, named, h]

end FrameGraph.Wire.Codec
