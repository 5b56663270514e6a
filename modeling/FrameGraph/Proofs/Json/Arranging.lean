import Mathlib
import FrameGraph.Json.Whole
import FrameGraph.Proofs.Dict.Ordered
import FrameGraph.Proofs.Json.Scanning

/-!
# The order of fields

A record may be read with its fields in another order than they were written in: a generic
value sorts them, and what is set aside before a tag loses the tag. `Rearranged` is a
document with the fields of its records in any order.

Results:
* `rearranged_self`, `rearranged_ordered`: what was written is read as it stands, or sorted.
* `Rearranged.written`: in any order it can be printed and read again.
* `Written.whole`, `Written.settle`: it can be set aside.
-/
namespace FrameGraph.Json.Doc

variable {n m : Nat} {d d' : Doc} {ds ds' : List Doc} {fs fs' : List (String × Doc)}

/-! ## Documents by their shape -/

theorem named_injective : Function.Injective named :=
  List.map_injective_iff.2 fun f g h => by
    obtain ⟨hname, hdoc⟩ := Prod.mk.inj h
    exact Prod.ext (Key.name.inj hname) hdoc

theorem fields_inj (h : Doc.fields fs = Doc.fields fs') : fs = fs' :=
  named_injective (Doc.record.inj h).1

theorem Written.mono (h : d.Written n) (hnm : n ≤ m) : d.Written m := by
  induction h generalizing m with
  | null => exact .null m
  | bool _ b => exact .bool m b
  | number _ grammatical worth => exact .number m grammatical worth
  | string _ s => exact .string m s
  | items items ih =>
    obtain ⟨m, rfl⟩ := Nat.exists_eq_add_of_le' (by omega : 1 ≤ m)
    exact .items fun d hd => ih d hd (by omega)
  | fields keys fields ih =>
    obtain ⟨m, rfl⟩ := Nat.exists_eq_add_of_le' (by omega : 1 ≤ m)
    exact .fields keys fun f hf => ih f hf (by omega)

theorem written_items (h : (Doc.items ds).Written n) : ∃ k, n = k + 1 ∧ ∀ d ∈ ds, d.Written k := by
  generalize hd : Doc.items ds = d at h
  cases h with
  | items items =>
    cases hd
    exact ⟨_, rfl, items⟩
  | _ => exact absurd hd nofun

theorem written_fields (h : (Doc.fields fs).Written n) :
    ∃ k, n = k + 1 ∧ (fs.map Prod.fst).Nodup ∧ ∀ f ∈ fs, f.2.Written k := by
  generalize hd : Doc.fields fs = d at h
  cases h with
  | fields keys fields =>
    cases fields_inj hd
    exact ⟨_, rfl, keys, fields⟩
  | _ => exact absurd hd nofun

theorem written_fields_iff :
    (Doc.fields fs).Written (n + 1) ↔ (fs.map Prod.fst).Nodup ∧ ∀ f ∈ fs, f.2.Written n := by
  refine ⟨fun h => ?_, fun h => .fields h.1 h.2⟩
  obtain ⟨k, hk, h⟩ := written_fields h
  cases hk
  exact h

/-! ## Setting aside -/

theorem wholeItems_of_forall (h : ∀ d ∈ ds, d.whole n = true) : wholeItems n ds = true := by
  induction ds with
  | nil => rfl
  | cons d ds ih =>
    obtain ⟨hd, hds⟩ := List.forall_mem_cons.1 h
    rw [wholeItems, hd, ih hds]
    rfl

theorem wholeFields_named (h : ∀ f ∈ fs, f.2.whole n = true) :
    wholeFields n (named fs) = true := by
  induction fs with
  | nil => rfl
  | cons f fs ih =>
    obtain ⟨hf, hfs⟩ := List.forall_mem_cons.1 h
    have hrest := ih hfs
    rw [named] at hrest ⊢
    rw [List.map_cons, wholeFields, hf, hrest]
    rfl

theorem Written.whole (h : d.Written n) : d.whole n = true := by
  induction h with
  | null => rfl
  | bool => rfl
  | number _ _ worth => exact worth
  | string => rfl
  | items items ih =>
    have hitems := wholeItems_of_forall ih
    simp only [Doc.items, Doc.whole, Nat.add_sub_cancel, hitems, Nat.succ_pos, decide_true,
      Bool.and_self]
  | fields keys fields ih =>
    have hfields := wholeFields_named ih
    rw [named] at hfields
    simp only [Doc.fields, Doc.whole, Nat.add_sub_cancel, hfields, Nat.succ_pos, decide_true,
      Bool.and_self]

theorem Written.settle (h : d.Written n) (hnm : n ≤ m) : d.settle m = .ok d :=
  if_pos (h.mono hnm).whole

/-! ## Fields in any order -/

/-- The second document is the first one with the fields of its records in any order. -/
inductive Rearranged : Doc → Doc → Prop where
  | null : Rearranged .null .null
  | bool (b : Bool) : Rearranged (.bool b) (.bool b)
  | number (numeral : Numeral) : Rearranged (.number numeral) (.number numeral)
  | string (s : String) : Rearranged (Doc.text s) (Doc.text s)
  | items {ds ds' : List Doc} (length : ds.length = ds'.length)
    (items : ∀ e e', (e, e') ∈ ds.zip ds' → Rearranged e e') :
    Rearranged (Doc.items ds) (Doc.items ds')
  | fields {fs fs' : List (String × Doc)} (keys : (fs'.map Prod.fst).Perm (fs.map Prod.fst))
    (fields : ∀ k e e', (k, e) ∈ fs → (k, e') ∈ fs' → Rearranged e e') :
    Rearranged (Doc.fields fs) (Doc.fields fs')

theorem rearranged_of_forall₂ (h : List.Forall₂ Rearranged ds ds') :
    Rearranged (Doc.items ds) (Doc.items ds') := by
  obtain ⟨hlength, hitems⟩ := List.forall₂_iff_zip.1 h
  exact .items hlength fun e e' he => hitems he

/-- Under distinct keys a key stands over one document. -/
theorem value_unique (h : (fs.map Prod.fst).Nodup) {k : String} {e e' : Doc} (he : (k, e) ∈ fs)
    (he' : (k, e') ∈ fs) : e = e' :=
  congrArg Prod.snd (List.inj_on_of_nodup_map h he he' rfl)

theorem rearranged_self (h : d.Written n) : Rearranged d d := by
  induction h with
  | null => exact .null
  | bool _ b => exact .bool b
  | number => exact .number _
  | string _ s => exact .string s
  | items items ih =>
    exact rearranged_of_forall₂ (List.forall₂_same.2 ih)
  | fields keys fields ih =>
    refine .fields (List.Perm.refl _) fun k e e' he he' => ?_
    cases value_unique keys he he'
    exact ih (k, e) he

/-! ### Sorting -/

theorem orderedItems_eq (ds : List Doc) : orderedItems ds = ds.map ordered := by
  induction ds with
  | nil => rfl
  | cons d ds ih => rw [orderedItems, ih, List.map_cons]

theorem orderedFields_named (fs : List (String × Doc)) :
    orderedFields (named fs) = fs.map fun f => (f.1, f.2.ordered) := by
  induction fs with
  | nil => rfl
  | cons f fs ih =>
    rw [named] at ih ⊢
    rw [List.map_cons, orderedFields, ih, List.map_cons]

theorem ordered_items (ds : List Doc) : (Doc.items ds).ordered = Doc.items (ds.map ordered) := by
  rw [Doc.items, ordered, orderedItems_eq, Doc.items]

theorem ordered_fields (fs : List (String × Doc)) :
    (Doc.fields fs).ordered
      = Doc.fields (Dict.ofList (fs.map fun f => (f.1, f.2.ordered))).entries := by
  have hfields := orderedFields_named fs
  rw [named] at hfields
  rw [Doc.fields, ordered, hfields, sorted, Doc.fields]

theorem rearranged_ordered (h : d.Written n) : Rearranged d d.ordered := by
  induction h with
  | null => exact .null
  | bool _ b => exact .bool b
  | number => exact .number _
  | string _ s => exact .string s
  | items items ih =>
    rw [ordered_items]
    exact rearranged_of_forall₂ (List.forall₂_map_right_iff.2 (List.forall₂_same.2 ih))
  | @fields _ fs keys fields ih =>
    have hkeys : ((fs.map fun f => (f.1, f.2.ordered)).map Prod.fst) = fs.map Prod.fst := by
      rw [List.map_map]
      rfl
    have hentries := Dict.perm_ofList (hkeys ▸ keys)
    rw [ordered_fields]
    refine .fields ((hentries.map Prod.fst).trans (by rw [hkeys])) fun k e e' he he' => ?_
    obtain ⟨f, hf, heq⟩ := List.mem_map.1 (hentries.mem_iff.1 he')
    cases heq
    cases value_unique keys he hf
    exact ih f hf

/-! ## Fields in another order -/

/-- The second fields are the first ones in any order, with values that are rearranged too. -/
structure Shuffled (fs fs' : List (String × Doc)) : Prop where
  keys : (fs'.map Prod.fst).Perm (fs.map Prod.fst)
  fields : ∀ k e e', (k, e) ∈ fs → (k, e') ∈ fs' → Rearranged e e'

variable {k : String} {e : Doc}

/-- Of each field with a name there is one with the same name. -/
theorem Shuffled.filter (h : Shuffled fs fs') (p : String → Bool) :
    Shuffled (fs.filter fun f => p f.1) (fs'.filter fun f => p f.1) where
  keys := by
    have hkeys (gs : List (String × Doc)) :
        (gs.filter fun f => p f.1).map Prod.fst = (gs.map Prod.fst).filter p :=
      (List.filter_map ..).symm
    rw [hkeys, hkeys]
    exact h.keys.filter p
  fields k e e' he he' := h.fields k e e' (List.mem_filter.1 he).1 (List.mem_filter.1 he').1

/-- Under each name there is a rearranged value. -/
theorem Shuffled.exists_mem (h : Shuffled fs fs') (he : (k, e) ∈ fs) :
    ∃ e', (k, e') ∈ fs' ∧ Rearranged e e' := by
  obtain ⟨⟨k', e'⟩, hmem, rfl⟩ := List.mem_map.1 (h.keys.mem_iff.2 (List.mem_map_of_mem he))
  exact ⟨e', hmem, h.fields _ e e' he hmem⟩

theorem Shuffled.eq_nil (h : Shuffled [] fs') : fs' = [] :=
  List.map_eq_nil_iff.1 (List.perm_nil.1 h.keys)

theorem Shuffled.eq_singleton (h : Shuffled [(k, e)] fs') :
    ∃ e', fs' = [(k, e')] ∧ Rearranged e e' := by
  have hkeys : fs'.map Prod.fst = [k] := List.perm_singleton.1 h.keys
  obtain ⟨⟨k', e'⟩, rfl, rfl⟩ := List.map_eq_singleton_iff.1 hkeys
  exact ⟨e', rfl, h.fields _ e e' List.mem_cons_self List.mem_cons_self⟩

theorem Shuffled.eq_pair {k' : String} {e' : Doc} (h : Shuffled [(k, e), (k', e')] fs') :
    ∃ d d', (fs' = [(k, d), (k', d')] ∨ fs' = [(k', d'), (k, d)]) ∧
      Rearranged e d ∧ Rearranged e' d' := by
  have hfirst := h.fields k e
  have hsecond := h.fields k' e'
  rcases List.perm_pair.1 h.keys with hkeys | hkeys
  · obtain ⟨⟨_, d⟩, rest, rfl, rfl, hrest⟩ := List.map_eq_cons_iff.1 hkeys
    obtain ⟨⟨_, d'⟩, rfl, rfl⟩ := List.map_eq_singleton_iff.1 hrest
    exact ⟨d, d', .inl rfl, hfirst d (by simp) (by simp), hsecond d' (by simp) (by simp)⟩
  · obtain ⟨⟨_, d'⟩, rest, rfl, rfl, hrest⟩ := List.map_eq_cons_iff.1 hkeys
    obtain ⟨⟨_, d⟩, rfl, rfl⟩ := List.map_eq_singleton_iff.1 hrest
    exact ⟨d, d', .inr rfl, hfirst d (by simp) (by simp), hsecond d' (by simp) (by simp)⟩

/-- What is not there is not missed. -/
theorem filter_ne_of_notMem (h : k ∉ fs.map Prod.fst) : fs.filter (fun f => f.1 ≠ k) = fs :=
  List.filter_eq_self.2 fun f hf => decide_eq_true fun heq => h (List.mem_map.2 ⟨f, hf, heq⟩)

/-! ## Rearranged documents by their shape -/

/-- Neither a list nor a record. -/
def Leaf : Doc → Prop
  | .list .. | .record .. => False
  | _ => True

theorem Rearranged.eq_of_leaf (h : Rearranged d d') (hd : d.Leaf) : d' = d := by
  cases h <;> first | rfl | exact hd.elim

theorem Rearranged.ne_null (h : Rearranged d d') (hd : d ≠ .null) : d' ≠ .null := by
  rintro rfl
  generalize hnull : Doc.null = d₀ at h
  cases h <;> first | exact hd hnull | cases hnull

theorem rearranged_items (h : Rearranged (Doc.items ds) d) :
    ∃ ds', d = Doc.items ds' ∧ List.Forall₂ Rearranged ds ds' := by
  generalize hd : Doc.items ds = d₀ at h
  cases h with
  | items length items =>
    cases hd
    exact ⟨_, rfl, List.forall₂_iff_zip.2 ⟨length, fun h => items _ _ h⟩⟩
  | _ => exact absurd hd nofun

theorem shuffled_fields (h : Rearranged (Doc.fields fs) d) :
    ∃ fs', d = Doc.fields fs' ∧ Shuffled fs fs' := by
  generalize hd : Doc.fields fs = d₀ at h
  cases h with
  | fields keys fields =>
    cases fields_inj hd
    exact ⟨_, rfl, keys, fields⟩
  | _ => exact absurd hd nofun

theorem Rearranged.written (h : Rearranged d d') (hd : d.Written n) : d'.Written n := by
  induction h generalizing n with
  | null => exact hd
  | bool => exact hd
  | number => exact hd
  | string => exact hd
  | @items ds ds' length items ih =>
    obtain ⟨k, rfl, hitems⟩ := written_items hd
    refine .items fun e' he' => ?_
    obtain ⟨i, hi, rfl⟩ := List.getElem_of_mem he'
    have hzip : (ds[i], ds'[i]) ∈ ds.zip ds' := by
      rw [← List.getElem_zip]
      exact List.getElem_mem (by rw [List.length_zip]; omega)
    exact ih _ _ hzip (hitems _ (List.getElem_mem _))
  | fields keys fields ih =>
    obtain ⟨k, rfl, hkeys, hfields⟩ := written_fields hd
    refine .fields (keys.nodup_iff.2 hkeys) fun f hf => ?_
    obtain ⟨⟨key, e⟩, he, rfl⟩ := List.mem_map.1 (keys.mem_iff.1 (List.mem_map_of_mem hf))
    exact ih _ e f.2 he hf (hfields _ he)

end FrameGraph.Json.Doc
