import FrameGraph.Proofs.Wire.Returning
import FrameGraph.Wire.Record
import FrameGraph.Wire.Tagged

/-!
# Records and unions that come back

A record may come back with its fields in another order. The fields of a description are
then gathered as if those of its first part stood there alone, and those of its second part
too (`gather_and`), so it is enough to know that a single field comes back (`one_returns`) and
that no name is in both parts (`and_returns`).

A union writes a tag with its value. A tag among the fields is taken out before they are read
(`inner_returns`); a tag beside a content may come before it or after it (`beside_returns`).

Results:
* `one_returns`, `skipped_returns`, `maybe_returns`, `and_returns`: groups of fields.
* `record_returns`, `inner_returns`, `beside_returns`: records and unions.
-/
namespace FrameGraph.Wire

open Json Doc

variable {σ τ α β γ : Type} {n : Nat}

namespace Fields

variable {fs : Fields σ α} {gs : Fields τ β} {names names' : List String} {a b : α} {x y : β}

/-- The fields that are written of the one value are gathered to the other, in any mode and
in any order; their names are among those that the group knows. -/
structure Returns (fs : Fields σ α) (names : List String) (n : Nat) (a b : α) : Prop where
  knows : ∀ m depth key d met, (fs.accept m depth key d met).isSome ↔ key ∈ names
  keys : ((fs.write a).map Prod.fst).Nodup
  within : ∀ f ∈ fs.write a, f.1 ∈ names
  written : ∀ f ∈ fs.write a, f.2.Written n
  gathers : ∀ (m : Mode) {depth : Nat} {entries : List (String × Doc)}, n ≤ depth →
    Shuffled (fs.write a) entries →
    ∃ met, fs.gather m depth (named entries) fs.start = .ok met ∧ fs.finish met = .ok b

/-! ## One field -/

section
variable {c : Codec β} {name : String} {absent : Option β} {aliases : List String}
  {skip : β → Bool}

theorem knows_one (m : Mode) (depth : Nat) (key : String) (d : Doc) (met : Option β) :
    ((one name c absent aliases skip).accept m depth key d met).isSome
      ↔ key ∈ name :: aliases := by
  simp only [one, List.mem_cons]
  split <;> simp_all

/-- A field that is written. -/
theorem one_returns (h : c.Returns n x y) (hskip : skip x = false) :
    (one name c absent aliases skip).Returns (name :: aliases) n x y := by
  have hwrite : (one name c absent aliases skip).write x = [(name, c.write x)] := by
    simp only [one, hskip, Bool.false_eq_true, if_false]
  refine ⟨knows_one, ?_, ?_, ?_, fun m depth entries hn hentries => ?_⟩ <;>
    rw [hwrite] at *
  · exact List.nodup_singleton name
  · exact List.forall_mem_singleton.2 List.mem_cons_self
  · exact List.forall_mem_singleton.2 h.written
  · obtain ⟨d, rfl, hd⟩ := hentries.eq_singleton
    refine ⟨some y, ?_, rfl⟩
    simp only [named, List.map_cons, List.map_nil, gather, one, true_or, if_true,
      Option.isSome_none, Bool.false_eq_true, if_false, h.reads m hn hd]
    rfl

/-- A field that is left out when it has the value that it has when it is missing. -/
theorem skipped_returns (hskip : skip x = true) :
    (one name c (some y) aliases skip).Returns (name :: aliases) n x y := by
  have hwrite : (one name c (some y) aliases skip).write x = [] := by
    simp only [one, hskip, if_true]
  refine ⟨knows_one, ?_, ?_, ?_, fun m depth entries hn hentries => ?_⟩ <;>
    rw [hwrite] at *
  · exact List.nodup_nil
  · nofun
  · nofun
  · cases hentries.eq_nil
    exact ⟨none, rfl, rfl⟩

theorem required_returns (h : c.Returns n x y) : (required name c).Returns [name] n x y :=
  one_returns h rfl

theorem optional_returns {absent : β} (h : c.Returns n x y) :
    (optional name c absent).Returns [name] n x y :=
  one_returns h rfl

theorem maybe_returns {x : Option β} (h : ∀ y ∈ x, c.Returns n y y ∧ c.write y ≠ .null) :
    (maybe name c).Returns [name] n x x := by
  cases x with
  | none => exact skipped_returns rfl
  | some y =>
    obtain ⟨hy, hnull⟩ := h y rfl
    exact one_returns (Codec.option_some_returns hy hnull) rfl

end

/-! ## Two groups of fields -/

/-- The fields of a group are gathered as if the others did not stand between them. -/
theorem gather_and
    (hknows : ∀ m depth key d met, (fs.accept m depth key d met).isSome ↔ key ∈ names)
    {m : Mode} {depth : Nat} {entries : List (String × Doc)} {s s' : σ} {t t' : τ}
    (hs : fs.gather m depth (named (entries.filter fun f => f.1 ∈ names)) s = .ok s')
    (ht : gs.gather m depth (named (entries.filter fun f => f.1 ∉ names)) t = .ok t') :
    (fs.and gs).gather m depth (named entries) (s, t) = .ok (s', t') := by
  induction entries generalizing s t with
  | nil =>
    cases hs
    cases ht
    rfl
  | cons f entries ih =>
    obtain ⟨key, d⟩ := f
    simp only [named, List.map_cons, gather, and]
    by_cases hkey : key ∈ names
    · rw [List.filter_cons_of_pos (by simpa using hkey)] at hs
      rw [List.filter_cons_of_neg (by simpa using hkey)] at ht
      obtain ⟨taken, htaken⟩ := Option.isSome_iff_exists.1 ((hknows m depth key d s).2 hkey)
      simp only [named, List.map_cons, gather, htaken] at hs ⊢
      cases taken with
      | error e => cases hs
      | ok s₁ => exact ih hs ht
    · rw [List.filter_cons_of_neg (by simpa using hkey)] at hs
      rw [List.filter_cons_of_pos (by simpa using hkey)] at ht
      have hleft : fs.accept m depth key d s = none := by
        rw [← Option.not_isSome_iff_eq_none]
        exact fun hsome => hkey ((hknows m depth key d s).1 hsome)
      simp only [named, List.map_cons, gather, hleft] at ht ⊢
      cases haccept : gs.accept m depth key d t with
      | none =>
        simp only [haccept, Option.map_none] at ht ⊢
        split at ht
        · next hsound =>
          rw [if_pos hsound]
          exact ih hs ht
        · cases ht
      | some taken =>
        simp only [haccept, Option.map_some] at ht ⊢
        cases taken with
        | error e => cases ht
        | ok t₁ => exact ih hs ht

theorem and_returns (hf : fs.Returns names n a b) (hg : gs.Returns names' n x y)
    (hdisjoint : ∀ key ∈ names, key ∉ names') :
    (fs.and gs).Returns (names ++ names') n (a, x) (b, y) := by
  have hwrite : (fs.and gs).write (a, x) = fs.write a ++ gs.write x := rfl
  refine ⟨fun m depth key d met => ?_, ?_, ?_, ?_, fun m depth entries hn hentries => ?_⟩
  · simp only [and, List.mem_append, ← hf.knows m depth key d met.1,
      ← hg.knows m depth key d met.2]
    cases fs.accept m depth key d met.1 <;> simp
  · rw [hwrite, List.map_append]
    refine hf.keys.append hg.keys fun key hkey hkey' => ?_
    obtain ⟨f, hmem, rfl⟩ := List.mem_map.1 hkey
    obtain ⟨g, hmem', heq⟩ := List.mem_map.1 hkey'
    exact hdisjoint _ (hf.within f hmem) (heq ▸ hg.within g hmem')
  · rw [hwrite]
    intro f hmem
    exact List.mem_append.2 ((List.mem_append.1 hmem).imp (hf.within f) (hg.within f))
  · rw [hwrite]
    exact List.forall_mem_append.2 ⟨hf.written, hg.written⟩
  · rw [hwrite] at hentries
    have hfirst : (fs.write a ++ gs.write x).filter (fun f => f.1 ∈ names) = fs.write a := by
      rw [List.filter_append, List.filter_eq_self.2, List.filter_eq_nil_iff.2, List.append_nil]
      · intro g hmem hin
        exact hdisjoint _ (of_decide_eq_true hin) (hg.within g hmem)
      · exact fun f hmem => decide_eq_true (hf.within f hmem)
    have hsecond : (fs.write a ++ gs.write x).filter (fun f => f.1 ∉ names) = gs.write x := by
      rw [List.filter_append, List.filter_eq_nil_iff.2, List.filter_eq_self.2, List.nil_append]
      · exact fun g hmem => decide_eq_true fun hin => hdisjoint _ hin (hg.within g hmem)
      · intro f hmem hout
        exact of_decide_eq_true hout (hf.within f hmem)
    have hleft := hentries.filter (fun key => key ∈ names)
    have hright := hentries.filter (fun key => key ∉ names)
    rw [hfirst] at hleft
    rw [hsecond] at hright
    obtain ⟨s, hs, hfinish⟩ := hf.gathers m hn hleft
    obtain ⟨t, ht, hfinish'⟩ := hg.gathers m hn hright
    refine ⟨(s, t), gather_and hf.knows hs ht, ?_⟩
    simp only [and, hfinish, hfinish']
    rfl

end Fields

namespace Codec

variable {fs : Fields σ β} {names : List String} {build : β → α} {parts : α → β} {a : α}
  {x y : β}

/-! ## Records -/

theorem record_returns {b : α} (h : fs.Returns names n (parts a) y) (hbuild : build y = b) :
    (record fs build parts).Returns (n + 1) a b where
  written := .fields h.keys h.written
  reads m depth d hn hd := by
    obtain ⟨entries, rfl, hentries⟩ := shuffled_fields hd
    obtain ⟨met, hgather, hfinish⟩ := h.gathers m (by omega : n ≤ depth - 1) hentries
    have hdepth : depth ≠ 0 := by omega
    rw [Doc.named] at hgather
    simp only [record, Doc.fields, Fields.readRecord, hdepth, if_false, hgather]
    simp only [bind, Except.bind, if_true, hfinish]
    exact congrArg Except.ok hbuild

/-! ## Unions -/

variable {cases : List (Case α)} {case : Case α} {tag : String} {depth : Nat}
  {entries fields : List (String × Doc)}

/-- A field that is no tag is set aside. -/
theorem gatherInner_others (cases : List (Case α)) (met : Option (Case α))
    (htag : tagField ∉ entries.map Prod.fst)
    (hwritten : ∀ f ∈ entries, f.2.Written n) (hn : n ≤ depth) :
    gatherInner cases depth (Doc.named entries) met = .ok (met, Doc.named entries) := by
  induction entries with
  | nil => rfl
  | cons f entries ih =>
    obtain ⟨hf, hrest⟩ := List.forall_mem_cons.1 hwritten
    rw [List.map_cons, List.mem_cons, not_or] at htag
    have hgather := ih htag.2 hrest
    simp only [Doc.named, List.map_cons] at hgather ⊢
    rw [gatherInner, if_neg (Ne.symm htag.1), hf.settle hn]
    simp only [bind, Except.bind, hgather]
    rfl

/-- Wherever the tag stands, it names the case, and the other fields keep their order. -/
theorem gatherInner_found (hmem : (tagField, Doc.text tag) ∈ entries)
    (hkeys : (entries.map Prod.fst).Nodup) (hcase : (Case.table cases).lookup tag = some case)
    (hwritten : ∀ f ∈ entries, f.2.Written n) (hn : n ≤ depth) :
    gatherInner cases depth (Doc.named entries) none
      = .ok (some case, Doc.named (entries.filter fun f => f.1 ≠ tagField)) := by
  induction entries with
  | nil => cases hmem
  | cons f entries ih =>
    obtain ⟨key, d⟩ := f
    obtain ⟨hf, hrest⟩ := List.forall_mem_cons.1 hwritten
    obtain ⟨hfresh, hkeys⟩ := List.nodup_cons.1 hkeys
    by_cases htag : key = tagField
    · subst htag
      have hfilter := filter_ne_of_notMem hfresh
      have hd : d = Doc.text tag := by
        rcases List.mem_cons.1 hmem with heq | hlater
        · exact (Prod.mk.inj heq).2.symm
        · exact absurd (List.mem_map_of_mem hlater) hfresh
      have hread : readTag cases d = .ok case := by
        simp only [hd, Doc.text, readTag, named, hcase]
      have hothers := gatherInner_others cases (some case) hfresh hrest hn
      rw [List.filter_cons_of_neg (by simp), hfilter]
      simp only [Doc.named, List.map_cons] at hothers ⊢
      rw [gatherInner, if_pos rfl, hread]
      exact hothers
    · have hlater : (tagField, Doc.text tag) ∈ entries :=
        (List.mem_cons.1 hmem).resolve_left fun heq => htag (Prod.mk.inj heq).1.symm
      have hgather := ih hlater hkeys hrest
      rw [List.filter_cons_of_pos (by simpa using htag)]
      simp only [Doc.named, List.map_cons] at hgather ⊢
      rw [gatherInner, if_neg htag, hf.settle hn]
      simp only [bind, Except.bind, hgather]
      rfl

variable {c : Codec γ} {inject : γ → α} {project : α → Option γ} {v w : γ} {b : α}

/-- A union whose tag is one more field of its case. -/
theorem inner_returns (hcontent : Case.content cases a = some (tag, c.write v))
    (hcase : (Case.table cases).lookup tag = some (.of tag c inject project))
    (h : c.Returns (n + 1) v w) (hinject : inject w = b) (hwrite : c.write v = Doc.fields fields)
    (htag : tagField ∉ fields.map Prod.fst) : (inner cases).Returns (n + 1) a b := by
  have hall : (inner cases).write a = Doc.fields ((tagField, Doc.text tag) :: fields) := by
    simp only [inner, hcontent, hwrite]
    rfl
  obtain ⟨hkeys, hfields⟩ := written_fields_iff.1 (hwrite ▸ h.written)
  have hwritten : (Doc.fields ((tagField, Doc.text tag) :: fields)).Written (n + 1) :=
    .fields (List.nodup_cons.2 ⟨htag, hkeys⟩) (List.forall_mem_cons.2 ⟨.string n tag, hfields⟩)
  refine ⟨hall ▸ hwritten, fun m depth d hn hd => ?_⟩
  rw [hall] at hd
  obtain ⟨entries, rfl, hentries⟩ := shuffled_fields hd
  obtain ⟨hkeys', hfields'⟩ := written_fields_iff.1 (hd.written hwritten)
  obtain ⟨e, hmem, he⟩ := hentries.exists_mem List.mem_cons_self
  rw [he.eq_of_leaf trivial] at hmem
  have hgather := gatherInner_found hmem hkeys' hcase hfields' (by omega : n ≤ depth - 1)
  -- without the tag, the fields are those of the case
  have hothers : Rearranged (c.write v)
      (Doc.fields (entries.filter fun f => f.1 ≠ tagField)) := by
    have hfilter := hentries.filter (fun key => key ≠ tagField)
    rw [List.filter_cons_of_neg (by simp), filter_ne_of_notMem htag] at hfilter
    rw [hwrite]
    exact .fields hfilter.keys hfilter.fields
  have hread := h.reads .buffered hn hothers
  have hdepth : depth ≠ 0 := by omega
  rw [Doc.named] at hgather
  simp only [inner, Doc.fields, hdepth, if_false, hgather]
  simp only [bind, Except.bind, Bool.not_true, Bool.false_eq_true, if_false, Case.of]
  rw [show Doc.record (Doc.named _) true = Doc.fields _ from rfl, hread]
  exact congrArg Except.ok hinject

/-- A union whose tag and content are the fields of a record, in either order. -/
theorem beside_returns (hcontent : Case.content cases a = some (tag, c.write v))
    (hcase : (Case.table cases).lookup tag = some (.of tag c inject project))
    (h : c.Returns n v w) (hinject : inject w = b) : (beside cases).Returns (n + 1) a b := by
  subst hinject
  have hall : (beside cases).write a
      = Doc.fields [(tagField, Doc.text tag), (contentField, c.write v)] := by
    simp only [beside, hcontent]
  have hkeys : [tagField, contentField].Nodup := by decide
  have hwritten : (Doc.fields [(tagField, Doc.text tag), (contentField, c.write v)]).Written
      (n + 1) :=
    .fields hkeys
      (List.forall_mem_cons.2 ⟨.string n tag, List.forall_mem_singleton.2 h.written⟩)
  refine ⟨hall ▸ hwritten, fun m depth d hn hd => ?_⟩
  rw [hall] at hd
  obtain ⟨entries, rfl, hentries⟩ := shuffled_fields hd
  obtain ⟨e, e', horder, he, he'⟩ := hentries.eq_pair
  rw [he.eq_of_leaf trivial] at horder
  have hdepth : depth ≠ 0 := by omega
  have hname : readName (Case.table cases) m (depth - 1) (Doc.text tag)
      = .ok (.of tag c inject project) := by
    simp only [Doc.text, readName, named, hcase]
  have hfield : contentField ≠ tagField := by decide
  have hsettle : e'.settle (depth - 1) = .ok e' := (he'.written h.written).settle (by omega)
  have hread (m : Mode) :
      (Case.of tag c inject project).read m (depth - 1) e' = .ok (inject w) :=
    congrArg (Except.map inject) (h.reads m (by omega) he')
  have hgather : Beside.gather cases m (depth - 1) (Doc.named entries) .nothing
      = .ok (.both (inject w)) := by
    rcases horder with rfl | rfl
    · have htag : Beside.addTag cases m (depth - 1) (Doc.text tag) .nothing
          = .ok (.tag (.of tag c inject project)) := by
        simp only [Beside.addTag, Beside.hasTag, hname]
        rfl
      have hcontent : Beside.addContent m (depth - 1) e' (.tag (.of tag c inject project))
          = .ok (.both (inject w)) := by
        simp only [Beside.addContent, Beside.hasContent, hread]
        rfl
      simp only [Doc.named, List.map_cons, List.map_nil, Beside.gather, htag, hfield, if_true,
        if_false, bind, Except.bind, hcontent]
    · have hcontent : Beside.addContent m (depth - 1) e' (.nothing : Beside α)
          = .ok (.content e') := by
        simp only [Beside.addContent, Beside.hasContent, hsettle]
        rfl
      have htag : Beside.addTag cases m (depth - 1) (Doc.text tag) (.content e')
          = .ok (.both (inject w)) := by
        simp only [Beside.addTag, Beside.hasTag, hname, bind, Except.bind, hread]
        rfl
      simp only [Doc.named, List.map_cons, List.map_nil, Beside.gather, htag, hfield, if_true,
        if_false, bind, Except.bind, hcontent]
  rw [Doc.named] at hgather
  simp only [beside, Doc.fields, hdepth, if_false, hgather]
  rfl

end Codec
end FrameGraph.Wire
