import Mathlib
import FrameGraph.Dict

/-!
# Stores in key order

`Dict.insert` overwrites a key only if it meets it before a greater one, so that
a key is filed once depends on the order of the entries. `Ordered` is that order.

Results:
* `ordered_insert`, `ordered_erase`, `ordered_filter`: every operation keeps it.
* `get?_eq_some_iff`: in an ordered store a look-up finds exactly the entries.
* `perm_ofList`: a store made of entries under distinct keys holds just these.
* `held_insert`, `held_of_get?`: what a store holds, as a multiset, before and
  after a change of one key.
-/
namespace FrameGraph.Dict

variable {κ ν : Type}

/-- The keys ascend. -/
def Ordered [Ord κ] (d : Dict κ ν) : Prop :=
  d.entries.Pairwise fun a b => compare a.1 b.1 = .lt

/-- What is stored, under whatever key. -/
def held (d : Dict κ ν) : Multiset ν := d.values

@[simp] theorem ordered_empty [Ord κ] : (empty : Dict κ ν).Ordered := List.Pairwise.nil

@[simp] theorem held_empty : (empty : Dict κ ν).held = 0 := rfl

/-- The entries without a property stand beside those with it. -/
theorem held_eq_add_filter (d : Dict κ ν) (p : κ → Prop) [DecidablePred p] :
    d.held = (⟨d.entries.filter fun e => decide (¬ p e.1)⟩ : Dict κ ν).held
      + (⟨d.entries.filter fun e => decide (p e.1)⟩ : Dict κ ν).held := by
  have h := Multiset.filter_add_not (fun e : κ × ν => ¬ p e.1) (d.entries : Multiset (κ × ν))
  simp only [not_not] at h
  have hmap := congrArg (Multiset.map Prod.snd) h
  rw [Multiset.map_add] at hmap
  simpa [held, values] using hmap.symm

theorem ordered_filter [Ord κ] {d : Dict κ ν} (h : d.Ordered) (p : κ × ν → Bool) :
    (⟨d.entries.filter p⟩ : Dict κ ν).Ordered :=
  List.Pairwise.filter p h

theorem ne_of_lt [Ord κ] [Std.LawfulEqOrd κ] {k j : κ} (h : compare k j = .lt) : k ≠ j := by
  rintro rfl
  have hself : compare k k = .eq := Std.ReflCmp.compare_self
  rw [hself] at h
  cases h

/-- A head's key is no later one. -/
theorem ne_of_pairwise [Ord κ] [Std.LawfulEqOrd κ] {e : κ × ν} {rest : List (κ × ν)}
    (h : (e :: rest).Pairwise fun a b => compare a.1 b.1 = .lt) {e' : κ × ν} (he : e' ∈ rest) :
    e'.1 ≠ e.1 := by
  intro hk
  have hlt := (List.pairwise_cons.1 h).1 e' he
  rw [hk] at hlt
  exact ne_of_lt hlt rfl

variable [DecidableEq κ]

theorem filter_ne_eq_self {k : κ} {es : List (κ × ν)} (h : ∀ e ∈ es, e.1 ≠ k) :
    (es.filter fun e => decide (e.1 ≠ k)) = es :=
  List.filter_eq_self.2 fun e he => by simpa using h e he

theorem filter_ne_cons {k k' : κ} (v : ν) (es : List (κ × ν)) (h : k ≠ k') :
    ((k', v) :: es).filter (fun e => decide (e.1 ≠ k))
      = (k', v) :: es.filter fun e => decide (e.1 ≠ k) :=
  List.filter_cons_of_pos (by simpa using fun hc : k' = k => h hc.symm)

theorem erase_of_get?_none {d : Dict κ ν} {k : κ} (h : d.get? k = none) : d.erase k = d := by
  have hk : k ∉ d.keys := by simp [mem_keys_iff, h]
  obtain ⟨es⟩ := d
  exact congrArg Dict.mk (filter_ne_eq_self fun e he hc => hk (hc ▸ List.mem_map_of_mem he))

theorem ordered_erase [Ord κ] {d : Dict κ ν} (h : d.Ordered) (k : κ) : (d.erase k).Ordered :=
  ordered_filter h _

theorem mem_place [Ord κ] {k : κ} {v : ν} {es : List (κ × ν)} {e : κ × ν}
    (h : e ∈ place k v es) : e = (k, v) ∨ e ∈ es := by
  induction es with
  | nil => simpa [place] using h
  | cons e' rest ih =>
    obtain ⟨k', v'⟩ := e'
    simp only [place] at h
    split at h
    · rcases List.mem_cons.1 h with h | h
      · exact .inl h
      · exact .inr (List.mem_cons_of_mem _ h)
    · split at h
      · exact List.mem_cons.1 h
      · rcases List.mem_cons.1 h with h | h
        · exact .inr (h ▸ List.mem_cons_self)
        · exact (ih h).imp id (List.mem_cons_of_mem _)

/-! ## Looking up -/

/-- Only the keys with a property are left. -/
theorem find?_filter_key (p : κ → Prop) [DecidablePred p] (k : κ) (es : List (κ × ν)) :
    find? k (es.filter fun e => decide (p e.1)) = if p k then find? k es else none := by
  induction es with
  | nil => simp [find?]
  | cons e rest ih =>
    obtain ⟨k', v'⟩ := e
    by_cases hp : p k'
    · by_cases hk : k = k'
      · subst hk; simp [hp, find?]
      · simp [hp, find?, hk, ih]
    · by_cases hk : k = k'
      · subst hk; simp [hp, ih]
      · simp [hp, find?, hk, ih]

theorem get?_filter_key (p : κ → Prop) [DecidablePred p] (d : Dict κ ν) (k : κ) :
    (⟨d.entries.filter fun e => decide (p e.1)⟩ : Dict κ ν).get? k
      = if p k then d.get? k else none :=
  find?_filter_key p k d.entries

section
variable [Ord κ] [Std.LawfulEqOrd κ]

theorem find?_eq_some_iff {k : κ} {v : ν} {es : List (κ × ν)}
    (h : es.Pairwise fun a b => compare a.1 b.1 = .lt) : find? k es = some v ↔ (k, v) ∈ es := by
  induction es with
  | nil => simp [find?]
  | cons e rest ih =>
    obtain ⟨k', v'⟩ := e
    simp only [find?, List.mem_cons, Prod.mk.injEq]
    by_cases hk : k = k'
    · subst hk
      have hn : (k, v) ∉ rest := fun hm => ne_of_pairwise h hm rfl
      simp [hn, eq_comm]
    · simp [hk, ih (List.pairwise_cons.1 h).2]

theorem get?_eq_some_iff {d : Dict κ ν} (h : d.Ordered) {k : κ} {v : ν} :
    d.get? k = some v ↔ (k, v) ∈ d.entries :=
  find?_eq_some_iff h

theorem mem_held_iff {d : Dict κ ν} (h : d.Ordered) {v : ν} :
    v ∈ d.held ↔ ∃ k, d.get? k = some v := by
  simp [held, values, get?_eq_some_iff h]

/-- A value that a key has stands beside those of the other keys. -/
theorem held_of_get? {d : Dict κ ν} (h : d.Ordered) {k : κ} {v : ν} (hv : d.get? k = some v) :
    d.held = v ::ₘ (d.erase k).held := by
  obtain ⟨es⟩ := d
  simp only [held, values, erase, get?, Ordered] at *
  induction es with
  | nil => simp [find?] at hv
  | cons e rest ih =>
    obtain ⟨k', v'⟩ := e
    by_cases hk : k = k'
    · subst hk
      have hv' : v' = v := by simpa [find?] using hv
      rw [List.filter_cons_of_neg (by simp), filter_ne_eq_self fun e he => ne_of_pairwise h he, hv']
      rfl
    · have hv' : find? k rest = some v := by simpa [find?, hk] using hv
      have := ih (List.pairwise_cons.1 h).2 hv'
      rw [filter_ne_cons v' rest hk, List.map_cons, List.map_cons, ← Multiset.cons_coe,
        ← Multiset.cons_coe, this, Multiset.cons_swap]

/-! ## Inserting -/

variable [Std.TransOrd κ]

theorem pairwise_place (k : κ) (v : ν) {es : List (κ × ν)}
    (h : es.Pairwise fun a b => compare a.1 b.1 = .lt) :
    (place k v es).Pairwise fun a b => compare a.1 b.1 = .lt := by
  induction es with
  | nil => simp [place]
  | cons e rest ih =>
    obtain ⟨k', v'⟩ := e
    obtain ⟨hhead, htail⟩ := List.pairwise_cons.1 h
    simp only [place]
    split
    · next hk => subst hk; exact List.pairwise_cons.2 ⟨hhead, htail⟩
    · next hk =>
      split
      · next hlt =>
        refine List.pairwise_cons.2 ⟨?_, h⟩
        intro e he
        rcases List.mem_cons.1 he with rfl | he
        · exact hlt
        · exact Std.TransCmp.lt_trans hlt (hhead e he)
      · next hnlt =>
        -- the new key is neither equal to the head's nor before it
        have hgt : compare k' k = .lt := by
          have hne : compare k k' ≠ .eq := fun he => hk (Std.LawfulEqOrd.eq_of_compare he)
          have : compare k k' = .gt := by cases hc : compare k k' <;> simp_all
          exact Std.OrientedCmp.lt_of_gt this
        refine List.pairwise_cons.2 ⟨?_, ih htail⟩
        intro e he
        rcases mem_place he with rfl | he
        · exact hgt
        · exact hhead e he

theorem ordered_insert {d : Dict κ ν} (h : d.Ordered) (k : κ) (v : ν) : (d.insert k v).Ordered :=
  pairwise_place k v h

theorem perm_place (k : κ) (v : ν) {es : List (κ × ν)}
    (h : es.Pairwise fun a b => compare a.1 b.1 = .lt) :
    (place k v es).Perm ((k, v) :: es.filter fun e => decide (e.1 ≠ k)) := by
  induction es with
  | nil => simp [place]
  | cons e rest ih =>
    obtain ⟨k', v'⟩ := e
    have htail := (List.pairwise_cons.1 h).2
    simp only [place]
    split
    · next hk =>
      subst hk
      rw [List.filter_cons_of_neg (by simp), filter_ne_eq_self fun e he => ne_of_pairwise h he]
    · next hk =>
      rw [filter_ne_cons v' rest hk]
      split
      · next hlt =>
        have hrest : ∀ e ∈ rest, e.1 ≠ k := fun e he =>
          (ne_of_lt (Std.TransCmp.lt_trans hlt ((List.pairwise_cons.1 h).1 e he))).symm
        rw [filter_ne_eq_self hrest]
      · exact ((ih htail).cons _).trans (List.Perm.swap ..)

/-- After an insertion the store holds the new value and those of the other keys. -/
theorem held_insert {d : Dict κ ν} (h : d.Ordered) (k : κ) (v : ν) :
    (d.insert k v).held = v ::ₘ (d.erase k).held := by
  have := (perm_place k v h).map Prod.snd
  simpa [held, values, insert, erase] using Multiset.coe_eq_coe.2 this

end

/-! ## Filling a store -/

/-- A new key is only added. -/
theorem perm_place_new [Ord κ] {k : κ} (v : ν) {es : List (κ × ν)} (h : ∀ e ∈ es, e.1 ≠ k) :
    (place k v es).Perm ((k, v) :: es) := by
  induction es with
  | nil => exact List.Perm.refl _
  | cons e rest ih =>
    obtain ⟨hne, hrest⟩ := List.forall_mem_cons.1 h
    simp only [place, if_neg (Ne.symm hne)]
    split
    · exact List.Perm.refl _
    · exact ((ih hrest).cons _).trans (List.Perm.swap ..)

theorem perm_foldl_insert [Ord κ] {es : List (κ × ν)} (d : Dict κ ν)
    (h : (d.keys ++ es.map Prod.fst).Nodup) :
    (es.foldl (fun d e => d.insert e.1 e.2) d).entries.Perm (d.entries ++ es) := by
  induction es generalizing d with
  | nil => rw [List.foldl_nil, List.append_nil]
  | cons e es ih =>
    have hnew : ∀ e' ∈ d.entries, e'.1 ≠ e.1 := by
      intro e' he' heq
      have hdisjoint := (List.nodup_append.1 h).2.2 e'.1 (List.mem_map_of_mem he')
      exact hdisjoint e.1 (by simp) heq
    have hplace : (d.insert e.1 e.2).entries.Perm (e :: d.entries) := perm_place_new e.2 hnew
    have hkeys : ((d.insert e.1 e.2).keys ++ es.map Prod.fst).Perm
        (d.keys ++ (e :: es).map Prod.fst) :=
      ((hplace.map Prod.fst).append_right _).trans List.perm_middle.symm
    have hrest := ih (d.insert e.1 e.2) (hkeys.nodup_iff.2 h)
    exact hrest.trans ((hplace.append_right es).trans List.perm_middle.symm)

/-- Under distinct keys a store holds just the entries it was made of. -/
theorem perm_ofList [Ord κ] {es : List (κ × ν)} (h : (es.map Prod.fst).Nodup) :
    (ofList es).entries.Perm es :=
  perm_foldl_insert empty h
end FrameGraph.Dict
