import FrameGraph.Proofs.Context.Histories

/-!
# Declarations keep the order of the script

The variables that a frame requests are declared in four lists, one for each type, and each
declaration carries the position of its request. The four lists are the requests of the frame
that goes on, picked by type (`Declares`), so they can be merged again, and every history of a
store keeps them so.

Results:
* `Declares.step`: what one event does to the declarations.
* `declares_run`: the declarations after a history are the requests since the last frame began.
* `Declares.perm`, `Declares.mergeSort`: the four lists have each request once, and merged by
  position they are the requests in their order.
* `declarations_in_order`: both, for a new store and any history.
-/
namespace FrameGraph

/-! ## Requests by type -/

namespace ContextRequest

def float? : ContextRequest → Option FloatRequest
  | .float r => some r
  | _ => none

def int? : ContextRequest → Option IntRequest
  | .int r => some r
  | _ => none

def bool? : ContextRequest → Option BoolRequest
  | .bool r => some r
  | _ => none

def text? : ContextRequest → Option TextRequest
  | .text r => some r
  | _ => none

/-- The name of a variable that is fed back to the script. -/
def activeName? : ContextRequest → Option String
  | .float r => some r.name
  | .int r => some r.name
  | .bool r => some r.name
  | .text _ | .cachedImage _ | .loadedImage _ => none

end ContextRequest

namespace Declared

def map {ρ ρ' : Type} (f : ρ → ρ') (d : Declared ρ) : Declared ρ' := ⟨f d.request, d.position⟩

/-- A request with its position, as a declaration. -/
def ofPair (p : ContextRequest × Nat) : Declared ContextRequest := ⟨p.1, p.2⟩

variable {ρ : Type} {kind? : ContextRequest → Option ρ}

/-- The request at a position, if it is of a kind. -/
def pick? (kind? : ContextRequest → Option ρ) (p : ContextRequest × Nat) : Option (Declared ρ) :=
  (kind? p.1).map (⟨·, p.2⟩)

/-- The requests of a kind, each with its position among all. -/
def ofKind (kind? : ContextRequest → Option ρ) (rs : List ContextRequest) : List (Declared ρ) :=
  rs.zipIdx.filterMap (pick? kind?)

theorem ofKind_concat (rs : List ContextRequest) (r : ContextRequest) :
    ofKind kind? (rs ++ [r]) = ofKind kind? rs ++ ((kind? r).map (⟨·, rs.length⟩)).toList := by
  rw [ofKind, List.zipIdx_append, List.filterMap_append, Nat.zero_add]
  simp only [List.zipIdx_cons, List.zipIdx_nil, List.filterMap_cons, List.filterMap_nil, pick?]
  cases kind? r <;> rfl

theorem pairwise_zipIdx {α : Type} (xs : List α) : xs.zipIdx.Pairwise fun p q => p.2 < q.2 := by
  rw [List.pairwise_iff_getElem]
  intro i j hi hj hlt
  simpa using hlt

/-- Positions ascend in each kind. -/
theorem pairwise_ofKind (rs : List ContextRequest) :
    (ofKind kind? rs).Pairwise fun d e => d.position < e.position := by
  refine (pairwise_zipIdx rs).filterMap _ fun p q hlt d hd e he => ?_
  obtain ⟨-, -, rfl⟩ := Option.map_eq_some_iff.1 hd
  obtain ⟨-, -, rfl⟩ := Option.map_eq_some_iff.1 he
  exact hlt

end Declared

namespace ContextStore

/-- The declarations of all types. -/
def declarations (s : ContextStore) : List (Declared ContextRequest) :=
  s.floats.map (Declared.map ContextRequest.float) ++ s.ints.map (Declared.map ContextRequest.int)
    ++ s.bools.map (Declared.map ContextRequest.bool)
    ++ s.texts.map (Declared.map ContextRequest.text)

/-- The request that an event declares; images are not declared. -/
def Event.declared? : Event → Option ContextRequest
  | .resolve r => if r.variable?.isSome then some r else none
  | .beginFrame | .set .. => none

/-- The variables requested since the last frame began, or since the store is there. -/
def requestsSince (es : List Event) : List ContextRequest :=
  (es.rtakeWhile fun e => e ≠ .beginFrame).filterMap Event.declared?

/-- The declarations are those of these requests. -/
structure Declares (s : ContextStore) (rs : List ContextRequest) : Prop where
  floats : s.floats = Declared.ofKind ContextRequest.float? rs
  ints : s.ints = Declared.ofKind ContextRequest.int? rs
  bools : s.bools = Declared.ofKind ContextRequest.bool? rs
  texts : s.texts = Declared.ofKind ContextRequest.text? rs
  next : s.nextPosition = rs.length
  active : ∀ n, (s.active.get? n).isSome ↔ ∃ r ∈ rs, r.activeName? = some n
  named : ∀ r ∈ rs, r.variable?.isSome

variable {s : ContextStore} {rs : List ContextRequest}

/-! ## One event -/

theorem requestsSince_concat (es : List Event) {e : Event} (h : e ≠ .beginFrame) :
    requestsSince (es ++ [e]) = requestsSince es ++ e.declared?.toList := by
  rw [requestsSince, List.rtakeWhile_concat_pos _ _ _ (by simpa using h), List.filterMap_append]
  simp only [List.filterMap_cons, List.filterMap_nil]
  cases e.declared? <;> rfl

theorem requestsSince_beginFrame (es : List Event) :
    requestsSince (es ++ [.beginFrame]) = [] := by
  rw [requestsSince, List.rtakeWhile_concat_neg _ _ _ (by simp), List.filterMap_nil]

theorem declares_beginFrame (s : ContextStore) : s.beginFrame.Declares [] :=
  ⟨rfl, rfl, rfl, rfl, rfl, fun _ => by simp [beginFrame], by simp⟩

/-- Settling a variable changes values only. -/
theorem settle_eq (s : ContextStore) (name : String) (default : ContextValue) :
    ∃ values, (s.settle name default).2 = { s with values } := by
  unfold settle
  split
  · split
    · exact ⟨s.values, rfl⟩
    · exact ⟨_, rfl⟩
  · exact ⟨_, rfl⟩

/-- A request is declared in the list of its type, at the next position. -/
theorem resolve_declared (s : ContextStore) {r : ContextRequest} (hr : r.variable?.isSome) :
    (s.resolve r).2.floats = s.floats ++ (r.float?.map (⟨·, s.nextPosition⟩)).toList ∧
      (s.resolve r).2.ints = s.ints ++ (r.int?.map (⟨·, s.nextPosition⟩)).toList ∧
      (s.resolve r).2.bools = s.bools ++ (r.bool?.map (⟨·, s.nextPosition⟩)).toList ∧
      (s.resolve r).2.texts = s.texts ++ (r.text?.map (⟨·, s.nextPosition⟩)).toList ∧
      (s.resolve r).2.nextPosition = s.nextPosition + 1 ∧
      (s.resolve r).2.active = r.activeName?.elim s.active fun name => s.active.insert name () := by
  obtain ⟨⟨name, default⟩, hvar⟩ := Option.isSome_iff_exists.1 hr
  obtain ⟨values, hsettle⟩ := s.settle_eq name default
  cases r with
  | cachedImage r | loadedImage r => cases hvar
  | float r | int r | bool r | text r =>
    cases hvar
    simp [resolve, hsettle, activate, ContextRequest.float?, ContextRequest.int?,
      ContextRequest.bool?, ContextRequest.text?, ContextRequest.activeName?]

theorem Declares.resolve (h : s.Declares rs) {r : ContextRequest} (hr : r.variable?.isSome) :
    (s.resolve r).2.Declares (rs ++ [r]) := by
  obtain ⟨hfloats, hints, hbools, htexts, hnext, hactive⟩ := s.resolve_declared hr
  constructor
  · rw [hfloats, h.floats, h.next, Declared.ofKind_concat]
  · rw [hints, h.ints, h.next, Declared.ofKind_concat]
  · rw [hbools, h.bools, h.next, Declared.ofKind_concat]
  · rw [htexts, h.texts, h.next, Declared.ofKind_concat]
  · rw [hnext, h.next, List.length_append, List.length_singleton]
  · intro n
    simp only [List.mem_append, List.mem_singleton, or_and_right, exists_or, exists_eq_left,
      ← h.active n, hactive]
    cases r.activeName? with
    | none => simp
    | some name =>
      by_cases hname : n = name
      · simp [hname]
      · simp [hname, Ne.symm hname]
  · intro r' hr'
    rcases List.mem_append.1 hr' with hr' | hr'
    · exact h.named r' hr'
    · rwa [List.mem_singleton.1 hr']

theorem Declares.step {es : List Event} (h : s.Declares (requestsSince es)) (e : Event) :
    (s.step e).2.Declares (requestsSince (es ++ [e])) := by
  cases e with
  | beginFrame =>
    rw [requestsSince_beginFrame]
    exact declares_beginFrame s
  | set name value =>
    rw [requestsSince_concat es (by simp), Event.declared?, Option.toList_none, List.append_nil]
    exact ⟨h.floats, h.ints, h.bools, h.texts, h.next, h.active, h.named⟩
  | resolve r =>
    rw [requestsSince_concat es (by simp), Event.declared?]
    by_cases hr : r.variable?.isSome
    · rw [if_pos hr]
      exact h.resolve hr
    · rw [if_neg hr, Option.toList_none, List.append_nil]
      -- only images have no variable
      cases r with
      | cachedImage r | loadedImage r => exact h
      | float r | int r | bool r | text r => exact absurd rfl hr

/-! ## Histories -/

theorem declares_run (es : List Event) : (empty.run es).Declares (requestsSince es) := by
  induction es using List.reverseRecOn with
  | nil => exact declares_beginFrame empty
  | append_singleton es e ih =>
    rw [run_append]
    exact ih.step e

/-! ## All types together -/

/-- Every request of a variable is of exactly one type. -/
theorem perm_pick (ps : List (ContextRequest × Nat))
    (h : ∀ r ∈ ps.map Prod.fst, r.variable?.isSome) :
    List.Perm
      ((ps.filterMap (Declared.pick? ContextRequest.float?)).map (Declared.map ContextRequest.float)
        ++ (ps.filterMap (Declared.pick? ContextRequest.int?)).map (Declared.map ContextRequest.int)
        ++ (ps.filterMap (Declared.pick? ContextRequest.bool?)).map
          (Declared.map ContextRequest.bool)
        ++ (ps.filterMap (Declared.pick? ContextRequest.text?)).map
          (Declared.map ContextRequest.text))
      (ps.map Declared.ofPair) := by
  induction ps with
  | nil => exact .nil
  | cons p ps ih =>
    have ih := ih fun r hr => h r (List.mem_cons_of_mem p.1 hr)
    have hp := h p.1 List.mem_cons_self
    rw [List.perm_iff_count] at ih ⊢
    intro d
    have ih := ih d
    obtain ⟨r, i⟩ := p
    cases r with
    | cachedImage r | loadedImage r => cases hp
    | float r | int r | bool r | text r =>
      simp only [List.filterMap_cons, Declared.pick?, ContextRequest.float?, ContextRequest.int?,
        ContextRequest.bool?, ContextRequest.text?, Option.map_some, Option.map_none,
        List.map_cons, List.count_append, List.count_cons, Declared.map, Declared.ofPair] at ih ⊢
      omega

theorem Declares.perm (h : s.Declares rs) :
    s.declarations.Perm (rs.zipIdx.map Declared.ofPair) := by
  rw [declarations, h.floats, h.ints, h.bools, h.texts]
  refine perm_pick rs.zipIdx fun r hr => h.named r ?_
  rwa [List.zipIdx_map_fst] at hr

/-- Merged by position, the declarations are the requests in their order. -/
theorem Declares.mergeSort (h : s.Declares rs) :
    s.declarations.mergeSort (fun d e => d.position ≤ e.position)
      = rs.zipIdx.map Declared.ofPair := by
  have hsorted : (s.declarations.mergeSort fun d e => d.position ≤ e.position).Pairwise
      fun d e => decide (d.position ≤ e.position) :=
    List.pairwise_mergeSort
      (fun d e f hde hef => by
        simp only [decide_eq_true_eq] at hde hef ⊢
        exact Nat.le_trans hde hef)
      (fun d e => by
        simp only [Bool.or_eq_true, decide_eq_true_eq]
        exact Nat.le_total d.position e.position) s.declarations
  have hperm := (List.mergeSort_perm s.declarations
    fun d e => decide (d.position ≤ e.position)).trans h.perm
  have hascend : (rs.zipIdx.map Declared.ofPair).Pairwise fun d e => d.position < e.position :=
    List.pairwise_map.2 (Declared.pairwise_zipIdx rs)
  refine hperm.eq_of_pairwise (fun d e hd he hde hed => ?_) (hsorted.imp of_decide_eq_true)
    (hascend.imp Nat.le_of_lt)
  by_contra hne
  have hsymm : Std.Symm fun d e : Declared ContextRequest => d.position ≠ e.position :=
    ⟨fun _ _ h => h.symm⟩
  exact (hascend.imp Nat.ne_of_lt).forall (hperm.mem_iff.1 hd) he hne (Nat.le_antisymm hde hed)

/-- After any history of a new store, the four lists of declarations together have each variable
requested since the last frame began exactly once, with its position among these requests; in
each list the positions ascend, so merged by position they are the requests in their order; and
the variables fed back are those requested as numbers and switches. -/
theorem declarations_in_order (es : List Event) :
    let s := empty.run es
    let rs := requestsSince es
    s.declarations.Perm (rs.zipIdx.map Declared.ofPair) ∧
      (s.floats.Pairwise (fun d e => d.position < e.position) ∧
        s.ints.Pairwise (fun d e => d.position < e.position) ∧
        s.bools.Pairwise (fun d e => d.position < e.position) ∧
        s.texts.Pairwise fun d e => d.position < e.position) ∧
      (s.declarations.mergeSort fun d e => d.position ≤ e.position).map Declared.request = rs ∧
      ∀ name, name ∈ s.active.keys ↔ ∃ r ∈ rs, r.activeName? = some name := by
  intro s rs
  have h : s.Declares rs := declares_run es
  refine ⟨h.perm, ⟨?_, ?_, ?_, ?_⟩, ?_, fun name => ?_⟩
  · rw [h.floats]
    exact Declared.pairwise_ofKind rs
  · rw [h.ints]
    exact Declared.pairwise_ofKind rs
  · rw [h.bools]
    exact Declared.pairwise_ofKind rs
  · rw [h.texts]
    exact Declared.pairwise_ofKind rs
  · rw [h.mergeSort, List.map_map]
    exact List.zipIdx_map_fst 0 rs
  · rw [Dict.mem_keys_iff, h.active]

end ContextStore
end FrameGraph
