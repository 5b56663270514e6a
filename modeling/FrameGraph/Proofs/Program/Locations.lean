import Mathlib
import FrameGraph.Program.Layout

/-!
# Locations and the names at them

A layout is asked in two ways: for the location of a name, and for what stands at a location.
Both number the same names through, the uniforms first and the samplers behind them
(`Layout.names`), so each undoes the other as far as names can be told apart: a name is found at
the least location that has it.

Results:
* `getElem?_names`, `location?_eq`: what both look-ups say of the list of names.
* `location?_eq_some_iff`, `found_slot`: where a name is found, and what stands there.
* `slot?_eq_uniform_iff`, `slot?_eq_sampler_iff`: what stands at a location.
-/
namespace FrameGraph.Program

/-- The name that stands at a location. -/
def Slot.name : Slot → String
  | .uniform u => u.name
  | .sampler _ s => s.name

namespace Layout

/-! ## Names -/

/-- The names of all uniforms and samplers, in the order of their locations. -/
def names (l : Layout) : List String :=
  l.uniforms.map UniformSlot.name ++ l.samplers.map SamplerSlot.name

variable {l : Layout} {name : String} {k : Nat}

theorem length_names (l : Layout) : l.names.length = l.uniforms.length + l.samplers.length := by
  simp [names]

/-- At a location stands what has the name of its number. -/
theorem getElem?_names (l : Layout) (k : Nat) : l.names[k]? = (l.slot? ⟨k⟩).map Slot.name := by
  unfold names slot?
  cases hu : l.uniforms[k]? with
  | some u =>
    obtain ⟨hk, -⟩ := List.getElem?_eq_some_iff.1 hu
    rw [List.getElem?_append_left (by simpa using hk), List.getElem?_map, hu]
    rfl
  | none =>
    have hk := List.getElem?_eq_none_iff.1 hu
    rw [List.getElem?_append_right (by simpa using hk), List.length_map, List.getElem?_map,
      Option.map_map]
    rfl

/-- A name is looked up among all names. -/
theorem location?_eq (l : Layout) (name : String) :
    l.location? name = (l.names.findIdx? fun n => n = name).map Location.mk := by
  unfold location? names
  rw [List.findIdx?_append, List.findIdx?_map, List.findIdx?_map, List.length_map]
  simp only [Function.comp_def]
  cases l.uniforms.findIdx? fun u => u.name = name with
  | some i => rfl
  | none =>
    simp only [Option.none_or, Option.map_map, Function.comp_def, Nat.add_comm]

/-- The locations of a name. -/
def locationsOf (l : Layout) (name : String) : Set Nat :=
  {k | ∃ slot, l.slot? ⟨k⟩ = some slot ∧ slot.name = name}

theorem mem_locationsOf : k ∈ l.locationsOf name ↔ l.names[k]? = some name := by
  rw [getElem?_names, Option.map_eq_some_iff]
  rfl

/-- A name is found at the least location that has it. -/
theorem location?_eq_some_iff : l.location? name = some ⟨k⟩ ↔ IsLeast (l.locationsOf name) k := by
  have hindex : l.location? name = some ⟨k⟩ ↔ (l.names.findIdx? fun n => n = name) = some k := by
    rw [location?_eq, Option.map_eq_some_iff]
    exact ⟨fun ⟨i, hi, heq⟩ => by cases heq; exact hi, fun hi => ⟨k, hi, rfl⟩⟩
  rw [hindex, List.findIdx?_eq_some_iff_getElem]
  constructor
  · rintro ⟨hk, hname, hbefore⟩
    refine ⟨mem_locationsOf.2 ?_, fun j hj => ?_⟩
    · rw [List.getElem?_eq_getElem hk, of_decide_eq_true hname]
    · by_contra hlt
      obtain ⟨hj', heq⟩ := List.getElem?_eq_some_iff.1 (mem_locationsOf.1 hj)
      exact hbefore j (Nat.lt_of_not_le hlt) (decide_eq_true heq)
  · rintro ⟨hk, hleast⟩
    obtain ⟨hk', heq⟩ := List.getElem?_eq_some_iff.1 (mem_locationsOf.1 hk)
    refine ⟨hk', decide_eq_true heq, fun j hj hname => ?_⟩
    have hmem : j ∈ l.locationsOf name := mem_locationsOf.2 <| by
      rw [List.getElem?_eq_getElem (Nat.lt_trans hj hk'), of_decide_eq_true hname]
    exact absurd (hleast hmem) (Nat.not_le.2 hj)

/-- What has a name somewhere is found by it. -/
theorem exists_location? (hk : k ∈ l.locationsOf name) :
    ∃ least, l.location? name = some least ∧ IsLeast (l.locationsOf name) least.index := by
  cases hfound : l.location? name with
  | some least => exact ⟨least, rfl, location?_eq_some_iff.1 hfound⟩
  | none =>
    rw [location?_eq, Option.map_eq_none_iff, List.findIdx?_eq_none_iff] at hfound
    have hmem := List.mem_of_getElem? (mem_locationsOf.1 hk)
    exact absurd (decide_eq_true rfl) (Bool.eq_false_iff.1 (hfound name hmem))

/-! ## What stands at a location -/

variable {location : Location}

theorem slot?_eq_uniform_iff {u : UniformSlot} :
    l.slot? location = some (.uniform u) ↔ l.uniforms[location.index]? = some u := by
  unfold slot?
  cases l.uniforms[location.index]? with
  | some v => simp
  | none => simp

/-- Samplers are numbered behind the uniforms. -/
theorem slot?_eq_sampler_iff {i : Nat} {s : SamplerSlot} :
    l.slot? location = some (.sampler i s) ↔
      location.index = l.uniforms.length + i ∧ l.samplers[i]? = some s := by
  unfold slot?
  cases hu : l.uniforms[location.index]? with
  | some u =>
    obtain ⟨hlt, -⟩ := List.getElem?_eq_some_iff.1 hu
    simp only [Option.some.injEq, reduceCtorEq, false_iff, not_and]
    omega
  | none =>
    have hle := List.getElem?_eq_none_iff.1 hu
    simp only [Option.map_eq_some_iff, Slot.sampler.injEq]
    constructor
    · rintro ⟨t, ht, rfl, rfl⟩
      exact ⟨by omega, ht⟩
    · rintro ⟨hindex, hs⟩
      have hi : location.index - l.uniforms.length = i := by omega
      exact ⟨s, hi ▸ hs, hi, rfl⟩

theorem exists_uniform_iff :
    (∃ u, l.slot? location = some (.uniform u)) ↔ location.index < l.uniforms.length := by
  simp only [slot?_eq_uniform_iff]
  exact ⟨fun ⟨u, hu⟩ => (List.getElem?_eq_some_iff.1 hu).1,
    fun hlt => ⟨_, List.getElem?_eq_getElem hlt⟩⟩

/-- A name is found at a uniform if one has it, and otherwise at the first sampler with it. -/
theorem found_slot (h : l.location? name = some location) :
    ∃ slot, l.slot? location = some slot ∧ slot.name = name ∧
      ((∃ u ∈ l.uniforms, u.name = name) → ∃ u, slot = .uniform u) ∧
      ((¬ ∃ u ∈ l.uniforms, u.name = name) → ∃ i s, slot = .sampler i s ∧
        ∀ j < i, ∀ t, l.samplers[j]? = some t → t.name ≠ name) := by
  obtain ⟨⟨slot, hslot, hname⟩, hleast⟩ := location?_eq_some_iff.1 h
  refine ⟨slot, hslot, hname, ?_, fun hnone => ?_⟩
  · rintro ⟨u, hu, huname⟩
    obtain ⟨j, hj⟩ := List.mem_iff_getElem?.1 hu
    have hat : l.slot? ⟨j⟩ = some (.uniform u) := slot?_eq_uniform_iff.2 hj
    have hlt : location.index < l.uniforms.length :=
      Nat.lt_of_le_of_lt (hleast ⟨_, hat, huname⟩) (List.getElem?_eq_some_iff.1 hj).1
    obtain ⟨v, hv⟩ := exists_uniform_iff.2 hlt
    exact ⟨v, Option.some.inj (hslot.symm.trans hv)⟩
  · cases slot with
    | uniform u =>
      exact absurd ⟨u, List.mem_of_getElem? (slot?_eq_uniform_iff.1 hslot), hname⟩ hnone
    | sampler i s =>
      obtain ⟨hindex, -⟩ := slot?_eq_sampler_iff.1 hslot
      refine ⟨i, s, rfl, fun j hj t ht htname => ?_⟩
      have hat : l.slot? ⟨l.uniforms.length + j⟩ = some (.sampler j t) :=
        slot?_eq_sampler_iff.2 ⟨rfl, ht⟩
      have hle := hleast ⟨_, hat, htname⟩
      dsimp only at hindex
      omega

theorem isSome_slot?_iff :
    (l.slot? location).isSome ↔ location.index < l.uniforms.length + l.samplers.length := by
  have hnames := congrArg Option.isSome (l.getElem?_names location.index)
  rw [Option.isSome_map] at hnames
  rw [← hnames, ← length_names]
  simp

end Layout
end FrameGraph.Program
