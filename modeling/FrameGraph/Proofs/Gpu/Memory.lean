import Mathlib
import FrameGraph.Gpu.Device
import FrameGraph.Gpu.Recorder
import FrameGraph.Proofs.Program.Locations

/-!
# What a program keeps of its uniforms

Uniforms that are set stay set. A backend writes a value to cells of the program's memory:
the recording backend has one for each location, the device backend one for each byte of the
uniform buffer. Two memories that differ in some cells only (`Memory.Agree`) still do after
the same value is set in both, and no longer in the cells that it is written to.

Results:
* the instances for `RecordedProgram` and `DeviceProgram`.
* `written_append`: where values are written to that are set one after the other.
-/
namespace FrameGraph.Gpu

open Program (Layout Location)

class Memory (π : Type) where
  layout : π → Layout
  /-- How many samplers read a texture unit. -/
  samplers : π → Nat
  unit : π → Nat → UInt32
  /-- The texture unit that an integer stands for. -/
  unitOf : Int32 → UInt32
  /-- Takes a value at a location; `none` if it is refused. -/
  take : Location → UniformValue → π → Option π
  /-- Where the value is written to. -/
  cells : Location → UniformValue → π → Set Nat
  /-- Both have one layout, and differ at most in these cells and in texture units. -/
  Agree : Set Nat → π → π → Prop
  agree_refl : ∀ m : π, Agree ∅ m m
  agree_mono : ∀ {X Y : Set Nat} {m m' : π}, X ⊆ Y → Agree X m m' → Agree Y m m'
  agree_shape : ∀ {X : Set Nat} {m m' : π}, Agree X m m' →
    layout m = layout m' ∧ samplers m = samplers m'
  agree_take : ∀ {X : Set Nat} {m m' : π} (l : Location) (v : UniformValue), Agree X m m' →
    Agree (X \ cells l v m) ((take l v m).getD m) ((take l v m').getD m')
  agree_take_left : ∀ {X : Set Nat} {m m' : π} (l : Location) (v : UniformValue),
    Agree X m m' → Agree (X ∪ cells l v m) ((take l v m).getD m) m'
  take_shape : ∀ (l : Location) (v : UniformValue) (m : π),
    layout ((take l v m).getD m) = layout m ∧ samplers ((take l v m).getD m) = samplers m ∧
      ∀ l' v', cells l' v' ((take l v m).getD m) = cells l' v' m
  /-- Only an integer at the location of the sampler changes its unit. -/
  unit_take : ∀ (l : Location) (v : UniformValue) {m : π} {k : Nat}, k < samplers m →
    k < (layout m).samplers.length → unit ((take l v m).getD m) k =
      match v with
      | .int n => if l = ⟨(layout m).uniforms.length + k⟩ then unitOf n else unit m k
      | _ => unit m k
  unitOf_word : ∀ u : UInt32, unitOf u.toInt32 = u ∨ unitOf u.toInt32 = 0

/-! ## Layouts -/

section
variable {layout : Layout} {l : Location} {v : UniformValue} {k : Nat}

theorem slot?_sampler (hk : k < layout.samplers.length) :
    layout.slot? ⟨layout.uniforms.length + k⟩ = some (.sampler k layout.samplers[k]) :=
  Layout.slot?_eq_sampler_iff.2 ⟨rfl, List.getElem?_eq_getElem hk⟩

/-- A sampler takes integers. -/
theorem settable_sampler (hk : k < layout.samplers.length) (n : Int32) :
    settable layout ⟨layout.uniforms.length + k⟩ (.int n)
      = .ok (.sampler k layout.samplers[k]) := by
  simp only [settable, slot?_sampler hk]

/-- A sampler takes nothing else. -/
theorem int_of_settable_sampler (hk : k < layout.samplers.length) {slot : Program.Slot}
    (h : settable layout ⟨layout.uniforms.length + k⟩ v = .ok slot) : ∃ n, v = .int n := by
  cases v with
  | int n => exact ⟨n, rfl⟩
  | _ => simp [settable, slot?_sampler hk] at h

/-- A sampler's slot is at the sampler's location. -/
theorem location_of_settable {i : Nat} {s : Program.SamplerSlot}
    (h : settable layout l v = .ok (.sampler i s)) :
    l = ⟨layout.uniforms.length + i⟩ ∧ ∃ n, v = .int n := by
  have hslot : layout.slot? l = some (.sampler i s) ∧ ∃ n, v = .int n := by
    unfold settable at h
    split at h
    · next hs => cases h; exact ⟨hs, _, rfl⟩
    · cases h
    · cases h
    · cases h
  exact ⟨congrArg Location.mk (Layout.slot?_eq_sampler_iff.1 hslot.1).1, hslot.2⟩

end

/-! ## The recording backend -/

namespace RecordedProgram

def take (l : Location) (v : UniformValue) (m : RecordedProgram) : Option RecordedProgram :=
  match settable m.layout l v with
  | .ok _ => some { m with uniforms := m.uniforms.insert l.index v }
  | .error _ => none

/-- One cell for each location. -/
def cells (l : Location) (v : UniformValue) (m : RecordedProgram) : Set Nat :=
  {n | n = l.index ∧ ∃ slot, settable m.layout l v = .ok slot}

structure Agree (X : Set Nat) (m m' : RecordedProgram) : Prop where
  layout : m.layout = m'.layout
  uniforms : ∀ n ∉ X, m.uniforms.get? n = m'.uniforms.get? n

variable {X : Set Nat} {m m' : RecordedProgram} (l : Location) (v : UniformValue)

/-- A value is taken into its cell, or refused. -/
theorem take_cases (m : RecordedProgram) :
    (∃ slot, settable m.layout l v = .ok slot ∧ m.cells l v = {l.index} ∧
      (take l v m).getD m = { m with uniforms := m.uniforms.insert l.index v }) ∨
    ((∃ e, settable m.layout l v = .error e) ∧ m.cells l v = ∅ ∧ (take l v m).getD m = m) := by
  unfold take cells
  cases hs : settable m.layout l v with
  | ok slot => exact .inl ⟨slot, rfl, by simp, rfl⟩
  | error e => exact .inr ⟨⟨e, rfl⟩, by simp, rfl⟩

theorem agree_take (h : Agree X m m') :
    Agree (X \ m.cells l v) ((take l v m).getD m) ((take l v m').getD m') := by
  have hlayout := h.layout
  rcases take_cases l v m with ⟨slot, hs, hcells, hm⟩ | ⟨⟨e, hs⟩, hcells, hm⟩ <;>
    rcases take_cases l v m' with ⟨slot', hs', -, hm'⟩ | ⟨⟨e', hs'⟩, -, hm'⟩ <;>
    rw [hlayout, hs'] at hs <;> cases hs <;> rw [hcells, hm, hm']
  · refine ⟨hlayout, fun n hn => ?_⟩
    simp only [Dict.get?_insert]
    split
    · rfl
    · next hne => exact h.uniforms n fun hX => hn ⟨hX, hne⟩
  · rw [Set.sdiff_empty]
    exact h

theorem agree_take_left (h : Agree X m m') :
    Agree (X ∪ m.cells l v) ((take l v m).getD m) m' := by
  rcases take_cases l v m with ⟨slot, -, hcells, hm⟩ | ⟨-, hcells, hm⟩ <;> rw [hcells, hm]
  · refine ⟨h.layout, fun n hn => ?_⟩
    rw [Set.mem_union, not_or] at hn
    rw [Dict.get?_insert, if_neg (show n ≠ l.index from hn.2)]
    exact h.uniforms n hn.1
  · rw [Set.union_empty]
    exact h

theorem unit_take {k : Nat} (hk : k < m.layout.samplers.length) :
    ((take l v m).getD m).unit k =
      match v with
      | .int n => if l = ⟨m.layout.uniforms.length + k⟩ then n.toUInt32 else m.unit k
      | _ => m.unit k := by
  rcases take_cases l v m with ⟨slot, hs, -, hm⟩ | ⟨⟨e, hs⟩, -, hm⟩ <;> rw [hm]
  · by_cases hl : l = ⟨m.layout.uniforms.length + k⟩
    · subst hl
      obtain ⟨n, rfl⟩ := int_of_settable_sampler hk hs
      simp only [unit, Dict.get?_insert, if_true]
    · have hindex : m.layout.uniforms.length + k ≠ l.index := fun he => hl (by
        cases l
        exact congrArg Location.mk he.symm)
      have hkept : (RecordedProgram.mk m.layout (m.uniforms.insert l.index v)).unit k
          = m.unit k := by
        simp only [unit, Dict.get?_insert, if_neg hindex]
      rw [hkept]
      cases v <;> simp only [hl, if_false]
  · cases v with
    | int n =>
      have hl : l ≠ ⟨m.layout.uniforms.length + k⟩ := by
        rintro rfl
        rw [settable_sampler hk] at hs
        cases hs
      simp only [hl, if_false]
    | _ => rfl

end RecordedProgram

instance : Memory RecordedProgram where
  layout m := m.layout
  samplers m := m.layout.samplers.length
  unit m k := m.unit k
  unitOf n := n.toUInt32
  take := RecordedProgram.take
  cells := RecordedProgram.cells
  Agree := RecordedProgram.Agree
  agree_refl _ := ⟨rfl, fun _ _ => rfl⟩
  agree_mono hXY h := ⟨h.layout, fun n hn => h.uniforms n fun hX => hn (hXY hX)⟩
  agree_shape h := ⟨h.layout, congrArg (fun l => l.samplers.length) h.layout⟩
  agree_take l v h := RecordedProgram.agree_take l v h
  agree_take_left l v h := RecordedProgram.agree_take_left l v h
  take_shape l v m := by
    rcases RecordedProgram.take_cases l v m with ⟨_, -, -, hm⟩ | ⟨-, -, hm⟩ <;> rw [hm] <;>
      exact ⟨rfl, rfl, fun _ _ => rfl⟩
  unit_take l v _ _ hk _ := RecordedProgram.unit_take l v hk
  unitOf_word _ := .inl (UInt32.toUInt32_toInt32 _)

/-! ## The device backend -/

namespace DeviceProgram

def take (l : Location) (v : UniformValue) (m : DeviceProgram) : Option DeviceProgram :=
  match settable m.layout l v with
  | .ok slot => (Device.assign m l v slot).toOption
  | .error _ => none

/-- One cell for each byte of the uniform buffer. -/
def cells (l : Location) (v : UniformValue) (m : DeviceProgram) : Set Nat :=
  {n | ∃ u, settable m.layout l v = .ok (.uniform u) ∧
    u.offset.toNat + v.bytes.length ≤ m.data.length ∧
    u.offset.toNat ≤ n ∧ n < u.offset.toNat + v.bytes.length}

structure Agree (X : Set Nat) (m m' : DeviceProgram) : Prop where
  layout : m.layout = m'.layout
  length : m.data.length = m'.data.length
  units : m.units.length = m'.units.length
  data : ∀ n ∉ X, m.data[n]? = m'.data[n]?

variable {X : Set Nat} {m m' : DeviceProgram} (l : Location) (v : UniformValue)

theorem length_write {offset : Nat} {bytes : List UInt8}
    (h : offset + bytes.length ≤ m.data.length) :
    (m.write offset bytes).data.length = m.data.length := by
  simp only [write, List.length_append, List.length_take, List.length_drop]
  omega

/-- A write changes the bytes that it covers. -/
theorem getElem?_write {offset : Nat} {bytes : List UInt8}
    (h : offset + bytes.length ≤ m.data.length) (n : Nat) :
    (m.write offset bytes).data[n]? =
      if offset ≤ n ∧ n < offset + bytes.length then bytes[n - offset]? else m.data[n]? := by
  have htake : (m.data.take offset).length = offset := by
    rw [List.length_take]
    omega
  simp only [write]
  by_cases hbefore : n < offset
  · rw [if_neg (by omega), List.append_assoc, List.getElem?_append_left (by omega),
      List.getElem?_take_of_lt hbefore]
  · by_cases hin : n < offset + bytes.length
    · rw [if_pos (by omega), List.append_assoc, List.getElem?_append_right (by omega), htake,
        List.getElem?_append_left (by omega)]
    · rw [if_neg (by omega), List.getElem?_append_right
        (by rw [List.length_append]; omega), List.length_append, htake, List.getElem?_drop]
      congr 1
      omega

/-- A value is written to the buffer, or changes the unit of a sampler, or is refused. -/
theorem take_cases (m : DeviceProgram) :
    (∃ u, settable m.layout l v = .ok (.uniform u) ∧
      u.offset.toNat + v.bytes.length ≤ m.data.length ∧
      m.cells l v = {n | u.offset.toNat ≤ n ∧ n < u.offset.toNat + v.bytes.length} ∧
      (take l v m).getD m = m.write u.offset.toNat v.bytes) ∨
    (∃ i s n, settable m.layout l v = .ok (.sampler i s) ∧ v = .int n ∧ m.cells l v = ∅ ∧
      (take l v m).getD m = m.setUnit i n) ∨
    ((∀ i s, settable m.layout l v ≠ .ok (.sampler i s)) ∧
      (∀ u, settable m.layout l v = .ok (.uniform u) →
        m.data.length < u.offset.toNat + v.bytes.length) ∧
      m.cells l v = ∅ ∧ (take l v m).getD m = m) := by
  unfold take cells
  cases hs : settable m.layout l v with
  | error e =>
    exact .inr (.inr ⟨by simp, by simp, by simp, rfl⟩)
  | ok slot =>
    cases slot with
    | uniform u =>
      by_cases hfits : u.offset.toNat + v.bytes.length ≤ m.data.length
      · refine .inl ⟨u, rfl, hfits, ?_, ?_⟩
        · ext n
          simp [hfits]
        · simp only [Device.assign, if_neg (Nat.not_lt.2 hfits)]
          rfl
      · refine .inr (.inr ⟨by simp, fun u' h => ?_, ?_, ?_⟩)
        · cases h
          exact Nat.not_le.1 hfits
        · ext n
          simp [hfits]
        · simp only [Device.assign, if_pos (Nat.not_le.1 hfits)]
          rfl
    | sampler i s =>
      obtain ⟨-, n, rfl⟩ := location_of_settable hs
      exact .inr (.inl ⟨i, s, n, rfl, rfl, by simp, rfl⟩)

theorem agree_take (h : Agree X m m') :
    Agree (X \ m.cells l v) ((take l v m).getD m) ((take l v m').getD m') := by
  have hlayout := h.layout
  have hlength := h.length
  rcases take_cases l v m with ⟨u, hs, hfits, hcells, hm⟩ | ⟨i, s, n, hs, rfl, hcells, hm⟩ |
    ⟨hno, hover, hcells, hm⟩ <;> rw [hcells, hm]
  · have hm' : (take l v m').getD m' = m'.write u.offset.toNat v.bytes := by
      rcases take_cases l v m' with ⟨u', hs', -, -, hm'⟩ | ⟨i, s, n, hs', -⟩ | ⟨-, hover', -⟩
      · rw [← hlayout, hs] at hs'
        cases hs'
        exact hm'
      · rw [← hlayout, hs] at hs'
        cases hs'
      · have := hover' u (hlayout ▸ hs)
        omega
    have hfits' : u.offset.toNat + v.bytes.length ≤ m'.data.length := hlength ▸ hfits
    rw [hm']
    refine ⟨hlayout, ?_, h.units, fun n hn => ?_⟩
    · rw [length_write hfits, length_write hfits', hlength]
    · rw [getElem?_write hfits, getElem?_write hfits']
      split
      · rfl
      · next hout => exact h.data n fun hX => hn ⟨hX, hout⟩
  · have hm' : (take l (.int n) m').getD m' = m'.setUnit i n := by
      rcases take_cases l (.int n) m' with ⟨u', hs', -⟩ | ⟨i', s', n', hs', hn', -, hm'⟩ |
        ⟨hno', -⟩
      · rw [← hlayout, hs] at hs'
        cases hs'
      · rw [← hlayout, hs] at hs'
        cases hs'
        cases hn'
        exact hm'
      · exact absurd (hlayout ▸ hs) (hno' i s)
    rw [hm', Set.sdiff_empty]
    refine ⟨hlayout, hlength, ?_, h.data⟩
    simp only [setUnit, List.length_set, h.units]
  · have hm' : (take l v m').getD m' = m' := by
      rcases take_cases l v m' with ⟨u', hs', hfits', -⟩ | ⟨i', s', n', hs', -⟩ | ⟨-, -, -, hm'⟩
      · have := hover u' (hlayout ▸ hs')
        omega
      · exact absurd (hlayout ▸ hs') (hno i' s')
      · exact hm'
    rw [hm', Set.sdiff_empty]
    exact h

theorem agree_take_left (h : Agree X m m') :
    Agree (X ∪ m.cells l v) ((take l v m).getD m) m' := by
  rcases take_cases l v m with ⟨u, -, hfits, hcells, hm⟩ | ⟨i, s, n, -, -, hcells, hm⟩ |
    ⟨-, -, hcells, hm⟩ <;> rw [hcells, hm]
  · refine ⟨h.layout, (length_write hfits).trans h.length, h.units, fun n hn => ?_⟩
    rw [Set.mem_union, not_or] at hn
    rw [getElem?_write hfits, if_neg (show ¬ (_ ∧ _) from hn.2)]
    exact h.data n hn.1
  · rw [Set.union_empty]
    refine ⟨h.layout, h.length, ?_, h.data⟩
    rw [← h.units]
    simp only [setUnit, List.length_set]
  · rw [Set.union_empty]
    exact h

theorem take_shape (m : DeviceProgram) :
    ((take l v m).getD m).layout = m.layout ∧
      ((take l v m).getD m).units.length = m.units.length ∧
      ∀ l' v', ((take l v m).getD m).cells l' v' = m.cells l' v' := by
  rcases take_cases l v m with ⟨u, -, hfits, -, hm⟩ | ⟨i, s, n, -, -, -, hm⟩ | ⟨-, -, -, hm⟩ <;>
    rw [hm]
  · refine ⟨rfl, rfl, fun l' v' => ?_⟩
    simp only [cells, length_write hfits]
    rfl
  · refine ⟨rfl, ?_, fun _ _ => rfl⟩
    simp only [setUnit, List.length_set]
  · exact ⟨rfl, rfl, fun _ _ => rfl⟩

/-- The texture unit that a sampler reads. -/
def unit (m : DeviceProgram) (k : Nat) : UInt32 := m.units.getD k 0

theorem unit_take {k : Nat} (hk : k < m.units.length) (hsampler : k < m.layout.samplers.length) :
    unit ((take l v m).getD m) k =
      match v with
      | .int n =>
        if l = ⟨m.layout.uniforms.length + k⟩ then UInt32.ofNat n.toInt.toNat else m.unit k
      | _ => m.unit k := by
  rcases take_cases l v m with ⟨u, hs, -, -, hm⟩ | ⟨i, s, n, hs, rfl, -, hm⟩ |
    ⟨hno, -, -, hm⟩ <;> rw [hm]
  · -- a uniform is at another location
    have hl : ∀ n, v = .int n → l ≠ ⟨m.layout.uniforms.length + k⟩ := by
      rintro n rfl rfl
      rw [settable_sampler hsampler] at hs
      cases hs
    cases v with
    | int n =>
      simp only [hl n rfl, if_false]
      rfl
    | _ => rfl
  · obtain ⟨rfl, -⟩ := location_of_settable hs
    by_cases hi : i = k
    · subst hi
      simp only [setUnit, unit, List.getD_eq_getElem?_getD, List.getElem?_set_self hk, if_true]
      rfl
    · have hne : ¬ (Location.mk (m.layout.uniforms.length + i)
          = ⟨m.layout.uniforms.length + k⟩) := by
        intro he
        have := Location.mk.inj he
        omega
      simp only [setUnit, unit, List.getD_eq_getElem?_getD, List.getElem?_set_ne hi, hne, if_false]
  · cases v with
    | int n =>
      have hl : l ≠ ⟨m.layout.uniforms.length + k⟩ := by
        rintro rfl
        exact hno k _ (settable_sampler hsampler n)
      simp only [hl, if_false]
    | _ => rfl

end DeviceProgram

instance : Memory DeviceProgram where
  layout m := m.layout
  samplers m := m.units.length
  unit m k := m.unit k
  unitOf n := UInt32.ofNat n.toInt.toNat
  take := DeviceProgram.take
  cells := DeviceProgram.cells
  Agree := DeviceProgram.Agree
  agree_refl _ := ⟨rfl, rfl, rfl, fun _ _ => rfl⟩
  agree_mono hXY h := ⟨h.layout, h.length, h.units, fun n hn => h.data n fun hX => hn (hXY hX)⟩
  agree_shape h := ⟨h.layout, h.units⟩
  agree_take l v h := DeviceProgram.agree_take l v h
  agree_take_left l v h := DeviceProgram.agree_take_left l v h
  take_shape l v m := DeviceProgram.take_shape l v m
  unit_take l v _ _ hk hsampler := DeviceProgram.unit_take l v hk hsampler
  unitOf_word u := by
    -- the upper half of the words are the negative integers
    have hint : u.toInt32.toInt = u.toBitVec.toInt := rfl
    rw [hint, BitVec.toInt_eq_toNat_cond]
    split
    · exact .inl (by simp)
    · refine .inr ?_
      have hlt : u.toBitVec.toNat < 2 ^ 32 := u.toBitVec.isLt
      rw [show ((u.toBitVec.toNat : Int) - (2 ^ 32 : Nat)).toNat = 0 by omega]
      rfl

/-! ## Values set one after the other -/

namespace Memory

variable {π : Type} [Memory π] {m m' m'' : π}

/-- What setting values does not change. -/
structure Like (m m' : π) : Prop where
  layout : layout m = layout m'
  samplers : samplers m = samplers m'
  cells : ∀ l v, cells l v m = cells l v m'

theorem Like.refl (m : π) : Like m m := ⟨rfl, rfl, fun _ _ => rfl⟩

theorem Like.take (h : Like m m') (l : Location) (v : UniformValue) :
    Like ((take l v m).getD m) m' := by
  obtain ⟨hlayout, hsamplers, hcells⟩ := take_shape l v m
  exact ⟨hlayout.trans h.layout, hsamplers.trans h.samplers,
    fun l' v' => (hcells l' v').trans (h.cells l' v')⟩

/-- Where some values are written to. -/
def written (m : π) (as : List (Location × UniformValue)) : Set Nat :=
  {n | ∃ a ∈ as, n ∈ cells a.1 a.2 m}

@[simp] theorem written_nil (m : π) : written m [] = ∅ := by
  ext n
  simp [written]

@[simp] theorem written_cons (m : π) (a : Location × UniformValue)
    (as : List (Location × UniformValue)) :
    written m (a :: as) = cells a.1 a.2 m ∪ written m as := by
  ext n
  simp [written]

theorem written_append (m : π) (as as' : List (Location × UniformValue)) :
    written m (as ++ as') = written m as ∪ written m as' := by
  ext n
  simp [written, or_and_right, exists_or]

end Memory

end FrameGraph.Gpu
