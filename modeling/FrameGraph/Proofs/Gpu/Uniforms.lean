import FrameGraph.Proofs.Gpu.Simulation
import FrameGraph.Proofs.Gpu.Staged

/-!
# What the uniform buffer holds

The device backend writes a value into the uniform buffer from the offset of its member on,
as long as it ends within the block. Nothing stops it at the next member. So a member holds
the value that it was given last, until a longer value is set at a member before it. The
recording backend has one entry for each location, and there no value gets in the way of
another.

Results:
* `Device.setEach_run`: a byte of the buffer is that of the last value written over it.
* `Recorder.setEach_run`: the entry of a location is the last value given to it.
* `uniform_intact_iff`: which members still hold what they were given.
* `long_value_runs_over`: a value that overwrites the next member.
-/
namespace FrameGraph.Gpu

open Program (Layout Location)

/-- A value for a location. -/
structure Setting where
  location : Location
  value : UniformValue
  deriving DecidableEq

/-- Sets values one after the other, and returns those that are accepted. -/
def setEach {σ : Type} [Backend σ] : List Setting → StateM σ (List Setting)
  | [] => return []
  | c :: cs => do
    let answer ← setUniform c.location c.value
    let accepted ← setEach cs
    match answer with
    | .ok () => return c :: accepted
    | .error _ => return accepted

/-- The byte that a value for a location has at a place in the uniform buffer. -/
def Setting.byte? (layout : Layout) (n : Nat) (c : Setting) : Option UInt8 :=
  match layout.slot? c.location with
  | some (.uniform u) => if u.offset.toNat ≤ n then c.value.bytes[n - u.offset.toNat]? else none
  | _ => none

/-- The byte of the last value that has one there. -/
def lastByte? (layout : Layout) (n : Nat) (cs : List Setting) : Option UInt8 :=
  cs.reverse.findSome? (Setting.byte? layout n)

def Setting.value? (l : Location) (c : Setting) : Option UniformValue :=
  if c.location = l then some c.value else none

/-- The last value for a location. -/
def lastValue? (l : Location) (cs : List Setting) : Option UniformValue :=
  cs.reverse.findSome? (Setting.value? l)

/-- Ends before the next member of the uniform block begins. -/
def Setting.Fits (layout : Layout) (c : Setting) : Prop :=
  ∀ u ∈ layout.uniforms[c.location.index]?, ∀ u' ∈ layout.uniforms, u.offset < u'.offset →
    u.offset.toNat + c.value.bytes.length ≤ u'.offset.toNat

instance (layout : Layout) (c : Setting) : Decidable (c.Fits layout) :=
  inferInstanceAs (Decidable (∀ _ ∈ _, _))

section
variable {layout : Layout} {l : Location} {v : UniformValue} {n : Nat}

theorem lastByte?_append (cs cs' : List Setting) :
    lastByte? layout n (cs ++ cs') = (lastByte? layout n cs').or (lastByte? layout n cs) := by
  simp [lastByte?, List.findSome?_append]

theorem lastByte?_cons (c : Setting) (cs : List Setting) :
    lastByte? layout n (c :: cs) = (lastByte? layout n cs).or (c.byte? layout n) := by
  rw [← List.singleton_append, lastByte?_append]
  simp [lastByte?]

theorem lastValue?_cons (c : Setting) (cs : List Setting) :
    lastValue? l (c :: cs) = (lastValue? l cs).or (c.value? l) := by
  simp [lastValue?, List.findSome?_append]

theorem slot?_of_settable {slot : Program.Slot} (h : settable layout l v = .ok slot) :
    layout.slot? l = some slot := by
  unfold settable at h
  split at h
  · next hs => cases h; exact hs
  · cases h
  · next hs => cases h; exact hs
  · cases h

theorem settable_of_uniform {u : Program.UniformSlot} (h : layout.slot? l = some (.uniform u))
    (v : UniformValue) : settable layout l v = .ok (.uniform u) := by
  simp only [settable, h]

/-- A uniform's slot is at the uniform's location. -/
theorem getElem?_of_slot? {u : Program.UniformSlot} (h : layout.slot? l = some (.uniform u)) :
    layout.uniforms[l.index]? = some u := by
  unfold Layout.slot? at h
  split at h
  · next hs => cases h; exact hs
  · obtain ⟨s, -, hs⟩ := Option.map_eq_some_iff.1 h
    cases hs

end

/-! ## The device backend -/

namespace DeviceProgram

variable {m m' : DeviceProgram} {l : Location} {v : UniformValue}

/-- A value that is taken fits into the block, and is written over what was there. -/
theorem take_eq_some (h : take l v m = some m') :
    m'.layout = m.layout ∧ m'.data.length = m.data.length ∧
      (∀ u, m.layout.slot? l = some (.uniform u) →
        u.offset.toNat + v.bytes.length ≤ m.data.length) ∧
      ∀ n, m'.data[n]? = (Setting.byte? m.layout n ⟨l, v⟩).or m.data[n]? := by
  have hget : (take l v m).getD m = m' := by rw [h]; rfl
  rcases take_cases l v m with ⟨u, hs, hfits, -, hm⟩ | ⟨i, s, k, hs, -, -, hm⟩ |
    ⟨hsampler, hover, -, -⟩
  · have hslot := slot?_of_settable hs
    rw [hm] at hget
    subst hget
    refine ⟨rfl, length_write hfits, fun u' hu' => ?_, fun n => ?_⟩
    · cases hslot.symm.trans hu'
      exact hfits
    · rw [getElem?_write hfits]
      simp only [Setting.byte?, hslot]
      by_cases hfrom : u.offset.toNat ≤ n
      · by_cases hto : n < u.offset.toNat + v.bytes.length
        · have hbyte : v.bytes[n - u.offset.toNat]? = some v.bytes[n - u.offset.toNat] :=
            List.getElem?_eq_getElem (by omega)
          simp [hfrom, hto, hbyte]
        · have hbyte : v.bytes[n - u.offset.toNat]? = none :=
            List.getElem?_eq_none (by omega)
          simp [hfrom, hto, hbyte]
      · simp [hfrom]
  · have hslot := slot?_of_settable hs
    rw [hm] at hget
    subst hget
    refine ⟨rfl, rfl, fun u hu => ?_, fun n => ?_⟩
    · cases hslot.symm.trans hu
    · simp [Setting.byte?, hslot, setUnit]
  · unfold take at h
    cases hs : settable m.layout l v with
    | error e => rw [hs] at h; cases h
    | ok slot =>
      cases slot with
      | uniform u =>
        simp only [hs, Device.assign, if_pos (hover u hs)] at h
        cases h
      | sampler i s => exact absurd hs (hsampler i s)

end DeviceProgram

namespace Objects

variable {π : Type} {o : Objects π} {p : ProgramId} {m : π}

theorem inUse_setProgram (h : o.inUse = .ok (p, m)) (m' : π) :
    (o.setProgram p m').inUse = .ok (p, m') := by
  obtain ⟨hcurrent, -⟩ := inUse_ok h
  refine inUse_eq_ok hcurrent ?_
  rw [setProgram, Dict.get?_insert, if_pos rfl]

end Objects

namespace Device

variable {fe : Program.FrontEnd} {d : Device fe} {p : ProgramId} {m : DeviceProgram}

/-- A value for the program in use is accepted exactly if the program takes it. -/
theorem setUniform_take (h : d.objects.inUse = .ok (p, m)) (l : Location) (v : UniformValue) :
    (∃ m', m.take l v = some m' ∧
      Gpu.setUniform l v d = (.ok (), { d with objects := d.objects.setProgram p m' })) ∨
    ∃ e, Gpu.setUniform l v d = (.error e, d) := by
  have hrun : Gpu.setUniform l v d
      = attempt (fun d : Device fe => d.update (setUniform l v)) d := rfl
  cases hs : settable m.layout l v with
  | error e =>
    have hstep : setUniform l v d.objects = .error e := by
      simp only [setUniform, h, bind, Except.bind, hs]
    exact .inr ⟨e, hrun.trans (attempt_error hstep)⟩
  | ok slot =>
    cases ha : assign m l v slot with
    | error e =>
      have hstep : setUniform l v d.objects = .error e := by
        simp only [setUniform, h, bind, Except.bind, hs, ha]
      exact .inr ⟨e, hrun.trans (attempt_error hstep)⟩
    | ok m' =>
      have hstep : setUniform l v d.objects = .ok (d.objects.setProgram p m') := by
        simp only [setUniform, h, bind, Except.bind, hs, ha]
        rfl
      refine .inl ⟨m', ?_, hrun.trans (attempt_ok hstep)⟩
      simp only [DeviceProgram.take, hs, ha]
      rfl

/-- Every byte is that of the last accepted value that has one there, or as before. -/
theorem setEach_run (cs : List Setting) (h : d.objects.inUse = .ok (p, m)) :
    ∃ m', (setEach cs d).2.objects.inUse = .ok (p, m') ∧
      m'.layout = m.layout ∧ m'.data.length = m.data.length ∧
      (∀ c ∈ (setEach cs d).1, ∀ u, m.layout.slot? c.location = some (.uniform u) →
        u.offset.toNat + c.value.bytes.length ≤ m.data.length) ∧
      ∀ n, m'.data[n]? = (lastByte? m.layout n (setEach cs d).1).or m.data[n]? := by
  induction cs generalizing d m with
  | nil => exact ⟨m, h, rfl, rfl, nofun, fun n => rfl⟩
  | cons c cs ih =>
    rcases setUniform_take h c.location c.value with ⟨m₁, htake, hset⟩ | ⟨e, hset⟩
    · obtain ⟨hlayout, hlength, hfits, hdata⟩ := DeviceProgram.take_eq_some htake
      obtain ⟨m', hin, hlayout', hlength', hfits', hdata'⟩ :=
        ih (d := { d with objects := d.objects.setProgram p m₁ }) (Objects.inUse_setProgram h m₁)
      simp only [setEach, run_bind, hset, run_pure]
      refine ⟨m', hin, hlayout'.trans hlayout, hlength'.trans hlength, ?_, fun n => ?_⟩
      · rw [List.forall_mem_cons]
        exact ⟨hfits, hlayout ▸ hlength ▸ hfits'⟩
      · rw [hdata', hdata, hlayout, lastByte?_cons, Option.or_assoc]
    · simp only [setEach, run_bind, hset, run_pure]
      exact ih h

end Device

/-! ## The recording backend -/

namespace Recorder

variable {fe : Program.FrontEnd} {r : Recorder fe} {p : ProgramId} {m : RecordedProgram}

/-- A value for a uniform of the program in use is noted. -/
theorem setUniform_noted (h : r.objects.inUse = .ok (p, m)) (c : Setting) :
    ∃ m', (Gpu.setUniform c.location c.value r).2.objects.inUse = .ok (p, m') ∧
      m'.layout = m.layout ∧
      ∀ (l : Location) (u : Program.UniformSlot), m.layout.slot? l = some (.uniform u) →
        m'.uniforms.get? l.index = (c.value? l).or (m.uniforms.get? l.index) := by
  obtain ⟨hcurrent, hm⟩ := Objects.inUse_ok h
  have hset : (Gpu.setUniform c.location c.value r).2.objects = r.objects.put c.location c.value :=
    (Staged.sets c.location c.value (b := r) trivial).1
  have hin : (r.objects.put c.location c.value).inUse
      = .ok (p, (m.take c.location c.value).getD m) := by
    refine Objects.inUse_eq_ok ?_ ?_
    · rw [Objects.put_eq]
      exact hcurrent
    · rw [Objects.get?_put c.location c.value hcurrent hm, if_pos rfl]
      rfl
  refine ⟨_, hset ▸ hin, ?_⟩
  rcases RecordedProgram.take_cases c.location c.value m with ⟨_, -, -, htake⟩ | ⟨⟨e, he⟩, -, htake⟩
  · rw [htake]
    refine ⟨rfl, fun l u _ => ?_⟩
    rw [Dict.get?_insert, Setting.value?]
    by_cases hl : c.location = l
    · rw [if_pos hl, if_pos (congrArg Location.index hl.symm)]
      rfl
    · rw [if_neg hl, if_neg fun hindex => hl (congrArg Location.mk hindex.symm)]
      rfl
  · rw [htake]
    refine ⟨rfl, fun l u hl => ?_⟩
    -- a uniform takes every value, so this one is for another location
    have hne : c.location ≠ l := by
      rintro rfl
      cases he.symm.trans (settable_of_uniform hl c.value)
    rw [Setting.value?, if_neg hne]
    rfl

/-- The entry of a uniform is its last value, or as before. -/
theorem setEach_run (cs : List Setting) (h : r.objects.inUse = .ok (p, m)) :
    ∃ m', (setEach cs r).2.objects.inUse = .ok (p, m') ∧ m'.layout = m.layout ∧
      ∀ (l : Location) (u : Program.UniformSlot), m.layout.slot? l = some (.uniform u) →
        m'.uniforms.get? l.index = (lastValue? l cs).or (m.uniforms.get? l.index) := by
  induction cs generalizing r m with
  | nil => exact ⟨m, h, rfl, fun _ _ _ => rfl⟩
  | cons c cs ih =>
    obtain ⟨m₁, hin, hlayout, hnoted⟩ := setUniform_noted h c
    obtain ⟨m', hin', hlayout', hnoted'⟩ := ih hin
    have hrun : (setEach (c :: cs) r).2
        = (setEach cs (Gpu.setUniform c.location c.value r).2).2 := by
      simp only [setEach, run_bind]
      cases (Gpu.setUniform c.location c.value r).1 <;> rfl
    refine ⟨m', hrun ▸ hin', hlayout'.trans hlayout, fun l u hl => ?_⟩
    rw [hnoted' l u (hlayout ▸ hl), hnoted l u hl, lastValue?_cons, Option.or_assoc]

end Recorder

/-! ## What is still there -/

section
variable {layout : Layout} {l : Location} {u : Program.UniformSlot} {v : UniformValue}

/-- A value is where it was written if what was written over it since has the same bytes. -/
theorem bytes_eq_iff {data : List UInt8} {before after : List Setting}
    (hslot : layout.slot? l = some (.uniform u))
    (hfits : u.offset.toNat + v.bytes.length ≤ data.length)
    (hdata : ∀ n < data.length,
      data[n]? = (lastByte? layout n (before ++ ⟨l, v⟩ :: after)).or (some 0)) :
    (data.drop u.offset.toNat).take v.bytes.length = v.bytes ↔
      ∀ i < v.bytes.length, ∀ b, lastByte? layout (u.offset.toNat + i) after = some b →
        v.bytes[i]? = some b := by
  have hbyte : ∀ i < v.bytes.length, data[u.offset.toNat + i]?
      = (lastByte? layout (u.offset.toNat + i) after).or v.bytes[i]? := fun i hi => by
    have hset : Setting.byte? layout (u.offset.toNat + i) ⟨l, v⟩ = v.bytes[i]? := by
      simp [Setting.byte?, hslot]
    rw [hdata _ (by omega), lastByte?_append, lastByte?_cons, hset, List.getElem?_eq_getElem hi]
    cases lastByte? layout (u.offset.toNat + i) after <;> rfl
  have hlength : ((data.drop u.offset.toNat).take v.bytes.length).length = v.bytes.length := by
    rw [List.length_take, List.length_drop]
    omega
  have hget : ∀ i < v.bytes.length, ((data.drop u.offset.toNat).take v.bytes.length)[i]?
      = data[u.offset.toNat + i]? := fun i hi => by
    rw [List.getElem?_take_of_lt hi, List.getElem?_drop]
  constructor
  · intro heq i hi b hb
    rw [← heq, hget i hi, hbyte i hi, hb]
    rfl
  · intro hsame
    refine List.ext_getElem? fun i => ?_
    by_cases hi : i < v.bytes.length
    · rw [hget i hi, hbyte i hi]
      cases hb : lastByte? layout (u.offset.toNat + i) after with
      | none => rfl
      | some b => exact (hsame i hi b hb).symm
    · rw [List.getElem?_eq_none (by omega), List.getElem?_eq_none (by omega)]

/-- Values that fit leave each other alone. -/
theorem byte?_eq_none {c : Setting} {i : Nat}
    (hascending : layout.uniforms.Pairwise fun u u' => u.offset < u'.offset)
    (hslot : layout.slot? l = some (.uniform u)) (hi : i < v.bytes.length)
    (hv : Setting.Fits layout ⟨l, v⟩) (hc : c.Fits layout) (hne : c.location ≠ l) :
    c.byte? layout (u.offset.toNat + i) = none := by
  unfold Setting.byte?
  split
  · next u' hslot' =>
    have hget := getElem?_of_slot? hslot
    have hget' := getElem?_of_slot? hslot'
    obtain ⟨hlt, rfl⟩ := List.getElem?_eq_some_iff.1 hget
    obtain ⟨hlt', rfl⟩ := List.getElem?_eq_some_iff.1 hget'
    have hindex : c.location.index ≠ l.index := fun he =>
      hne (congrArg Location.mk he)
    -- one of the two members is before the other
    rcases Nat.lt_or_gt_of_ne hindex with hbefore | hbehind
    · have hoffset := List.pairwise_iff_getElem.1 hascending _ _ hlt' hlt hbefore
      have hend := hc _ hget' _ (List.getElem_mem hlt) hoffset
      rw [if_pos (by omega), List.getElem?_eq_none (by omega)]
    · have hoffset := List.pairwise_iff_getElem.1 hascending _ _ hlt hlt' hbehind
      have hend := hv _ hget _ (List.getElem_mem hlt') hoffset
      exact if_neg (by dsimp only at hend; omega)
  · rfl

theorem lastByte?_eq_none {after : List Setting} {i : Nat}
    (hascending : layout.uniforms.Pairwise fun u u' => u.offset < u'.offset)
    (hslot : layout.slot? l = some (.uniform u)) (hi : i < v.bytes.length)
    (hv : Setting.Fits layout ⟨l, v⟩) (hafter : ∀ c ∈ after, c.Fits layout)
    (hlast : lastValue? l after = none) :
    lastByte? layout (u.offset.toNat + i) after = none := by
  refine List.findSome?_eq_none_iff.2 fun c hc => ?_
  have hne : c.location ≠ l := fun hl => by
    have := List.findSome?_eq_none_iff.1 hlast c hc
    simp [Setting.value?, hl] at this
  exact byte?_eq_none hascending hslot hi hv (hafter c (List.mem_reverse.1 hc)) hne

end

section
variable {fe : Program.FrontEnd} {source : String} {p : ProgramId}

theorem Device.inUse_compiled {d₀ d : Device fe}
    (h : Gpu.compileProgram source d₀ = (.ok p, d)) :
    ∃ layout, Program.compile fe source = .ok layout ∧
      (Gpu.useProgram p d).2.objects.inUse = .ok (p, .ofLayout layout) := by
  have hrun : Gpu.compileProgram source d₀ = compileProgram source d₀ := rfl
  rw [hrun, compileProgram] at h
  cases hcompile : Program.compile fe source with
  | error e => rw [hcompile] at h; cases h
  | ok layout =>
    rw [hcompile] at h
    have hget : d.objects.programs.get? p = some (.ofLayout layout) := by
      cases h
      exact layout?_addProgram d₀.objects _
    have huse : Gpu.useProgram p d
        = attempt (fun d : Device fe => d.update fun o => o.useProgram p) d := rfl
    refine ⟨layout, rfl, ?_⟩
    rw [huse, attempt_ok (Objects.useProgram_of_some hget)]
    exact Objects.inUse_eq_ok rfl hget

theorem Recorder.inUse_compiled {r₀ r : Recorder fe}
    (h : Gpu.compileProgram source r₀ = (.ok p, r)) :
    ∃ layout, Program.compile fe source = .ok layout ∧
      (Gpu.useProgram p r).2.objects.inUse = .ok (p, { layout }) := by
  have hrun : Gpu.compileProgram source r₀ = compileProgram source r₀ := rfl
  rw [hrun, compileProgram] at h
  cases hcompile : Program.compile fe source with
  | error e => rw [hcompile] at h; cases h
  | ok layout =>
    rw [hcompile] at h
    have hget : r.objects.programs.get? p = some { layout } := by
      cases h
      exact layout?_addProgram r₀.objects _
    have huse : Gpu.useProgram p r
        = attempt (fun r : Recorder fe => r.update fun o => o.useProgram p) r := rfl
    refine ⟨layout, rfl, ?_⟩
    rw [huse, attempt_ok (Objects.useProgram_of_some hget)]
    exact Objects.inUse_eq_ok rfl hget

end

/-- Any values are set at any locations of one program, on the device backend and on the
recording backend. The recorder notes for every uniform the value that was set last. On the
device a value `v` that was accepted for the uniform `u`, and is the last one accepted for it,
is still in the uniform buffer exactly if the values accepted since then have the same bytes
where they reach into it. If the members of the block follow one another and no value that
was accepted runs into the next member, then it is there. -/
theorem uniform_intact_iff {fe : Program.FrontEnd} {source : String} {p q : ProgramId}
    {d₀ d : Device fe} {r₀ r : Recorder fe} (hd : compileProgram source d₀ = (.ok p, d))
    (hr : compileProgram source r₀ = (.ok q, r)) (cs : List Setting) :
    let run := setEach cs (useProgram p d).2
    let noted := setEach cs (useProgram q r).2
    ∃ layout m m', Program.compile fe source = .ok layout ∧
      run.2.objects.inUse = .ok (p, m) ∧ m.layout = layout ∧
      noted.2.objects.inUse = .ok (q, m') ∧ m'.layout = layout ∧
      ∀ (l : Location) (u : Program.UniformSlot), layout.slot? l = some (.uniform u) →
        m'.uniforms.get? l.index = lastValue? l cs ∧
        ∀ before v after, run.1 = before ++ ⟨l, v⟩ :: after → lastValue? l after = none →
          ((m.data.drop u.offset.toNat).take v.bytes.length = v.bytes ↔
            ∀ i < v.bytes.length, ∀ b, lastByte? layout (u.offset.toNat + i) after = some b →
              v.bytes[i]? = some b) ∧
          (layout.uniforms.Pairwise (fun u u' => u.offset < u'.offset) →
            (∀ c ∈ run.1, c.Fits layout) →
            (m.data.drop u.offset.toNat).take v.bytes.length = v.bytes) := by
  intro run noted
  obtain ⟨layout, hlayout, hin⟩ := Device.inUse_compiled hd
  obtain ⟨layout', hlayout', hin'⟩ := Recorder.inUse_compiled hr
  cases hlayout.symm.trans hlayout'
  obtain ⟨m, hm, hmlayout, hlength, hfits, hdata⟩ := Device.setEach_run cs hin
  obtain ⟨m', hm', hmlayout', hnoted⟩ := Recorder.setEach_run cs hin'
  refine ⟨layout, m, m', hlayout, hm, hmlayout, hm', hmlayout', fun l u hslot => ⟨?_, ?_⟩⟩
  · exact (hnoted l u hslot).trans Option.or_none
  · intro before v after hrun hlast
    have hmem : ⟨l, v⟩ ∈ run.1 := hrun ▸ List.mem_append_right _ List.mem_cons_self
    have hzero : ∀ n < m.data.length, m.data[n]?
        = (lastByte? layout n (before ++ ⟨l, v⟩ :: after)).or (some 0) := fun n hn => by
      rw [hdata n, ← hrun]
      have hold : (DeviceProgram.ofLayout layout).data[n]? = some 0 := by
        rw [List.getElem?_eq_getElem (hlength ▸ hn)]
        exact congrArg some (List.getElem_replicate ..)
      rw [hold]
      rfl
    have hend := hfits _ hmem u hslot
    rw [← hlength] at hend
    have hiff := bytes_eq_iff hslot hend hzero
    refine ⟨hiff, fun hascending hall => hiff.2 fun i hi b hb => ?_⟩
    have hafter : ∀ c ∈ after, c.Fits layout := fun c hc =>
      hall c (hrun ▸ List.mem_append_right _ (List.mem_cons_of_mem _ hc))
    rw [lastByte?_eq_none hascending hslot hi (hall _ hmem) hafter hlast] at hb
    cases hb

/-- A program whose uniforms are a vector of three components and a number right behind it. -/
def vectorAndNumber : Program.FrontEnd := fun _ =>
  .ok ⟨[⟨none, .uniform, some ⟨0, 0⟩, .block [⟨some "v", 0, none⟩, ⟨some "k", 12, none⟩] 16⟩], []⟩

/-- A vector of three components leaves the number that was set before it. -/
theorem uniform_intact_iff_sample :
    let d := (compileProgram "" ({} : Device vectorAndNumber)).2
    let cs : List Setting := [⟨⟨1⟩, .float .one⟩, ⟨⟨0⟩, .vec3 ⟨.zero, .zero, .zero⟩⟩]
    ∃ m, (setEach cs (useProgram ⟨1⟩ d).2).2.objects.inUse = .ok (⟨1⟩, m) ∧
      (m.data.drop 12).take 4 = (UniformValue.float .one).bytes := by
  intro d cs
  have hd : compileProgram "" ({} : Device vectorAndNumber) = (.ok ⟨1⟩, d) := rfl
  have hr : compileProgram "" ({} : Recorder vectorAndNumber)
      = (.ok ⟨1⟩, (compileProgram "" ({} : Recorder vectorAndNumber)).2) := rfl
  obtain ⟨layout, m, _, hlayout, hin, -, -, -, hall⟩ := uniform_intact_iff hd hr cs
  obtain rfl : layout = ⟨[⟨"v", 0⟩, ⟨"k", 12⟩], 16, [], []⟩ := by
    cases hlayout
    decide
  have hrun : (setEach cs (useProgram ⟨1⟩ d).2).1 = [] ++ ⟨⟨1⟩, .float .one⟩ :: cs.drop 1 := by
    decide +kernel
  obtain ⟨-, hvalues⟩ := hall ⟨1⟩ ⟨"k", 12⟩ (by decide)
  obtain ⟨-, hintact⟩ := hvalues [] (.float .one) (cs.drop 1) hrun (by decide)
  exact ⟨m, hin, hintact (by decide) (by rw [hrun]; decide)⟩

/-- A vector of four components, set where there is room for three, overwrites the number. Both
values are accepted, and the recorder still has the number. -/
theorem long_value_runs_over :
    let d := (compileProgram "" ({} : Device vectorAndNumber)).2
    let r := (compileProgram "" ({} : Recorder vectorAndNumber)).2
    let cs : List Setting := [⟨⟨1⟩, .float .one⟩, ⟨⟨0⟩, .vec4 ⟨.zero, .zero, .zero, .zero⟩⟩]
    let run := setEach cs (useProgram ⟨1⟩ d).2
    ∃ layout m m', Program.compile vectorAndNumber "" = .ok layout ∧
      layout.uniforms = [⟨"v", 0⟩, ⟨"k", 12⟩] ∧
      run.1 = cs ∧ run.2.objects.inUse = .ok (⟨1⟩, m) ∧
      (setEach cs (useProgram ⟨1⟩ r).2).2.objects.inUse = .ok (⟨1⟩, m') ∧
      m'.uniforms.get? 1 = some (.float .one) ∧
      (m.data.drop 12).take 4 ≠ (UniformValue.float .one).bytes := by
  refine ⟨_, _, _, rfl, rfl, ?_, rfl, rfl, ?_, ?_⟩ <;> decide +kernel

end FrameGraph.Gpu
