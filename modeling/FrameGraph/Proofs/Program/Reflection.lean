import FrameGraph.Proofs.Pass.Positions
import FrameGraph.Proofs.Program.Locations

/-!
# How a layout is read off a module

A sampler is an image with the name and the group of a texture; a location that a fragment entry
point writes is an output, however often it is written. The layout of a module lists both in
ascending order, and its look-ups are those of every layout.

Results:
* `Global.sampler?_eq_some_iff`, `mem_writtenLocations`: what is listed.
* `filter_foldl_insertSampler`: samplers of one binding stay in the order of the module.
* `mem_foldl_insertOutput`, `pairwise_foldl_insertOutput`: the outputs are a set, in order.
* `reflection_inverts`: what a module's layout lists, and that the look-ups are inverse.
-/
namespace FrameGraph.Program

/-! ## What a module says -/

/-- The sampler whose texture a global variable is. -/
def Global.sampler? (g : Global) : Option SamplerSlot :=
  g.image?.bind fun t => Layout.samplerSlot? t.1 t.2

/-- A fragment entry point writes the location: its result is connected to it or, if that is
connected to none, a member of its result is. -/
def Module.Writes (m : Module) (n : UInt32) : Prop :=
  ∃ e ∈ m.entryPoints, e.stage = .fragment ∧ ∃ r, e.result = some r ∧
    (r.linkage = some (.location n) ∨
      (¬ ∃ k, r.linkage = some (.location k)) ∧
        ∃ members span, r.shape = .block members span ∧
          ∃ mem ∈ members, mem.linkage = some (.location n))

theorem Global.image?_eq_some_iff {g : Global} {t : Option String × UInt32} :
    g.image? = some t ↔
      g.space = .handle ∧ g.shape = .image ∧ g.binding = some ⟨samplerGroup, t.2⟩ ∧
        g.name = t.1 := by
  obtain ⟨name, space, _ | ⟨group, index⟩, shape⟩ := g
  · simp [image?]
  · obtain ⟨name', index'⟩ := t
    cases space <;> cases shape <;> simp [image?]
    constructor
    · rintro ⟨hgroup, hname, hindex⟩
      exact ⟨⟨hgroup, hindex⟩, hname⟩
    · rintro ⟨⟨hgroup, hindex⟩, hname⟩
      exact ⟨hgroup, hname, hindex⟩

theorem Layout.samplerSlot?_eq_some_iff {name : Option String} {index : UInt32}
    {s : SamplerSlot} :
    samplerSlot? name index = some s ↔
      name = some (s.name ++ textureSuffix) ∧ s.textureBinding = index ∧
        s.samplerBinding = index + 1 := by
  simp only [samplerSlot?, bind, pure, Option.bind_eq_some_iff, Text.before?_eq_some_iff,
    Option.some.injEq]
  constructor
  · rintro ⟨n, rfl, front, hfront, rfl⟩
    refine ⟨congrArg some ?_, rfl, rfl⟩
    rw [← String.toList_inj, String.toList_append, String.toList_ofList, hfront]
  · rintro ⟨rfl, rfl, hstate⟩
    refine ⟨_, rfl, s.name.toList, String.toList_append, ?_⟩
    rw [String.ofList_toList, ← hstate]

/-- A sampler is an image of the group of samplers with a name that ends as those of textures
do. -/
theorem Global.sampler?_eq_some_iff {g : Global} {s : SamplerSlot} :
    g.sampler? = some s ↔
      g.space = .handle ∧ g.shape = .image ∧ g.binding = some ⟨samplerGroup, s.textureBinding⟩ ∧
        g.name = some (s.name ++ textureSuffix) ∧ s.samplerBinding = s.textureBinding + 1 := by
  simp only [sampler?, Option.bind_eq_some_iff, image?_eq_some_iff, Layout.samplerSlot?_eq_some_iff]
  constructor
  · rintro ⟨⟨name, index⟩, ⟨hspace, hshape, hbinding, hgname⟩, hname, rfl, hstate⟩
    exact ⟨hspace, hshape, hbinding, hgname.trans hname, hstate⟩
  · rintro ⟨hspace, hshape, hbinding, hname, hstate⟩
    exact ⟨(_, _), ⟨hspace, hshape, hbinding, hname⟩, rfl, rfl, hstate⟩

namespace Layout

/-! ## Samplers -/

/-- A sampler is put behind those of its binding, and among them only. -/
theorem filter_insertSampler (s : SamplerSlot) {ss : List SamplerSlot}
    (h : ss.Pairwise fun s t => s.textureBinding ≤ t.textureBinding) (b : UInt32) :
    (insertSampler s ss).filter (fun t => t.textureBinding = b)
      = ss.filter (fun t => t.textureBinding = b)
        ++ [s].filter (fun t => t.textureBinding = b) := by
  induction ss with
  | nil => rfl
  | cons t ts ih =>
    obtain ⟨hhead, htail⟩ := List.pairwise_cons.1 h
    rw [insertSampler]
    split
    · next hlt =>
      by_cases hs : s.textureBinding = b
      · -- all others have greater bindings
        have hnone : (t :: ts).filter (fun t => t.textureBinding = b) = [] := by
          rw [List.filter_eq_nil_iff]
          intro u hu heq
          have hle : t.textureBinding ≤ u.textureBinding := by
            rcases List.mem_cons.1 hu with rfl | hu
            · exact UInt32.le_refl _
            · exact hhead u hu
          rw [of_decide_eq_true heq, ← hs] at hle
          exact absurd hlt (UInt32.not_lt.2 hle)
        rw [List.filter_cons_of_pos (by simpa using hs), hnone, List.nil_append,
          List.filter_cons_of_pos (by simpa using hs), List.filter_nil]
      · simp [List.filter_cons, hs]
    · rw [List.filter_cons, List.filter_cons, ih htail]
      split <;> rfl

theorem filter_foldl_insertSampler (new : List SamplerSlot) {ss : List SamplerSlot}
    (h : ss.Pairwise fun s t => s.textureBinding ≤ t.textureBinding) (b : UInt32) :
    (new.foldl (fun ss s => insertSampler s ss) ss).filter (fun t => t.textureBinding = b)
      = ss.filter (fun t => t.textureBinding = b) ++ new.filter fun t => t.textureBinding = b := by
  induction new generalizing ss with
  | nil => simp
  | cons s new ih =>
    rw [List.foldl_cons, ih (insertSampler_pairwise s h), filter_insertSampler s h,
      List.append_assoc, ← List.filter_append, List.singleton_append]

theorem samplers_ofModule (m : Module) :
    (ofModule m).samplers
      = (m.globals.filterMap Global.sampler?).foldl (fun ss s => insertSampler s ss) [] := by
  rw [show m.globals.filterMap Global.sampler? = _ from (List.filterMap_filterMap ..).symm]
  exact samplers_foldl m.globals {}

theorem samplerBinding_eq {m : Module} {s : SamplerSlot} (hs : s ∈ (ofModule m).samplers) :
    s.samplerBinding = s.textureBinding + 1 := by
  rw [samplers_ofModule, (sorted_samplers _ [] .nil).1.mem_iff, List.append_nil] at hs
  obtain ⟨g, -, hg⟩ := List.mem_filterMap.1 hs
  exact (Global.sampler?_eq_some_iff.1 hg).2.2.2.2

/-! ## Outputs -/

theorem mem_insertOutput {n k : UInt32} {ns : List UInt32} :
    k ∈ insertOutput n ns ↔ k = n ∨ k ∈ ns := by
  induction ns with
  | nil => simp [insertOutput]
  | cons m ms ih =>
    rw [insertOutput]
    split
    · exact List.mem_cons
    · split
      · next heq => simp [heq]
      · rw [List.mem_cons, ih, List.mem_cons]
        exact or_left_comm

theorem pairwise_insertOutput (n : UInt32) {ns : List UInt32} (h : ns.Pairwise (· < ·)) :
    (insertOutput n ns).Pairwise (· < ·) := by
  induction ns with
  | nil => exact List.pairwise_singleton _ _
  | cons m ms ih =>
    obtain ⟨hhead, htail⟩ := List.pairwise_cons.1 h
    rw [insertOutput]
    split
    · next hlt =>
      refine List.pairwise_cons.2 ⟨fun k hk => ?_, h⟩
      rcases List.mem_cons.1 hk with rfl | hk
      · exact hlt
      · exact UInt32.lt_trans hlt (hhead k hk)
    · next hge =>
      split
      · exact h
      · next hne =>
        have hlt : m < n :=
          (UInt32.lt_or_eq_of_le (UInt32.not_lt.1 hge)).resolve_right (Ne.symm hne)
        refine List.pairwise_cons.2 ⟨fun k hk => ?_, ih htail⟩
        rcases mem_insertOutput.1 hk with rfl | hk
        · exact hlt
        · exact hhead k hk

theorem mem_foldl_insertOutput {k : UInt32} (new ns : List UInt32) :
    k ∈ new.foldl (fun ns n => insertOutput n ns) ns ↔ k ∈ new ∨ k ∈ ns := by
  induction new generalizing ns with
  | nil => simp
  | cons n new ih =>
    rw [List.foldl_cons, ih, mem_insertOutput, List.mem_cons]
    tauto

theorem pairwise_foldl_insertOutput (new : List UInt32) {ns : List UInt32}
    (h : ns.Pairwise (· < ·)) :
    (new.foldl (fun ns n => insertOutput n ns) ns).Pairwise (· < ·) := by
  induction new generalizing ns with
  | nil => exact h
  | cons n new ih => exact ih (pairwise_insertOutput n h)

theorem linkedLocation?_eq_some_iff {linkage : Option Linkage} {n : UInt32} :
    linkedLocation? linkage = some n ↔ linkage = some (.location n) := by
  rcases linkage with _ | ⟨_ | _⟩ <;> simp [linkedLocation?]

theorem mem_resultLocations {r : Result} {n : UInt32} :
    n ∈ resultLocations r ↔
      r.linkage = some (.location n) ∨
        (¬ ∃ k, r.linkage = some (.location k)) ∧
          ∃ members span, r.shape = .block members span ∧
            ∃ mem ∈ members, mem.linkage = some (.location n) := by
  obtain ⟨linkage, shape⟩ := r
  cases hlinked : linkedLocation? linkage with
  | some k =>
    obtain rfl := linkedLocation?_eq_some_iff.1 hlinked
    simp [resultLocations, linkedLocation?, eq_comm]
  | none =>
    have hnone : ∀ k, linkage ≠ some (.location k) := fun k hk => by
      rw [linkedLocation?_eq_some_iff.2 hk] at hlinked
      cases hlinked
    cases shape <;> simp [resultLocations, hlinked, hnone, linkedLocation?_eq_some_iff]

theorem mem_writtenLocations {m : Module} {n : UInt32} : n ∈ writtenLocations m ↔ m.Writes n := by
  simp only [writtenLocations, List.mem_flatMap, List.mem_filter, Module.Writes,
    decide_eq_true_eq, and_assoc]
  refine exists_congr fun e => and_congr_right fun _ => and_congr_right fun _ => ?_
  cases e.result with
  | none => simp
  | some r => simp only [mem_resultLocations, Option.some.injEq, exists_eq_left']

end Layout

/-- The layout of a module has the samplers whose textures the module has, in the ascending
order of their bindings and where these are the same in the order of the module, each with the
binding behind that of its texture, and the locations that its fragment entry points write, in
ascending order and each once. In every layout a name is found at the least location that has
it, which is that of a uniform if one has the name and otherwise of the first sampler with it;
and the locations are the numbers of the uniforms and, behind them, of the samplers. -/
theorem reflection_inverts (m : Module) :
    let r := Layout.ofModule m
    (r.samplers.Pairwise (fun s t => s.textureBinding ≤ t.textureBinding) ∧
      (∀ b, r.samplers.filter (fun s => s.textureBinding = b)
        = (m.globals.filterMap Global.sampler?).filter fun s => s.textureBinding = b) ∧
      ∀ s ∈ r.samplers, s.textureBinding.toNat + 1 < 2 ^ 32 →
        s.samplerBinding.toNat = s.textureBinding.toNat + 1) ∧
    (r.outputs.Pairwise (· < ·) ∧ ∀ n, n ∈ r.outputs ↔ m.Writes n) ∧
    ∀ l : Layout,
      (∀ name location, l.location? name = some location →
        ∃ slot, l.slot? location = some slot ∧ slot.name = name ∧
          ((∃ u ∈ l.uniforms, u.name = name) → ∃ u, slot = .uniform u) ∧
          ((¬ ∃ u ∈ l.uniforms, u.name = name) → ∃ i s, slot = .sampler i s ∧
            ∀ j < i, ∀ t, l.samplers[j]? = some t → t.name ≠ name)) ∧
      ∀ location : Location,
        ((l.slot? location).isSome ↔ location.index < l.uniforms.length + l.samplers.length) ∧
        ((∃ u, l.slot? location = some (.uniform u)) ↔ location.index < l.uniforms.length) ∧
        (∀ u, l.slot? location = some (.uniform u) ↔ l.uniforms[location.index]? = some u) ∧
        (∀ i s, l.slot? location = some (.sampler i s) ↔
          location.index = l.uniforms.length + i ∧ l.samplers[i]? = some s) ∧
        ∀ slot, l.slot? location = some slot →
          ∃ least, l.location? slot.name = some least ∧
            IsLeast {k | ∃ other, l.slot? ⟨k⟩ = some other ∧ other.name = slot.name}
              least.index := by
  intro r
  have hsamplers : r.samplers = _ := Layout.samplers_ofModule m
  refine ⟨⟨?_, fun b => ?_, fun s hs hfits => ?_⟩, ⟨?_, fun n => ?_⟩,
    fun l => ⟨fun name location => Layout.found_slot, fun location =>
      ⟨Layout.isSome_slot?_iff, Layout.exists_uniform_iff, fun u => Layout.slot?_eq_uniform_iff,
        fun i s => Layout.slot?_eq_sampler_iff, fun slot hslot => ?_⟩⟩⟩
  · rw [hsamplers]
    exact (Layout.sorted_samplers _ [] .nil).2
  · rw [hsamplers, Layout.filter_foldl_insertSampler _ .nil]
    rfl
  · rw [Layout.samplerBinding_eq hs, UInt32.toNat_add, UInt32.toNat_one, Nat.mod_eq_of_lt hfits]
  · exact Layout.pairwise_foldl_insertOutput _ .nil
  · rw [← Layout.mem_writtenLocations]
    exact (Layout.mem_foldl_insertOutput _ _).trans (or_iff_left List.not_mem_nil)
  · exact Layout.exists_location? (show location.index ∈ _ from ⟨slot, hslot, rfl⟩)

/-- A uniform and two samplers of one name, and a location that is written twice. -/
def shared : Module where
  globals :=
    [⟨none, .uniform, some ⟨0, 0⟩, .block [⟨some "gain", 0, none⟩, ⟨some "src", 4, none⟩] 16⟩,
      ⟨some "mask_texture", .handle, some ⟨1, 4⟩, .image⟩,
      ⟨some "src_texture", .handle, some ⟨1, 2⟩, .image⟩,
      ⟨some "mask_texture", .handle, some ⟨1, 2⟩, .image⟩]
  entryPoints :=
    [⟨.fragment, some ⟨some .builtin,
        .block [⟨none, 0, some (.location 3)⟩, ⟨none, 16, some (.location 1)⟩] 32⟩⟩,
      ⟨.fragment, some ⟨some (.location 1), .other⟩⟩]

theorem reflection_inverts_shared :
    let r := Layout.ofModule shared
    (∀ s ∈ r.samplers, s.textureBinding.toNat + 1 < 2 ^ 32 ∧
      s.samplerBinding.toNat = s.textureBinding.toNat + 1) ∧
      r.outputs = [1, 3] ∧ r.outputs.Pairwise (· < ·) ∧
      r.slot? ⟨2⟩ = some (.sampler 0 ⟨"src", 2, 3⟩) ∧
      (∃ least, r.location? "src" = some least ∧ least.index ≤ 2 ∧
        ∃ u, r.slot? least = some (.uniform u)) ∧
      ∃ i s, r.location? "mask" = some ⟨3⟩ ∧ r.slot? ⟨3⟩ = some (.sampler i s) ∧
        s.name = "mask" := by
  intro r
  obtain ⟨⟨-, -, hstates⟩, ⟨hascend, -⟩, hlayouts⟩ := reflection_inverts shared
  obtain ⟨hfound, hstands⟩ := hlayouts r
  have hbindings : ∀ s ∈ r.samplers, s.textureBinding.toNat + 1 < 2 ^ 32 := by decide
  have hsrc : r.slot? ⟨2⟩ = some (.sampler 0 ⟨"src", 2, 3⟩) := by decide
  have hmask : r.location? "mask" = some ⟨3⟩ := by decide
  refine ⟨fun s hs => ⟨hbindings s hs, hstates s hs (hbindings s hs)⟩, by decide, hascend, hsrc,
    ?_, ?_⟩
  · obtain ⟨least, hleast, -, hle⟩ := (hstands ⟨2⟩).2.2.2.2 _ hsrc
    obtain ⟨slot, hslot, -, huniform, -⟩ := hfound _ _ hleast
    obtain ⟨u, rfl⟩ := huniform (by decide)
    exact ⟨least, hleast, hle ⟨_, hsrc, rfl⟩, u, hslot⟩
  · obtain ⟨slot, hslot, hname, -, hsampler⟩ := hfound _ _ hmask
    obtain ⟨i, s, rfl, -⟩ := hsampler (by decide)
    exact ⟨i, s, hmask, hslot, hname⟩

end FrameGraph.Program
