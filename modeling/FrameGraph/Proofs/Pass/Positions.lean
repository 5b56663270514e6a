import FrameGraph.Proofs.Pass.Rebuilding

/-!
# Where declared names are found

The front end is not part of the model. What a pass needs of it is that the module of its
text has one uniform block with the declared uniforms as its members, in their order, and for
each declared sampler a texture with the two numbers of its bindings, and no other
(`Module.Exposes`). The module may list them in any order: samplers are sorted by binding.
If no two of the declared names are the same, then uniforms are found at the first locations
and samplers behind them, in the order in which they are declared.

Results:
* `Exposes.uniform_names`, `Exposes.sampler_names`: what the layout lists.
* `Exposes.locate_uniforms`, `Exposes.locate_samplers`: where the declared names are.
-/
namespace FrameGraph.Program

/-! ## What a module lists -/

namespace Global

/-- The members of a uniform block in the group of uniforms. -/
def block? (g : Global) : Option (List Member) :=
  match g.binding, g.space, g.shape with
  | some b, .uniform, .block members _ => if b.group = uniformGroup then some members else none
  | _, _, _ => none

/-- Name and binding of an image in the group of samplers. -/
def image? (g : Global) : Option (Option String × UInt32) :=
  match g.binding, g.space, g.shape with
  | some b, .handle, .image => if b.group = samplerGroup then some (g.name, b.index) else none
  | _, _, _ => none

end Global

/-- What the module has in the group of uniforms is one block of the declared ones, if any, and
in the group of samplers a texture with an even binding for each declared one. -/
structure Module.Exposes (m : Module) (desc : ShaderDesc) : Prop where
  one : (m.globals.filterMap Global.block?).length ≤ 1
  uniforms : (m.globals.filterMap Global.block?).flatten.map Member.name
    = desc.uniforms.map fun n => some n.name
  samplers : ((m.globals.filterMap Global.image?).map fun t => (t.1, t.2.toNat)).Perm
    (desc.samplers.zipIdx.map fun n => (some (n.1.name ++ textureSuffix), 2 * n.2))

/-! ## Layouts -/

namespace Layout

/-- The last block has the uniforms. -/
theorem uniforms_addGlobal (l : Layout) (g : Global) :
    (addGlobal l g).uniforms
      = (g.block?.map fun ms => ms.filterMap uniformSlot?).getD l.uniforms := by
  obtain ⟨name, space, _ | b, shape⟩ := g
  · rfl
  · cases space <;> cases shape <;> try rfl
    -- the block of a uniform, or the image of a handle
    · simp only [addGlobal, Global.block?]
      split <;> rfl
    · simp only [addGlobal, Global.block?]
      split
      · split <;> rfl
      · rfl

/-- An image is filed as the texture of a sampler. -/
theorem samplers_addGlobal (l : Layout) (g : Global) :
    (addGlobal l g).samplers
      = (g.image?.bind fun t => samplerSlot? t.1 t.2).elim l.samplers
          fun s => insertSampler s l.samplers := by
  obtain ⟨name, space, _ | b, shape⟩ := g
  · rfl
  · cases space <;> cases shape <;> try rfl
    · simp only [addGlobal, Global.image?]
      split <;> rfl
    · simp only [addGlobal, Global.image?]
      split
      · simp only [Option.bind_some]
        cases samplerSlot? name b.index <;> rfl
      · rfl

theorem uniforms_foldl (gs : List Global) (l : Layout) :
    (gs.foldl addGlobal l).uniforms
      = ((gs.filterMap Global.block?).getLast?.map fun ms => ms.filterMap uniformSlot?).getD
          l.uniforms := by
  induction gs generalizing l with
  | nil => rfl
  | cons g gs ih =>
    rw [List.foldl_cons, ih, uniforms_addGlobal, List.filterMap_cons]
    cases g.block? with
    | none => rfl
    | some ms =>
      rw [List.getLast?_cons]
      cases (gs.filterMap Global.block?).getLast? <;> rfl

/-- The samplers are those of the images, in some order that ascends with their bindings. -/
theorem samplers_foldl (gs : List Global) (l : Layout) :
    (gs.foldl addGlobal l).samplers
      = ((gs.filterMap Global.image?).filterMap fun t => samplerSlot? t.1 t.2).foldl
          (fun ss s => insertSampler s ss) l.samplers := by
  induction gs generalizing l with
  | nil => rfl
  | cons g gs ih =>
    rw [List.foldl_cons, ih, samplers_addGlobal, List.filterMap_cons]
    cases g.image? with
    | none => rfl
    | some t =>
      simp only [Option.bind_some, List.filterMap_cons]
      cases samplerSlot? t.1 t.2 <;> rfl

theorem insertSampler_perm (s : SamplerSlot) (ss : List SamplerSlot) :
    (insertSampler s ss).Perm (s :: ss) := by
  induction ss with
  | nil => exact .refl _
  | cons t ts ih =>
    rw [insertSampler]
    split
    · exact .refl _
    · exact (ih.cons t).trans (.swap s t ts)

theorem insertSampler_pairwise (s : SamplerSlot) {ss : List SamplerSlot}
    (h : ss.Pairwise fun s t => s.textureBinding ≤ t.textureBinding) :
    (insertSampler s ss).Pairwise fun s t => s.textureBinding ≤ t.textureBinding := by
  induction ss with
  | nil => exact List.pairwise_singleton _ _
  | cons t ts ih =>
    obtain ⟨hhead, htail⟩ := List.pairwise_cons.1 h
    rw [insertSampler]
    split
    · next hlt =>
      refine List.pairwise_cons.2 ⟨fun u hu => ?_, h⟩
      rcases List.mem_cons.1 hu with rfl | hu
      · exact UInt32.le_of_lt hlt
      · exact UInt32.le_trans (UInt32.le_of_lt hlt) (hhead u hu)
    · next hge =>
      refine List.pairwise_cons.2 ⟨fun u hu => ?_, ih htail⟩
      rcases List.mem_cons.1 ((insertSampler_perm s ts).mem_iff.1 hu) with rfl | hu
      · exact UInt32.not_lt.1 hge
      · exact hhead u hu

theorem sorted_samplers (new ss : List SamplerSlot)
    (h : ss.Pairwise fun s t => s.textureBinding ≤ t.textureBinding) :
    (new.foldl (fun ss s => insertSampler s ss) ss).Perm (new ++ ss) ∧
      (new.foldl (fun ss s => insertSampler s ss) ss).Pairwise
        fun s t => s.textureBinding ≤ t.textureBinding := by
  induction new generalizing ss with
  | nil => exact ⟨.refl _, h⟩
  | cons s new ih =>
    obtain ⟨hperm, hpairwise⟩ := ih (insertSampler s ss) (insertSampler_pairwise s h)
    refine ⟨hperm.trans ?_, hpairwise⟩
    exact ((insertSampler_perm s ss).append_left new).trans List.perm_middle

/-- Name and binding of the sampler whose texture has this name and binding. -/
def samplerKey? (t : Option String × Nat) : Option (String × Nat) :=
  (t.1.bind fun name => Text.before? textureSuffix.toList name.toList).map
    fun front => (String.ofList front, t.2)

theorem samplerSlot?_key (t : Option String × UInt32) :
    (samplerSlot? t.1 t.2).map (fun s => (s.name, s.textureBinding.toNat))
      = samplerKey? (t.1, t.2.toNat) := by
  obtain ⟨_ | name, index⟩ := t
  · rfl
  · simp only [samplerSlot?, samplerKey?, bind, Option.bind_some]
    cases Text.before? textureSuffix.toList name.toList <;> rfl

theorem samplerKey?_texture (name : String) (index : Nat) :
    samplerKey? (some (name ++ textureSuffix), index) = some (name, index) := by
  have hfront : Text.before? textureSuffix.toList (name ++ textureSuffix).toList
      = some name.toList := by
    rw [Text.before?_eq_some_iff, String.toList_append]
  simp only [samplerKey?, Option.bind_some, hfront, Option.map_some, String.ofList_toList]

end Layout

namespace Module.Exposes

variable {m : Module} {desc : ShaderDesc}

/-- The layout has the declared uniforms in their order. -/
theorem uniform_names (h : m.Exposes desc) :
    (Layout.ofModule m).uniforms.map UniformSlot.name = desc.uniforms.map TypedName.name := by
  show (m.globals.foldl Layout.addGlobal {}).uniforms.map _ = _
  rw [Layout.uniforms_foldl]
  have huniforms := h.uniforms
  have hslot : ∀ mem : Member, (Layout.uniformSlot? mem).map UniformSlot.name = mem.name := by
    rintro ⟨_ | name, _, _⟩ <;> rfl
  have hnames : ∀ ms : List Member, ms.map Member.name = desc.uniforms.map (fun n => some n.name) →
      (ms.filterMap Layout.uniformSlot?).map UniformSlot.name
        = desc.uniforms.map TypedName.name := by
    intro ms hms
    calc (ms.filterMap Layout.uniformSlot?).map UniformSlot.name
        = ms.filterMap Member.name := by rw [List.map_filterMap, funext hslot]
      _ = (ms.map Member.name).filterMap id := by rw [List.filterMap_map]; rfl
      _ = desc.uniforms.map TypedName.name := by
        rw [hms, List.filterMap_map]
        exact congrFun List.filterMap_eq_map desc.uniforms
  match hblocks : m.globals.filterMap Global.block?, h.one with
  | [], _ => exact hnames [] (by rwa [hblocks] at huniforms)
  | [ms], _ => exact hnames ms (by rwa [hblocks, List.flatten_singleton] at huniforms)

/-- Name and binding of each sampler, as the declared samplers have them. -/
theorem sampler_keys (h : m.Exposes desc) :
    (Layout.ofModule m).samplers.map (fun s => (s.name, s.textureBinding.toNat))
      = desc.samplers.zipIdx.map fun n => (n.1.name, 2 * n.2) := by
  let images := m.globals.filterMap Global.image?
  obtain ⟨hperm, hsorted⟩ := Layout.sorted_samplers
    (images.filterMap fun t => Layout.samplerSlot? t.1 t.2) [] .nil
  have hlayout : (Layout.ofModule m).samplers = _ := Layout.samplers_foldl m.globals {}
  rw [List.append_nil, ← hlayout] at hperm
  rw [← hlayout] at hsorted
  have hkeys : ((Layout.ofModule m).samplers.map fun s => (s.name, s.textureBinding.toNat)).Perm
      (desc.samplers.zipIdx.map fun n => (n.1.name, 2 * n.2)) := by
    refine (hperm.map _).trans ?_
    have hlisted := h.samplers.filterMap Layout.samplerKey?
    rw [List.filterMap_map, List.filterMap_map] at hlisted
    rw [List.map_filterMap, funext Layout.samplerSlot?_key]
    refine hlisted.trans (.of_eq ?_)
    have hdeclared : ∀ n : TypedName × Nat,
        Layout.samplerKey? (some (n.1.name ++ textureSuffix), 2 * n.2)
          = some (n.1.name, 2 * n.2) := fun n => Layout.samplerKey?_texture _ _
    rw [show Layout.samplerKey? ∘ _ = _ from funext hdeclared]
    exact congrFun List.filterMap_eq_map desc.samplers.zipIdx
  have hascend : (desc.samplers.zipIdx.map fun n => (n.1.name, 2 * n.2)).Pairwise
      fun a b => a.2 < b.2 := by
    rw [List.pairwise_iff_getElem]
    intro i j hi hj hlt
    simpa using hlt
  -- both ascend with the bindings, and no two declared samplers have the same
  have hlisted : ((Layout.ofModule m).samplers.map fun s =>
      (s.name, s.textureBinding.toNat)).Pairwise fun a b => a.2 ≤ b.2 :=
    List.pairwise_map.2 (hsorted.imp UInt32.le_iff_toNat_le.1)
  refine hkeys.eq_of_pairwise (fun a b ha hb hab hba => ?_) hlisted (hascend.imp Nat.le_of_lt)
  by_contra hne
  have hsymm : Std.Symm fun a b : String × Nat => a.2 ≠ b.2 := ⟨fun _ _ h => h.symm⟩
  exact (hascend.imp Nat.ne_of_lt).forall (hkeys.mem_iff.1 ha) hb hne (Nat.le_antisymm hab hba)

theorem sampler_names (h : m.Exposes desc) :
    (Layout.ofModule m).samplers.map SamplerSlot.name = desc.samplers.map TypedName.name := by
  have hnames := congrArg (List.map Prod.fst) h.sampler_keys
  rw [List.map_map, List.map_map] at hnames
  refine Eq.trans hnames ?_
  calc desc.samplers.zipIdx.map (fun n => n.1.name)
      = (desc.samplers.zipIdx.map Prod.fst).map TypedName.name := by rw [List.map_map]; rfl
    _ = desc.samplers.map TypedName.name := by rw [List.zipIdx_map_fst]

theorem length_uniforms (h : m.Exposes desc) :
    (Layout.ofModule m).uniforms.length = desc.uniforms.length := by
  simpa using congrArg List.length h.uniform_names

theorem length_samplers (h : m.Exposes desc) :
    (Layout.ofModule m).samplers.length = desc.samplers.length := by
  simpa using congrArg List.length h.sampler_names

/-- The bindings of the samplers are words, so there are not more of them than words. -/
theorem length_samplers_le (h : m.Exposes desc) : desc.samplers.length ≤ 2 ^ 31 := by
  by_contra hmany
  have hlast : desc.samplers.length - 1 < (Layout.ofModule m).samplers.length := by
    rw [h.length_samplers]
    omega
  have hkey := congrArg (·[desc.samplers.length - 1]?) h.sampler_keys
  simp only [List.getElem?_map, List.getElem?_zipIdx, List.getElem?_eq_getElem hlast,
    List.getElem?_eq_getElem (h.length_samplers ▸ hlast), Option.map_some, Option.some.injEq,
    Prod.mk.injEq] at hkey
  have hword := ((Layout.ofModule m).samplers[desc.samplers.length - 1]).textureBinding.toNat_lt
  omega

/-! ## Where the names are -/

/-- Among distinct names, each is first found at its own place. -/
theorem findIdx?_name {α : Type} {xs : List α} {name : α → String} (h : (xs.map name).Nodup)
    {k : Nat} (hk : k < xs.length) {n : String} (hn : name xs[k] = n) :
    xs.findIdx? (fun x => name x = n) = some k := by
  refine List.findIdx?_eq_some_iff_getElem.2 ⟨hk, by simpa using hn, fun j hj => ?_⟩
  rw [decide_eq_true_eq]
  intro hsame
  have hlength : (xs.map name).length = xs.length := List.length_map name
  have heq : (xs.map name)[j] = (xs.map name)[k] := by
    rw [List.getElem_map, List.getElem_map, hsame, hn]
  exact absurd ((h.getElem_inj_iff).1 heq) (Nat.ne_of_lt hj)

variable (hnames : ((desc.uniforms ++ desc.samplers).map TypedName.name).Nodup)
include hnames

theorem locate_uniforms (h : m.Exposes desc) :
    (Layout.ofModule m).locate desc.uniforms
      = (List.range desc.uniforms.length).map fun k => some ⟨k⟩ := by
  rw [List.map_append, List.nodup_append] at hnames
  refine List.ext_getElem (by simp [Layout.locate]) fun k hk hk' => ?_
  have hk : k < desc.uniforms.length := by simpa [Layout.locate] using hk
  have hfound : (Layout.ofModule m).uniforms.findIdx? (fun u => u.name = desc.uniforms[k].name)
      = some k := by
    refine findIdx?_name (h.uniform_names ▸ hnames.1) (h.length_uniforms ▸ hk) ?_
    simpa [List.getElem?_eq_getElem hk, h.length_uniforms, hk]
      using congrArg (·[k]?) h.uniform_names
  simp only [Layout.locate, List.getElem_map, List.getElem_range, Layout.location?, hfound]

theorem locate_samplers (h : m.Exposes desc) :
    (Layout.ofModule m).locate desc.samplers
      = (List.range desc.samplers.length).map fun k => some ⟨desc.uniforms.length + k⟩ := by
  rw [List.map_append, List.nodup_append] at hnames
  obtain ⟨-, hsamplers, hapart⟩ := hnames
  refine List.ext_getElem (by simp [Layout.locate]) fun k hk hk' => ?_
  have hk : k < desc.samplers.length := by simpa [Layout.locate] using hk
  have hnone : (Layout.ofModule m).uniforms.findIdx? (fun u => u.name = desc.samplers[k].name)
      = none := by
    refine List.findIdx?_eq_none_iff.2 fun u hu => decide_eq_false fun hsame => ?_
    have hmem : u.name ∈ desc.uniforms.map TypedName.name :=
      h.uniform_names ▸ List.mem_map_of_mem hu
    exact hapart _ hmem _ (List.mem_map_of_mem (List.getElem_mem hk)) hsame
  have hfound : (Layout.ofModule m).samplers.findIdx? (fun s => s.name = desc.samplers[k].name)
      = some k := by
    refine findIdx?_name (h.sampler_names ▸ hsamplers) (h.length_samplers ▸ hk) ?_
    simpa [List.getElem?_eq_getElem hk, h.length_samplers, hk]
      using congrArg (·[k]?) h.sampler_names
  simp only [Layout.locate, List.getElem_map, List.getElem_range, Layout.location?, hnone, hfound,
    Option.map_some, h.length_uniforms]

end Module.Exposes
end FrameGraph.Program
