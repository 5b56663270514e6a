import FrameGraph.Proofs.Gpu.Account

/-!
# Live objects and who holds them

A backend is `Balanced` over some handles if its live objects are exactly these
and no handle is held twice. What is created has to be held from then on, and
only what is held can be destroyed; so a computation that stays balanced neither
loses an object nor destroys one that is not live.

Results:
* `runs_createTexture` and the like: one triple for each call that creates or
  destroys.
* `Balanced.keep`: all other calls leave the balance alone.
-/
namespace FrameGraph.Gpu

variable {α : Type}

/-- Every element of the set is in the multiset once, and nothing else is. -/
def Listed (s : Set α) (m : Multiset α) : Prop := m.Nodup ∧ ∀ x, x ∈ s ↔ x ∈ m

namespace Listed

variable {s : Set α} {m : Multiset α} {x : α}

theorem empty : Listed (∅ : Set α) 0 := ⟨Multiset.nodup_zero, by simp⟩

theorem unique {s' : Set α} (h : Listed s m) (h' : Listed s' m) : s = s' :=
  Set.ext fun x => (h.2 x).trans (h'.2 x).symm

theorem not_mem (h : Listed s 0) (x : α) : x ∉ s := fun hx => Multiset.notMem_zero x ((h.2 x).1 hx)

theorem insert (h : Listed s m) (hx : x ∉ s) : Listed (insert x s) (x ::ₘ m) := by
  refine ⟨Multiset.nodup_cons.2 ⟨fun hm => hx ((h.2 x).2 hm), h.1⟩, fun y => ?_⟩
  rw [Set.mem_insert_iff, Multiset.mem_cons, h.2 y]

theorem mem (h : Listed s (x ::ₘ m)) : x ∈ s := (h.2 x).2 (Multiset.mem_cons_self x m)

theorem remove (h : Listed s (x ::ₘ m)) : Listed (s \ {x}) m := by
  obtain ⟨hx, hm⟩ := Multiset.nodup_cons.1 h.1
  refine ⟨hm, fun y => ?_⟩
  rw [Set.mem_sdiff, Set.mem_singleton_iff, h.2 y, Multiset.mem_cons]
  exact ⟨fun ⟨hy, hne⟩ => hy.resolve_left hne, fun hy => ⟨.inr hy, fun he => hx (he ▸ hy)⟩⟩

end Listed

/-- What a call that may fail has brought. -/
def gained {ε : Type} : Except ε α → Multiset α
  | .ok a => {a}
  | .error _ => 0

@[simp] theorem gained_ok {ε : Type} (a : α) : gained (.ok a : Except ε α) = {a} := rfl

@[simp] theorem gained_error {ε : Type} (e : ε) : gained (.error e : Except ε α) = 0 := rfl

/-- A call that neither creates nor destroys anything. -/
def Call.keepsObjects : {a : Answer} → Call a → Prop
  | _, createTexture .. | _, destroyTexture .. | _, createFramebuffer | _, destroyFramebuffer ..
  | _, compileProgram .. | _, deleteProgram .. => False
  | _, _ => True

theorem Account.after_of_keepsObjects (k : Account) {a : Answer} {call : Call a} (answer : a.Of)
    (h : call.keepsObjects) :
    (k.after call answer).textures = k.textures ∧
      (k.after call answer).framebuffers = k.framebuffers ∧
      (k.after call answer).programs = k.programs := by
  cases call <;> first
    | exact h.elim
    | exact ⟨rfl, rfl, rfl⟩
    | (cases answer <;> exact ⟨rfl, rfl, rfl⟩)

section
variable {σ : Type} [Backend σ] [Accounting σ]

/-- What is destroyed is live at that moment. -/
def Careful (b : σ) : {a : Answer} → Call a → Prop
  | _, .destroyTexture t => t ∈ (account b).textures
  | _, .destroyFramebuffer f => f ∈ (account b).framebuffers
  | _, .deleteProgram p => p ∈ (account b).programs
  | _, _ => True

/-- What goes on between two showings: what is live is destroyed, but none of `shown`;
uniforms of other programs are set, and draws go to framebuffers. -/
def Behind (shown : Multiset ProgramId) (b : σ) : {a : Answer} → Call a → Prop
  | _, .destroyTexture t => t ∈ (account b).textures
  | _, .destroyFramebuffer f => f ∈ (account b).framebuffers
  | _, .deleteProgram p => p ∈ (account b).programs ∧ p ∉ shown
  | _, .setUniform .. => ∀ p ∈ shown, (account b).inUse ≠ some p
  | _, .drawFullscreen => (account b).bound ≠ none
  | _, .endFrame => False
  | _, _ => True

/-- With nothing to be left alone, more goes on. -/
theorem Behind.of_none {shown : Multiset ProgramId} {b : σ} {a : Answer} {call : Call a}
    (h : Behind shown b call) : Behind 0 b call := by
  cases call with
  | deleteProgram p => exact ⟨h.1, Multiset.notMem_zero p⟩
  | setUniform l v => exact fun p hp => (Multiset.notMem_zero p hp).elim
  | _ => exact h

theorem Behind.careful {shown : Multiset ProgramId} {b : σ} {a : Answer} {call : Call a}
    (h : Behind shown b call) : Careful b call := by
  cases call <;> first | exact h | exact h.1 | trivial

/-- The live objects are those that are held, and none is held twice. -/
structure Balanced (T : Multiset TextureId) (F : Multiset FramebufferId) (P : Multiset ProgramId)
    (b : σ) : Prop where
  sound : Sound b
  textures : Listed (account b).textures T
  framebuffers : Listed (account b).framebuffers F
  programs : Listed (account b).programs P

variable {T : Multiset TextureId} {F : Multiset FramebufferId} {P : Multiset ProgramId} {b : σ}
  {C : Discipline σ}

theorem Balanced.of_account {k : Account} (hs : Sound b) (hacc : account b = k)
    (ht : Listed k.textures T) (hf : Listed k.framebuffers F) (hp : Listed k.programs P) :
    Balanced T F P b := by
  subst hacc
  exact ⟨hs, ht, hf, hp⟩

/-- Nothing is live, and nothing is held. -/
theorem balanced_fresh (hs : Sound b) (h : account b = {}) : Balanced 0 0 0 b :=
  .of_account hs h Listed.empty Listed.empty Listed.empty

theorem Balanced.keep {a : Answer} {call : Call a} (h : Balanced T F P b)
    (hcall : call.keepsObjects) : Balanced T F P (Backend.perform call b).2 := by
  obtain ⟨hs, hacc, -⟩ := Accounting.follows call h.sound
  obtain ⟨ht, hf, hp⟩ := (account b).after_of_keepsObjects (Backend.perform call b).1 hcall
  exact .of_account hs hacc (ht ▸ h.textures) (hf ▸ h.framebuffers) (hp ▸ h.programs)

/-- A call that neither creates nor destroys anything, whatever its answer is. -/
theorem runs_keep {a : Answer} (call : Call a) (hcall : call.keepsObjects)
    (hC : ∀ b : σ, Balanced T F P b → C b call) :
    Runs id C (Balanced T F P) (Backend.perform call) (fun _ => Balanced T F P) :=
  Runs.call hC fun _ h => h.keep hcall

theorem runs_createTexture (format : PixelFormat) (size : Extent)
    (hC : ∀ b : σ, C b (.createTexture format size)) :
    Runs id C (Balanced T F P) (createTexture format size)
      (fun r b => Balanced (gained r + T) F P b) := by
  refine Runs.call (fun b _ => hC b) fun b h => ?_
  obtain ⟨hs, hacc, hnew⟩ := Accounting.follows (.createTexture format size) h.sound
  revert hacc hnew
  cases (Backend.perform (.createTexture format size) b).1 with
  | ok t =>
    intro hacc hnew
    exact .of_account hs hacc (h.textures.insert hnew) h.framebuffers h.programs
  | error e =>
    intro hacc _
    rw [gained_error, zero_add]
    exact .of_account hs hacc h.textures h.framebuffers h.programs

theorem runs_createFramebuffer (hC : ∀ b : σ, C b .createFramebuffer) :
    Runs id C (Balanced T F P) createFramebuffer (fun r b => Balanced T (gained r + F) P b) := by
  refine Runs.call (fun b _ => hC b) fun b h => ?_
  obtain ⟨hs, hacc, hnew⟩ := Accounting.follows .createFramebuffer h.sound
  revert hacc hnew
  cases (Backend.perform .createFramebuffer b).1 with
  | ok f =>
    intro hacc hnew
    exact .of_account hs hacc h.textures (h.framebuffers.insert hnew) h.programs
  | error e =>
    intro hacc _
    rw [gained_error, zero_add]
    exact .of_account hs hacc h.textures h.framebuffers h.programs

theorem runs_compileProgram (source : String) (hC : ∀ b : σ, C b (.compileProgram source)) :
    Runs id C (Balanced T F P) (compileProgram source)
      (fun r b => Balanced T F (gained r + P) b) := by
  refine Runs.call (fun b _ => hC b) fun b h => ?_
  obtain ⟨hs, hacc, hnew⟩ := Accounting.follows (.compileProgram source) h.sound
  revert hacc hnew
  cases (Backend.perform (.compileProgram source) b).1 with
  | ok p =>
    intro hacc hnew
    exact .of_account hs hacc h.textures h.framebuffers (h.programs.insert hnew)
  | error e =>
    intro hacc _
    rw [gained_error, zero_add]
    exact .of_account hs hacc h.textures h.framebuffers h.programs

theorem runs_destroyTexture (t : TextureId)
    (hC : ∀ b : σ, t ∈ (account b).textures → C b (.destroyTexture t)) :
    Runs id C (Balanced (t ::ₘ T) F P) (destroyTexture t) (fun _ => Balanced T F P) := by
  refine Runs.call (fun b h => hC b h.textures.mem) fun b h => ?_
  obtain ⟨hs, hacc, -⟩ := Accounting.follows (.destroyTexture t) h.sound
  exact .of_account hs hacc h.textures.remove h.framebuffers h.programs

theorem runs_destroyFramebuffer (f : FramebufferId)
    (hC : ∀ b : σ, f ∈ (account b).framebuffers → C b (.destroyFramebuffer f)) :
    Runs id C (Balanced T (f ::ₘ F) P) (destroyFramebuffer f) (fun _ => Balanced T F P) := by
  refine Runs.call (fun b h => hC b h.framebuffers.mem) fun b h => ?_
  obtain ⟨hs, hacc, -⟩ := Accounting.follows (.destroyFramebuffer f) h.sound
  exact .of_account hs hacc h.textures h.framebuffers.remove h.programs

/-- The programs that stay are none of the one that goes. -/
theorem runs_deleteProgram (p : ProgramId)
    (hC : ∀ b : σ, p ∈ (account b).programs → p ∉ P → C b (.deleteProgram p)) :
    Runs id C (Balanced T F (p ::ₘ P)) (deleteProgram p) (fun _ => Balanced T F P) := by
  refine Runs.call (fun b h => hC b h.programs.mem (Multiset.nodup_cons.1 h.programs.1).1)
    fun b h => ?_
  obtain ⟨hs, hacc, -⟩ := Accounting.follows (.deleteProgram p) h.sound
  exact .of_account hs hacc h.textures h.framebuffers h.programs.remove

end

end FrameGraph.Gpu
