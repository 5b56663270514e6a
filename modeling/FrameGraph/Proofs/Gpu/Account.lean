import FrameGraph.Gpu.Device
import FrameGraph.Gpu.Recorder
import FrameGraph.Proofs.Gpu.Trail

/-!
# The account of a backend

Which objects are live, which program is in use and which framebuffer is bound
follows from the calls and their answers alone. `Account.after` says how, and an
`Accounting` backend keeps to it; the handles it returns are those of no live
object. The recording backend and the device backend are such backends, and so is
every layer that refuses some of the calls.

Results:
* `Objects.Follows`: a step of the objects that keeps to the account; one lemma
  for each operation on the objects.
* the instances for `Recorder`, `Device` and `Faulty`.
-/
namespace FrameGraph.Gpu

structure Account where
  textures : Set TextureId := ∅
  framebuffers : Set FramebufferId := ∅
  programs : Set ProgramId := ∅
  inUse : Option ProgramId := none
  /-- No framebuffer stands for the surface. -/
  bound : Option FramebufferId := none

namespace Account

/-- The account after a call that got this answer. -/
def after (k : Account) : {a : Answer} → Call a → a.Of → Account
  | _, .createTexture .., .ok t => { k with textures := insert t k.textures }
  | _, .destroyTexture t, _ => { k with textures := k.textures \ {t} }
  | _, .createFramebuffer, .ok f => { k with framebuffers := insert f k.framebuffers }
  | _, .destroyFramebuffer f, _ =>
    { k with
      framebuffers := k.framebuffers \ {f}
      bound := if k.bound = some f then none else k.bound }
  | _, .compileProgram _, .ok p => { k with programs := insert p k.programs }
  | _, .deleteProgram p, _ =>
    { k with
      programs := k.programs \ {p}
      inUse := if k.inUse = some p then none else k.inUse }
  | _, .useProgram p, .ok () => { k with inUse := some p }
  | _, .bindFramebuffer f, _ => { k with bound := f }
  | _, _, _ => k

/-- A handle that a call returns is not that of a live object. -/
def Fresh (k : Account) : {a : Answer} → Call a → a.Of → Prop
  | _, .createTexture .., .ok t => t ∉ k.textures
  | _, .createFramebuffer, .ok f => f ∉ k.framebuffers
  | _, .compileProgram _, .ok p => p ∉ k.programs
  | _, _, _ => True

theorem after_refused (k : Account) {a : Answer} {call : Call a} {r : Refusal} {answer : a.Of}
    (h : call.refused r = some answer) : k.after call answer = k ∧ k.Fresh call answer := by
  cases call <;> simp only [Call.refused, Option.some.injEq, reduceCtorEq] at h <;> subst h <;>
    exact ⟨rfl, trivial⟩

end Account

/-- A backend whose answers tell what is live on it. -/
class Accounting (σ : Type) [Backend σ] where
  account : σ → Account
  /-- What makes sure that new handles are new. -/
  Sound : σ → Prop
  follows : ∀ {a : Answer} (call : Call a) {b : σ}, Sound b →
    Sound (Backend.perform call b).2 ∧
    account (Backend.perform call b).2 = (account b).after call (Backend.perform call b).1 ∧
    (account b).Fresh call (Backend.perform call b).1

export Accounting (account Sound)

/-! ## Objects -/

namespace Objects

variable {π : Type}

def account (o : Objects π) : Account where
  textures := {t | o.textures.contains t}
  framebuffers := {f | o.framebuffers.contains f}
  programs := {p | o.programs.contains p}
  inUse := o.current
  bound := o.bound

/-- The next number is above those of all live objects. -/
structure Numbered (o : Objects π) : Prop where
  textures : ∀ t ∈ o.account.textures, t.number < o.nextId
  framebuffers : ∀ f ∈ o.account.framebuffers, f.number < o.nextId
  programs : ∀ p ∈ o.account.programs, p.number < o.nextId

theorem Numbered.of_account {o : Objects π} {k : Account} (hacc : o.account = k)
    (ht : ∀ t ∈ k.textures, t.number < o.nextId) (hf : ∀ f ∈ k.framebuffers, f.number < o.nextId)
    (hp : ∀ p ∈ k.programs, p.number < o.nextId) : o.Numbered := by
  subst hacc
  exact ⟨ht, hf, hp⟩

/-- A call with this answer, as far as the account is concerned. -/
def Follows (o : Objects π) {a : Answer} (call : Call a) (answer : a.Of) (o' : Objects π) : Prop :=
  o'.Numbered ∧ o'.account = o.account.after call answer ∧ o.account.Fresh call answer

variable {o o' : Objects π}

theorem account_empty {n : Nat} : ({ nextId := n } : Objects π).account = {} := by
  simp [account, Dict.contains]

theorem numbered_empty {n : Nat} : ({ nextId := n } : Objects π).Numbered := by
  constructor <;> intro x hx <;> simp [account, Dict.contains] at hx

/-- Nothing the account speaks of has changed. -/
theorem Follows.same {a : Answer} {call : Call a} {answer : a.Of} (h : o.Numbered)
    (hid : o'.nextId = o.nextId) (hacc : o'.account = o.account)
    (hcall : o.account.after call answer = o.account ∧ o.account.Fresh call answer) :
    o.Follows call answer o' := by
  refine ⟨.of_account hacc ?_ ?_ ?_, hacc.trans hcall.1.symm, hcall.2⟩ <;> rw [hid]
  · exact h.textures
  · exact h.framebuffers
  · exact h.programs

theorem contains_insert {κ ν : Type} [DecidableEq κ] [Ord κ] (d : Dict κ ν) (k : κ) (v : ν) :
    {j | (d.insert k v).contains j} = insert k {j | d.contains j} := by
  ext j
  by_cases hj : j = k <;> simp [Dict.contains, hj]

theorem contains_erase {κ ν : Type} [DecidableEq κ] (d : Dict κ ν) (k : κ) :
    {j | (d.erase k).contains j} = {j | d.contains j} \ {k} := by
  ext j
  by_cases hj : j = k <;> simp [Dict.contains, hj]

theorem lt_succ_of_mem_insert {α : Type} {number : α → Nat} {s : Set α} {n : Nat} {new : α}
    (h : ∀ x ∈ s, number x < n) (hnew : number new = n) : ∀ x ∈ insert new s, number x < n + 1 := by
  intro x hx
  rcases hx with rfl | hx
  · omega
  · exact Nat.lt_succ_of_lt (h x hx)

theorem addTexture_follows (h : o.Numbered) (format : PixelFormat) (size : Extent)
    (info : TextureInfo) :
    o.Follows (.createTexture format size) (.ok (o.addTexture info).1) (o.addTexture info).2 := by
  have hacc : (o.addTexture info).2.account
      = { o.account with textures := insert ⟨o.nextId⟩ o.account.textures } := by
    simp [account, addTexture, contains_insert]
  refine ⟨.of_account hacc ?_ ?_ ?_, hacc, ?_⟩
  · exact lt_succ_of_mem_insert h.textures rfl
  · exact fun f hf => Nat.lt_succ_of_lt (h.framebuffers f hf)
  · exact fun p hp => Nat.lt_succ_of_lt (h.programs p hp)
  · exact fun ht => Nat.lt_irrefl _ (h.textures _ ht)

theorem addFramebuffer_follows (h : o.Numbered) :
    o.Follows .createFramebuffer (.ok o.addFramebuffer.1) o.addFramebuffer.2 := by
  have hacc : o.addFramebuffer.2.account
      = { o.account with framebuffers := insert ⟨o.nextId⟩ o.account.framebuffers } := by
    simp [account, addFramebuffer, contains_insert]
  refine ⟨.of_account hacc ?_ ?_ ?_, hacc, ?_⟩
  · exact fun t ht => Nat.lt_succ_of_lt (h.textures t ht)
  · exact lt_succ_of_mem_insert h.framebuffers rfl
  · exact fun p hp => Nat.lt_succ_of_lt (h.programs p hp)
  · exact fun hf => Nat.lt_irrefl _ (h.framebuffers _ hf)

theorem addProgram_follows (h : o.Numbered) (source : String) (state : π) :
    o.Follows (.compileProgram source) (.ok (o.addProgram state).1) (o.addProgram state).2 := by
  have hacc : (o.addProgram state).2.account
      = { o.account with programs := insert ⟨o.nextId⟩ o.account.programs } := by
    simp [account, addProgram, contains_insert]
  refine ⟨.of_account hacc ?_ ?_ ?_, hacc, ?_⟩
  · exact fun t ht => Nat.lt_succ_of_lt (h.textures t ht)
  · exact fun f hf => Nat.lt_succ_of_lt (h.framebuffers f hf)
  · exact lt_succ_of_mem_insert h.programs rfl
  · exact fun hp => Nat.lt_irrefl _ (h.programs _ hp)

theorem removeTexture_follows (h : o.Numbered) (t : TextureId) :
    o.Follows (.destroyTexture t) () (o.removeTexture t) := by
  have hacc : (o.removeTexture t).account
      = { o.account with textures := o.account.textures \ {t} } := by
    simp [account, removeTexture, contains_erase]
  refine ⟨.of_account hacc ?_ ?_ ?_, hacc, trivial⟩
  · exact fun t ht => h.textures t ht.1
  · exact h.framebuffers
  · exact h.programs

theorem removeFramebuffer_follows (h : o.Numbered) (f : FramebufferId) :
    o.Follows (.destroyFramebuffer f) () (o.removeFramebuffer f) := by
  have hacc : (o.removeFramebuffer f).account = o.account.after (.destroyFramebuffer f) () := by
    simp only [account, removeFramebuffer, contains_erase]
    rfl
  refine ⟨.of_account hacc ?_ ?_ ?_, hacc, trivial⟩
  · exact h.textures
  · exact fun f hf => h.framebuffers f hf.1
  · exact h.programs

theorem removeProgram_follows (h : o.Numbered) (p : ProgramId) :
    o.Follows (.deleteProgram p) () (o.removeProgram p) := by
  have hacc : (o.removeProgram p).account = o.account.after (.deleteProgram p) () := by
    simp only [account, removeProgram, contains_erase]
    rfl
  refine ⟨.of_account hacc ?_ ?_ ?_, hacc, trivial⟩
  · exact h.textures
  · exact h.framebuffers
  · exact fun p hp => h.programs p hp.1

theorem bindFramebuffer_follows (h : o.Numbered) (f : Option FramebufferId) :
    o.Follows (.bindFramebuffer f) () { o with bound := f } :=
  ⟨⟨h.textures, h.framebuffers, h.programs⟩, rfl, trivial⟩

theorem contains_of_get? {κ ν : Type} [DecidableEq κ] {d : Dict κ ν} {k : κ} {v : ν}
    (h : d.get? k = some v) : k ∈ {j | d.contains j} := by
  simp [Dict.contains, h]

/-- Changing what a live framebuffer draws into leaves the account alone. -/
theorem account_setTargets {f : FramebufferId} (h : f ∈ o.account.framebuffers) (t : Targets) :
    (o.setTargets f t).account = o.account := by
  have hf : {j | (o.framebuffers.insert f t).contains j} = {j | o.framebuffers.contains j} := by
    rw [contains_insert]
    exact Set.insert_eq_of_mem h
  simp only [account, setTargets, hf]

theorem account_setProgram {p : ProgramId} (h : p ∈ o.account.programs) (state : π) :
    (o.setProgram p state).account = o.account := by
  have hp : {j | (o.programs.insert p state).contains j} = {j | o.programs.contains j} := by
    rw [contains_insert]
    exact Set.insert_eq_of_mem h
  simp only [account, setProgram, hp]

/-- Only what a live framebuffer draws into is another. -/
def Retargets (o o' : Objects π) : Prop :=
  ∃ f ∈ o.account.framebuffers, ∃ t, o' = o.setTargets f t

theorem framebuffer_ok {f : FramebufferId} {t : Targets} (h : o.framebuffer f = .ok t) :
    f ∈ o.account.framebuffers := by
  unfold framebuffer at h
  split at h
  · next hg => exact contains_of_get? hg
  · cases h

theorem retargets_of_ok {f : FramebufferId} {g : Targets → Targets}
    (h : (o.framebuffer f >>= fun t => pure (o.setTargets f (g t))) = .ok o') : o.Retargets o' := by
  cases hf : o.framebuffer f with
  | error e => rw [hf] at h; cases h
  | ok t => rw [hf] at h; cases h; exact ⟨f, framebuffer_ok hf, _, rfl⟩

theorem attachColor_ok {f : FramebufferId} {slot : UInt32} {t : Option TextureId}
    (h : o.attachColor f slot t = .ok o') : o.Retargets o' := by
  cases t with
  | none => exact retargets_of_ok (g := fun ts => ts.attach slot none) h
  | some t =>
    cases ht : o.texture t with
    | error e => simp only [attachColor, ht] at h; cases h
    | ok info =>
      simp only [attachColor, ht] at h
      exact retargets_of_ok (g := fun ts => ts.attach slot (some t)) h

theorem setDrawBuffers_ok {f : FramebufferId} {slots : List UInt32}
    (h : o.setDrawBuffers f slots = .ok o') : o.Retargets o' :=
  retargets_of_ok (g := fun t => { t with drawBuffers := slots }) h

theorem useProgram_ok {p : ProgramId} (h : o.useProgram p = .ok o') :
    o' = { o with current := some p } := by
  unfold useProgram at h
  cases hp : o.program p with
  | error e => rw [hp] at h; cases h
  | ok state => rw [hp] at h; cases h; rfl

theorem inUse_ok {p : ProgramId} {state : π} (h : o.inUse = .ok (p, state)) :
    o.current = some p ∧ o.programs.get? p = some state := by
  unfold inUse program at h
  split at h
  · cases h
  · next q hq =>
    split at h
    · next hg => cases h; exact ⟨hq, hg⟩
    · cases h

/-! ### Calls that may fail -/

/-- A refused step leaves the account alone. -/
theorem failed_follows (h : o.Numbered) {call : Call .done} (e : Error) :
    o.Follows call (.error e) o :=
  .same h rfl rfl (by cases call <;> exact ⟨rfl, trivial⟩)

/-- A step that may fail keeps to the account if it does so whenever it succeeds;
the objects may be only a part of the state. -/
theorem attempt_follows {ρ : Type} {view : ρ → Objects π} {step : ρ → Except Error ρ} {b : ρ}
    (h : (view b).Numbered) {call : Call .done}
    (hstep : ∀ b', step b = .ok b' → (view b).Follows call (.ok ()) (view b')) :
    (view b).Follows call (attempt step b).1 (view (attempt step b).2) := by
  cases hs : step b with
  | ok b' => simpa only [attempt, hs] using hstep b' hs
  | error e => simpa only [attempt, hs] using failed_follows h e

theorem retargets_follows (h : o.Numbered) {call : Call .done} (ho : o.Retargets o')
    (hcall : o.account.after call (.ok ()) = o.account ∧ o.account.Fresh call (.ok ())) :
    o.Follows call (.ok ()) o' := by
  obtain ⟨f, hf, t, rfl⟩ := ho
  exact .same h rfl (account_setTargets hf t) hcall

theorem setProgram_follows (h : o.Numbered) {l : Program.Location} {v : UniformValue}
    {p : ProgramId} {state : π} (hp : o.inUse = .ok (p, state)) (state' : π) :
    o.Follows (.setUniform l v) (.ok ()) (o.setProgram p state') :=
  .same h rfl (account_setProgram (contains_of_get? (inUse_ok hp).2) state') ⟨rfl, trivial⟩

theorem useProgram_follows (h : o.Numbered) {p : ProgramId} (ho : o.useProgram p = .ok o') :
    o.Follows (.useProgram p) (.ok ()) o' := by
  rw [useProgram_ok ho]
  exact ⟨⟨h.textures, h.framebuffers, h.programs⟩, rfl, trivial⟩

end Objects

/-! ## Backends -/

namespace Recorder

variable {fe : Program.FrontEnd}

theorem update_ok {r r' : Recorder fe}
    {step : Objects RecordedProgram → Except Error (Objects RecordedProgram)}
    (h : r.update step = .ok r') : step r.objects = .ok r'.objects := by
  unfold update at h
  cases hs : step r.objects with
  | error e => rw [hs] at h; cases h
  | ok o => rw [hs] at h; cases h; rfl

theorem setUniform_ok {o o' : Objects RecordedProgram} {l : Program.Location} {v : UniformValue}
    (h : setUniform l v o = .ok o') :
    ∃ p state, o.inUse = .ok (p, state) ∧
      o' = o.setProgram p { state with uniforms := state.uniforms.insert l.index v } := by
  unfold setUniform at h
  cases hu : o.inUse with
  | error e => rw [hu] at h; cases h
  | ok q =>
    obtain ⟨p, state⟩ := q
    rw [hu] at h
    cases hs : settable state.layout l v with
    | error e => simp only [bind, Except.bind, hs] at h; cases h
    | ok slot => simp only [bind, Except.bind, hs] at h; cases h; exact ⟨p, state, rfl, rfl⟩

theorem perform_follows {r : Recorder fe} (h : r.objects.Numbered) {a : Answer} (call : Call a) :
    r.objects.Follows call (perform call r).1 (perform call r).2.objects := by
  cases call with
  | createTexture format size =>
    simp only [perform, createTexture]
    split
    · exact Objects.addTexture_follows h format size _
    · exact .same h rfl rfl ⟨rfl, trivial⟩
  | destroyTexture t =>
    simp only [perform, destroyTexture]
    split
    · exact Objects.removeTexture_follows h t
    · next ht =>
      -- what is not live is not taken out of the account either
      have hdiff : r.objects.account.textures \ {t} = r.objects.account.textures :=
        Set.sdiff_singleton_eq_self ht
      exact .same h rfl rfl ⟨by simp only [Account.after, hdiff], trivial⟩
  | createFramebuffer => exact Objects.addFramebuffer_follows h
  | destroyFramebuffer f =>
    simp only [perform, destroyFramebuffer]
    split <;> exact Objects.removeFramebuffer_follows h f
  | attachColor f slot t =>
    exact Objects.attempt_follows h fun r' hr =>
      Objects.retargets_follows h (Objects.attachColor_ok (update_ok hr)) ⟨rfl, trivial⟩
  | setDrawBuffers f slots =>
    exact Objects.attempt_follows h fun r' hr =>
      Objects.retargets_follows h (Objects.setDrawBuffers_ok (update_ok hr)) ⟨rfl, trivial⟩
  | compileProgram source =>
    simp only [perform, compileProgram]
    split
    · exact .same h rfl rfl ⟨rfl, trivial⟩
    · exact Objects.addProgram_follows h source _
  | deleteProgram p =>
    simp only [perform, deleteProgram]
    split <;> exact Objects.removeProgram_follows h p
  | useProgram p =>
    exact Objects.attempt_follows h fun r' hr => Objects.useProgram_follows h (update_ok hr)
  | setUniform l v =>
    refine Objects.attempt_follows h fun r' hr => ?_
    obtain ⟨p, state, hp, ho⟩ := setUniform_ok (update_ok hr)
    rw [ho]
    exact Objects.setProgram_follows h hp _
  | bindTexture unit t => cases t <;> exact .same h rfl rfl ⟨rfl, trivial⟩
  | bindFramebuffer f => exact Objects.bindFramebuffer_follows h f
  | drawFullscreen =>
    refine Objects.attempt_follows h fun r' hr => ?_
    cases hd : currentDraw r.objects with
    | error e => rw [hd] at hr; cases hr
    | ok d => rw [hd] at hr; cases hr; exact .same h rfl rfl ⟨rfl, trivial⟩
  | clear color =>
    simp only [perform, clear]
    split <;> exact .same h rfl rfl ⟨rfl, trivial⟩
  | uniformLocation | setViewport | setBlend | surfaceSize | resizeSurface | readSurface
  | endFrame => exact .same h rfl rfl ⟨rfl, trivial⟩

instance : Accounting (Recorder fe) where
  account r := r.objects.account
  Sound r := r.objects.Numbered
  follows call _ h := perform_follows h call

end Recorder

namespace Device

variable {fe : Program.FrontEnd}

theorem update_ok {d d' : Device fe}
    {step : Objects DeviceProgram → Except Error (Objects DeviceProgram)}
    (h : d.update step = .ok d') : step d.objects = .ok d'.objects := by
  unfold update at h
  cases hs : step d.objects with
  | error e => rw [hs] at h; cases h
  | ok o => rw [hs] at h; cases h; rfl

theorem setUniform_ok {o o' : Objects DeviceProgram} {l : Program.Location} {v : UniformValue}
    (h : setUniform l v o = .ok o') :
    ∃ p state state', o.inUse = .ok (p, state) ∧ o' = o.setProgram p state' := by
  unfold setUniform at h
  cases hu : o.inUse with
  | error e => rw [hu] at h; cases h
  | ok q =>
    obtain ⟨p, state⟩ := q
    rw [hu] at h
    cases hs : settable state.layout l v with
    | error e => simp only [bind, Except.bind, hs] at h; cases h
    | ok slot =>
      cases ha : assign state l v slot with
      | error e => simp only [bind, Except.bind, hs, ha] at h; cases h
      | ok state' =>
        simp only [bind, Except.bind, hs, ha] at h
        cases h
        exact ⟨p, state, state', rfl, rfl⟩

theorem perform_follows {d : Device fe} (h : d.objects.Numbered) {a : Answer} (call : Call a) :
    d.objects.Follows call (perform call d).1 (perform call d).2.objects := by
  cases call with
  | createTexture format size =>
    simp only [perform, createTexture]
    split
    · exact Objects.addTexture_follows h format size _
    · exact .same h rfl rfl ⟨rfl, trivial⟩
  | destroyTexture t => exact Objects.removeTexture_follows h t
  | createFramebuffer => exact Objects.addFramebuffer_follows h
  | destroyFramebuffer f => exact Objects.removeFramebuffer_follows h f
  | attachColor f slot t =>
    exact Objects.attempt_follows h fun d' hd =>
      Objects.retargets_follows h (Objects.attachColor_ok (update_ok hd)) ⟨rfl, trivial⟩
  | setDrawBuffers f slots =>
    exact Objects.attempt_follows h fun d' hd =>
      Objects.retargets_follows h (Objects.setDrawBuffers_ok (update_ok hd)) ⟨rfl, trivial⟩
  | compileProgram source =>
    simp only [perform, compileProgram]
    split
    · exact .same h rfl rfl ⟨rfl, trivial⟩
    · exact Objects.addProgram_follows h source _
  | deleteProgram p => exact Objects.removeProgram_follows h p
  | useProgram p =>
    exact Objects.attempt_follows h fun d' hd => Objects.useProgram_follows h (update_ok hd)
  | setUniform l v =>
    refine Objects.attempt_follows h fun d' hd => ?_
    obtain ⟨p, state, state', hp, ho⟩ := setUniform_ok (update_ok hd)
    rw [ho]
    exact Objects.setProgram_follows h hp _
  | bindTexture unit t => cases t <;> exact .same h rfl rfl ⟨rfl, trivial⟩
  | bindFramebuffer f => exact Objects.bindFramebuffer_follows h f
  | drawFullscreen =>
    refine Objects.attempt_follows h fun d' hd => ?_
    cases hs : submission d.objects with
    | error e => rw [hs] at hd; cases hd
    | ok s => rw [hs] at hd; cases hd; exact .same h rfl rfl ⟨rfl, trivial⟩
  | uniformLocation | setViewport | setBlend | clear | surfaceSize | resizeSurface | readSurface
  | endFrame => exact .same h rfl rfl ⟨rfl, trivial⟩

instance : Accounting (Device fe) where
  account d := d.objects.account
  Sound d := d.objects.Numbered
  follows call _ h := perform_follows h call

end Device

namespace Faulty

variable {σ : Type} [Backend σ]

/-- A call is refused, or the backend behind the layer performs it. -/
theorem perform_cases {a : Answer} (call : Call a) (f : Faulty σ) :
    (∃ r answer, call.refused r = some answer ∧ (perform call f).1 = answer ∧
      (perform call f).2.inner = f.inner) ∨
    ((perform call f).1 = (Backend.perform call f.inner).1 ∧
      (perform call f).2.inner = (Backend.perform call f.inner).2) := by
  unfold perform
  split
  · next answer hr =>
    left
    obtain ⟨r, -, hr⟩ := Option.bind_eq_some_iff.1 hr
    exact ⟨r, answer, hr, rfl, rfl⟩
  · exact .inr ⟨rfl, rfl⟩

instance [Accounting σ] : Accounting (Faulty σ) where
  account f := account f.inner
  Sound f := Sound f.inner
  follows call f h := by
    rcases perform_cases call f with ⟨r, answer, hr, h₁, h₂⟩ | ⟨h₁, h₂⟩
    · obtain ⟨hafter, hfresh⟩ := Account.after_refused (account f.inner) hr
      simp only [Backend.perform, h₁, h₂]
      exact ⟨h, hafter.symm, hfresh⟩
    · have := Accounting.follows call h
      simp only [Backend.perform] at *
      rw [h₁, h₂]
      exact this

end Faulty

end FrameGraph.Gpu
