import FrameGraph.Compiler.Bridge
import FrameGraph.Proofs.Wire.Records
import FrameGraph.RecordFile

/-!
# Bundles and inputs come back

A recorded bundle is written with every case of a request and of a uniform's value, with nulls
among the uniforms, and with an error or without one. Each record is put together from its
fields, and comes back because they do. What can fail to come back is a number in single
precision, so those of a value are collected (`singles`) and each is asked to read back by
itself. The kind of an image is the one thing that is not written: its request is read as that
of a cached image (`kindless`), and the case of the request still tells the kind.

Results:
* `LoadResult.returns`, `FrameResult.returns`, `Bundle.returns`, `ContextInput.returns`: what
  becomes of each record.
* `wire_round_trip`: a bundle is read back from its text, and so are the inputs of a frame.
-/
namespace FrameGraph

open Json Wire Wire.Codec Wire.Fields

/-! ## What a script is made of -/

theorem Extent.returns (n : Nat) (e : Extent) : codec.Returns (n + 1) e e :=
  record_returns (and_returns (required_returns (uint32_returns n e.width))
    (required_returns (uint32_returns n e.height)) (by decide)) rfl

theorem PixelFormat.returns (n : Nat) (f : PixelFormat) : codec.Returns n f f :=
  names_returns n (by cases f <;> rfl)

theorem BlendMode.returns (n : Nat) (m : BlendMode) : codec.Returns n m m :=
  names_returns n (by cases m <;> rfl)

theorem SourceText.returns (n : Nat) (s : SourceText) : codec.Returns (n + 1) s s :=
  record_returns (and_returns (required_returns (text_returns n s.text))
    (optional_returns (uint32_returns n s.start)) (by decide)) rfl

theorem Declaration.returns (n : Nat) (d : Declaration) : codec.Returns (n + 2) d d :=
  record_returns (and_returns (required_returns (text_returns (n + 1) d.name))
    (required_returns (d.body.returns n)) (by decide)) rfl

theorem TypedName.returns (n : Nat) (t : TypedName) : codec.Returns (n + 1) t t :=
  record_returns (and_returns (required_returns (text_returns n t.name))
    (required_returns (text_returns n t.type)) (by decide)) rfl

theorem Diagnostic.returns (n : Nat) (d : Diagnostic) : codec.Returns (n + 1) d d :=
  record_returns (and_returns (optional_returns (uint32_returns n d.line))
    (and_returns (optional_returns (uint32_returns n d.column))
      (one_returns (text_returns n d.description) rfl) (by decide)) (by decide)) rfl

theorem ShaderDesc.returns (n : Nat) (d : ShaderDesc) : codec.Returns (n + 3) d d := by
  have hnames (ts : List TypedName) : (list TypedName.codec).Returns (n + 2) ts ts :=
    list_returns_self fun t _ => t.returns n
  have hincludes : (list text).Returns (n + 2) d.includes d.includes :=
    list_returns_self fun s _ => text_returns (n + 1) s
  exact record_returns
    (and_returns (required_returns (text_returns (n + 2) d.name))
      (and_returns (optional_returns hincludes)
        (and_returns (optional_returns (hnames d.uniforms))
          (and_returns (optional_returns (hnames d.samplers))
            (and_returns (optional_returns (hnames d.outputs))
              (and_returns (required_returns (d.body.returns (n + 1)))
                (optional_returns (d.blendMode.returns (n + 2))) (by decide)) (by decide))
            (by decide)) (by decide)) (by decide)) (by decide)) rfl

theorem LoadResult.returns (n : Nat) (r : LoadResult) : codec.Returns (n + 5) r r :=
  record_returns
    (and_returns (optional_returns (list_returns_self fun d _ => d.returns (n + 1)))
      (and_returns (optional_returns (list_returns_self fun d _ => d.returns n))
        (maybe_returns fun d _ => ⟨d.returns (n + 3), nofun⟩) (by decide)) (by decide)) rfl

/-! ## Values -/

section
variable {α : Type} {c : Codec α} {n : Nat}

theorem Vec2.returns {v : Vec2 α} (hx : c.Returns n v.x v.x) (hy : c.Returns n v.y v.y) :
    (codec c).Returns (n + 1) v v :=
  record_returns (and_returns (required_returns hx) (required_returns hy) (by decide)) rfl

theorem Vec3.returns {v : Vec3 α} (hx : c.Returns n v.x v.x) (hy : c.Returns n v.y v.y)
    (hz : c.Returns n v.z v.z) : (codec c).Returns (n + 1) v v :=
  record_returns (and_returns (required_returns hx)
    (and_returns (required_returns hy) (required_returns hz) (by decide)) (by decide)) rfl

theorem Vec4.returns {v : Vec4 α} (hx : c.Returns n v.x v.x) (hy : c.Returns n v.y v.y)
    (hz : c.Returns n v.z v.z) (hw : c.Returns n v.w v.w) : (codec c).Returns (n + 1) v v :=
  record_returns (and_returns (required_returns hx)
    (and_returns (required_returns hy)
      (and_returns (required_returns hz) (required_returns hw) (by decide)) (by decide))
    (by decide)) rfl

end

namespace UniformValue

/-- The numbers in single precision of a value. -/
def singles : UniformValue → List Single
  | float v => [v]
  | vec2 v => [v.x, v.y]
  | vec3 v => [v.x, v.y, v.z]
  | vec4 v => [v.x, v.y, v.z, v.w]
  | _ => []

theorem returns (n : Nat) {v : UniformValue} (h : ∀ x ∈ v.singles, Codec.single.ReadsBack x) :
    codec.Returns (n + 2) v v := by
  have hsingle {x : Single} (hx : x ∈ v.singles) : Codec.single.Returns n x x :=
    single_returns n (h x hx)
  cases v with
  | float v => exact beside_returns rfl rfl (single_returns (n + 1) (h v (by simp [singles]))) rfl
  | vec2 v =>
    exact beside_returns rfl rfl
      (Vec2.returns (hsingle (by simp [singles])) (hsingle (by simp [singles]))) rfl
  | vec3 v =>
    exact beside_returns rfl rfl (Vec3.returns (hsingle (by simp [singles]))
      (hsingle (by simp [singles])) (hsingle (by simp [singles]))) rfl
  | vec4 v =>
    exact beside_returns rfl rfl (Vec4.returns (hsingle (by simp [singles]))
      (hsingle (by simp [singles])) (hsingle (by simp [singles])) (hsingle (by simp [singles]))) rfl
  | int v => exact beside_returns rfl rfl (int32_returns (n + 1) v) rfl
  | ivec2 v =>
    exact beside_returns rfl rfl (Vec2.returns (int32_returns n _) (int32_returns n _)) rfl
  | ivec3 v =>
    exact beside_returns rfl rfl
      (Vec3.returns (int32_returns n _) (int32_returns n _) (int32_returns n _)) rfl
  | ivec4 v =>
    exact beside_returns rfl rfl (Vec4.returns (int32_returns n _) (int32_returns n _)
      (int32_returns n _) (int32_returns n _)) rfl
  | uint v => exact beside_returns rfl rfl (uint32_returns (n + 1) v) rfl
  | uvec2 v =>
    exact beside_returns rfl rfl (Vec2.returns (uint32_returns n _) (uint32_returns n _)) rfl
  | uvec3 v =>
    exact beside_returns rfl rfl
      (Vec3.returns (uint32_returns n _) (uint32_returns n _) (uint32_returns n _)) rfl
  | uvec4 v =>
    exact beside_returns rfl rfl (Vec4.returns (uint32_returns n _) (uint32_returns n _)
      (uint32_returns n _) (uint32_returns n _)) rfl

end UniformValue

/-! ## Requests -/

/-- The kind is not written, and is read as that of a cached image. -/
def ImageRequest.kindless (r : ImageRequest) : ImageRequest := { r with kind := .cached }

theorem ImageRequest.returns (n : Nat) (r : ImageRequest) : codec.Returns (n + 2) r r.kindless :=
  record_returns (and_returns (required_returns (uint32_returns (n + 1) r.id))
    (and_returns (required_returns (r.format.returns (n + 1)))
      (required_returns (r.size.returns n)) (by decide)) (by decide)) rfl

theorem FloatRequest.returns {n : Nat} {r : FloatRequest}
    (hdefault : Codec.single.Returns n r.default r.default)
    (hminimum : Codec.single.Returns n r.minimum r.minimum)
    (hmaximum : Codec.single.Returns n r.maximum r.maximum) : codec.Returns (n + 1) r r :=
  record_returns (and_returns (required_returns (text_returns n r.name))
    (and_returns (required_returns hdefault)
      (and_returns (optional_returns hminimum) (optional_returns hmaximum) (by decide))
      (by decide)) (by decide)) rfl

theorem IntRequest.returns (n : Nat) (r : IntRequest) : codec.Returns (n + 1) r r :=
  record_returns (and_returns (required_returns (text_returns n r.name))
    (and_returns (required_returns (int32_returns n r.default))
      (and_returns (optional_returns (int32_returns n r.minimum))
        (optional_returns (int32_returns n r.maximum)) (by decide)) (by decide)) (by decide)) rfl

theorem BoolRequest.returns (n : Nat) (r : BoolRequest) : codec.Returns (n + 1) r r :=
  record_returns (and_returns (required_returns (text_returns n r.name))
    (optional_returns (bool_returns n r.default)) (by decide)) rfl

theorem TextRequest.returns (n : Nat) (r : TextRequest) : codec.Returns (n + 1) r r :=
  record_returns (and_returns (required_returns (text_returns n r.name))
    (optional_returns (text_returns n r.default)) (by decide)) rfl

namespace ContextRequest

/-- The numbers in single precision of a request. -/
def singles : ContextRequest → List Single
  | float r => [r.default, r.minimum, r.maximum]
  | _ => []

/-- The request without the kind of its image, which its case tells. -/
def kindless : ContextRequest → ContextRequest
  | cachedImage r => cachedImage r.kindless
  | loadedImage r => loadedImage r.kindless
  | r => r

/-- An image is asked for by the case of its request alone. -/
theorem image?_kindless (r : ContextRequest) : r.kindless.image? = r.image? := by
  cases r <;> rfl

theorem returns (n : Nat) {r : ContextRequest} (h : ∀ x ∈ r.singles, Codec.single.ReadsBack x) :
    codec.Returns (n + 2) r r.kindless := by
  cases r with
  | cachedImage r => exact inner_returns rfl rfl (r.returns n) rfl rfl (of_decide_eq_true rfl)
  | loadedImage r => exact inner_returns rfl rfl (r.returns n) rfl rfl (of_decide_eq_true rfl)
  | float r =>
    have hsingle {x : Single} (hx : x ∈ (float r).singles) : Codec.single.Returns (n + 1) x x :=
      single_returns (n + 1) (h x hx)
    exact inner_returns rfl rfl (FloatRequest.returns (hsingle (by simp [singles]))
      (hsingle (by simp [singles])) (hsingle (by simp [singles]))) rfl rfl (of_decide_eq_true rfl)
  | int r => exact inner_returns rfl rfl (r.returns (n + 1)) rfl rfl (of_decide_eq_true rfl)
  | bool r => exact inner_returns rfl rfl (r.returns (n + 1)) rfl rfl (of_decide_eq_true rfl)
  | text r => exact inner_returns rfl rfl (r.returns (n + 1)) rfl rfl (of_decide_eq_true rfl)

end ContextRequest

/-! ## Frames -/

theorem ImageBinding.returns (n : Nat) (i : ImageBinding) : codec.Returns (n + 1) i i :=
  record_returns (required_returns (uint32_returns n i.id)) rfl

namespace Invocation

/-- The numbers in single precision of all uniforms that are set. -/
def singles (i : Invocation) : List Single := i.uniforms.reduceOption.flatMap UniformValue.singles

theorem uniforms_returns (n : Nat) {i : Invocation}
    (h : ∀ x ∈ i.singles, Codec.single.ReadsBack x) :
    (list UniformValue.codec.option).Returns (n + 3) i.uniforms i.uniforms := by
  refine list_returns_self fun v hv => ?_
  cases v with
  | none => exact option_none_returns (n + 2)
  | some v =>
    have hmem : v ∈ i.uniforms.reduceOption := List.reduceOption_mem_iff.2 hv
    have hsingles := v.returns n fun x hx => h x (List.mem_flatMap.2 ⟨v, hmem, hx⟩)
    exact option_some_returns hsingles (by cases v <;> nofun)

theorem returns (n : Nat) {i : Invocation} (h : ∀ x ∈ i.singles, Codec.single.ReadsBack x) :
    codec.Returns (n + 4) i i := by
  have hbindings (is : List ImageBinding) : (list ImageBinding.codec).Returns (n + 3) is is :=
    list_returns_self fun i _ => i.returns (n + 1)
  exact record_returns (and_returns (required_returns (text_returns (n + 3) i.shader))
    (and_returns (optional_returns (uniforms_returns n h))
      (and_returns (optional_returns (hbindings i.samplers))
        (optional_returns (hbindings i.attachments)) (by decide)) (by decide)) (by decide)) rfl

end Invocation

namespace FrameResult

/-- The numbers in single precision of a frame. -/
def singles (r : FrameResult) : List Single :=
  r.requests.flatMap ContextRequest.singles ++ r.invocations.flatMap Invocation.singles

/-- The frame without the kinds of its images. -/
def kindless (r : FrameResult) : FrameResult :=
  { r with requests := r.requests.map ContextRequest.kindless }

theorem returns (n : Nat) {r : FrameResult} (h : ∀ x ∈ r.singles, Codec.single.ReadsBack x) :
    codec.Returns (n + 6) r r.kindless := by
  obtain ⟨hrequests, hinvocations⟩ := List.forall_mem_append.1 h
  have hrequest : List.Forall₂ (ContextRequest.codec.Returns (n + 4)) r.requests
      (r.requests.map ContextRequest.kindless) :=
    List.forall₂_map_right_iff.2 (List.forall₂_same.2 fun q hq =>
      q.returns (n + 2) fun x hx => hrequests x (List.mem_flatMap.2 ⟨q, hq, hx⟩))
  have hinvocation : (list Invocation.codec).Returns (n + 5) r.invocations r.invocations :=
    list_returns_self fun i hi =>
      i.returns n fun x hx => hinvocations x (List.mem_flatMap.2 ⟨i, hi, hx⟩)
  exact record_returns (and_returns (optional_returns (list_returns hrequest))
    (and_returns (optional_returns hinvocation)
      (maybe_returns fun d _ => ⟨d.returns (n + 4), nofun⟩) (by decide)) (by decide)) rfl

end FrameResult

namespace ContextInput

/-- The numbers in single precision of an input. -/
def singles : ContextInput → List Single
  | float _ v => [v]
  | _ => []

theorem pair_returns {α : Type} {c : Codec α} {n : Nat} {v : α} (name : String)
    (h : c.Returns n v v) : (pair c).Returns (n + 1) (name, v) (name, v) :=
  record_returns (and_returns (required_returns (text_returns n name)) (required_returns h)
    (by decide)) rfl

theorem returns (n : Nat) {i : ContextInput} (h : ∀ x ∈ i.singles, Codec.single.ReadsBack x) :
    codec.Returns (n + 2) i i := by
  cases i with
  | float name v =>
    have hv := single_returns (n + 1) (h v List.mem_cons_self)
    exact inner_returns rfl rfl (pair_returns name hv) rfl rfl (of_decide_eq_true rfl)
  | int name v =>
    have hv := int32_returns (n + 1) v
    exact inner_returns rfl rfl (pair_returns name hv) rfl rfl (of_decide_eq_true rfl)
  | uvec2 name v =>
    have hv := Vec2.returns (uint32_returns n v.x) (uint32_returns n v.y)
    exact inner_returns rfl rfl (pair_returns name hv) rfl rfl (of_decide_eq_true rfl)

end ContextInput

namespace Bundle

/-- The numbers in single precision of a bundle. -/
def singles (b : Bundle) : List Single := b.frames.flatMap FrameResult.singles

/-- The bundle without the kinds of its images. -/
def kindless (b : Bundle) : Bundle := { b with frames := b.frames.map FrameResult.kindless }

theorem returns (n : Nat) {b : Bundle} (h : ∀ x ∈ b.singles, Codec.single.ReadsBack x) :
    codec.Returns (n + 8) b b.kindless := by
  have hframes : List.Forall₂ (FrameResult.codec.Returns (n + 6)) b.frames
      (b.frames.map FrameResult.kindless) :=
    List.forall₂_map_right_iff.2 (List.forall₂_same.2 fun r hr =>
      r.returns n fun x hx => h x (List.mem_flatMap.2 ⟨r, hr, hx⟩))
  exact record_returns (and_returns (optional_returns (text_returns (n + 7) b.script))
    (and_returns (required_returns (b.load.returns (n + 2)))
      (optional_returns (list_returns hframes)) (by decide)) (by decide)) rfl

/-- A bundle asks for the images that it asks for without their kinds. -/
theorem images_kindless (b : Bundle) :
    b.kindless.frames.map (fun r => r.requests.map ContextRequest.image?)
      = b.frames.map fun r => r.requests.map ContextRequest.image? := by
  simp only [kindless, FrameResult.kindless, List.map_map, Function.comp_def,
    ContextRequest.image?_kindless]

end Bundle

/-- A bundle whose singles read back one by one is read back as a whole, straight from its text
and by way of a generic value. Only the kinds of images are not written; every request still
asks for the image that it asked for. The text that a compiler behind a bridge is handed for a
frame is likewise read as the list of its inputs. -/
theorem wire_round_trip :
    (∀ b : Bundle, (∀ x ∈ b.singles, Codec.single.ReadsBack x) →
      let text := Bundle.codec.print b
      RecordFile.readBundle (some text) = .ok b.kindless ∧
        Bundle.codec.parseValue text = .ok b.kindless ∧
        b.kindless.frames.map (fun r => r.requests.map ContextRequest.image?)
          = b.frames.map fun r => r.requests.map ContextRequest.image?) ∧
    ∀ inputs : List ContextInput,
      (∀ x ∈ inputs.flatMap ContextInput.singles, Codec.single.ReadsBack x) →
      ∃ text,
        (∀ {β : Type} [JsonBridge β] (c : JsonCompiler β),
          (JsonCompiler.frame inputs c).2.bridge = (JsonBridge.frame text c.bridge).2) ∧
        (list ContextInput.codec).parse text = .ok inputs ∧
        (list ContextInput.codec).parseValue text = .ok inputs := by
  constructor
  · intro b h text
    have hreturns := b.returns 0 h
    have hdepth : 0 + 8 ≤ maxDepth := by decide
    refine ⟨?_, hreturns.parseValue hdepth, b.images_kindless⟩
    rw [RecordFile.readBundle, RecordFile.read, hreturns.parse hdepth]
    rfl
  · intro inputs h
    have hreturns : (list ContextInput.codec).Returns 3 inputs inputs :=
      list_returns_self fun i hi => i.returns 0 fun x hx => h x (List.mem_flatMap.2 ⟨i, hi, hx⟩)
    have hdepth : 3 ≤ maxDepth := by decide
    exact ⟨JsonCompiler.inputsText inputs, fun _ => rfl, hreturns.parse hdepth,
      hreturns.parseValue hdepth⟩

/-- A bundle with an escaped script, an image that is not cached and the single next to 0.1. -/
def Bundle.oneFrame : Bundle where
  script := "say \"hi\"\n"
  load := ⟨[⟨"interface", ⟨"vec4 c;", 3⟩⟩], [], some ⟨1, 2, "unfinished"⟩⟩
  frames :=
    [ ⟨[.loadedImage ⟨1, .rgba8, ⟨2, 3⟩, .loaded⟩, .float ⟨"level", ⟨0x3dcccccd⟩, .zero, .one⟩],
        [⟨"fill", [none, some (.vec2 ⟨.one, ⟨0x3dcccccd⟩⟩)], [⟨1⟩], []⟩], none⟩ ]

theorem wire_round_trip_sample :
    RecordFile.readBundle (some (Bundle.codec.print .oneFrame)) = .ok Bundle.oneFrame.kindless ∧
      Bundle.oneFrame.kindless ≠ Bundle.oneFrame ∧
      ∃ text, (list ContextInput.codec).parse text = .ok [.float "time" ⟨0x3dcccccd⟩] := by
  have hsingles : ∀ x ∈ Bundle.oneFrame.singles, Codec.single.ReadsBack x := by decide +kernel
  have hinput : ∀ x ∈ [ContextInput.float "time" ⟨0x3dcccccd⟩].flatMap ContextInput.singles,
      Codec.single.ReadsBack x := by decide +kernel
  obtain ⟨hread, -⟩ := wire_round_trip.1 Bundle.oneFrame hsingles
  obtain ⟨text, -, hparse, -⟩ := wire_round_trip.2 _ hinput
  exact ⟨hread, by decide, text, hparse⟩

end FrameGraph
