import FrameGraph.Wire.Codec

/-!
# Records

The fields of a record are described one by one (`Fields.one`) and put together
with `Fields.and`; `Fields σ α` reads an `α` and keeps in `σ` what it has met so
far. A record is written with its fields in the order of the description, and is
read from either of two shapes:

* a record, whose fields come in any order. Unknown ones are skipped, a known one
  must not come twice, and what is missing at the end is reported in the order of
  the description;
* a list of the values in the order of the description.

A field that may be missing says what it is then; being null is not being
missing.
-/
namespace FrameGraph.Wire

open Json

/-- How a group of fields is read and written. -/
structure Fields (σ α : Type) where
  /-- Nothing met yet. -/
  start : σ
  /-- Takes a field in, or `none` if its name is unknown. -/
  accept : Mode → Nat → String → Doc → σ → Option (Except Fault σ)
  /-- The values, once all fields have been met. -/
  finish : σ → Except Fault α
  /-- The values from the front of a list; the flag tells whether it is closed. -/
  ofItems : Mode → Nat → Bool → List Doc → Except Fault (α × List Doc)
  write : α → List (String × Doc)

namespace Fields

variable {σ τ α β : Type}

/-- One field. `absent` is its value if it is missing, `skip` tells which values
are not written, `aliases` are further names it is read under. -/
def one (name : String) (c : Codec α) (absent : Option α) (aliases : List String)
    (skip : α → Bool) : Fields (Option α) α where
  start := none
  accept m depth key d met :=
    if key = name ∨ key ∈ aliases then
      some (if met.isSome then .error (.duplicateField name) else (c.read m depth d).map some)
    else none
  finish
    | some a => .ok a
    | none =>
      match absent with
      | some a => .ok a
      | none => .error (.missingField name)
  ofItems m depth closed
    | d :: ds => (c.read m depth d).map (·, ds)
    | [] =>
      match closed, absent with
      | true, some a => .ok (a, [])
      | _, _ => .error (Codec.tooShort closed)
  write a := if skip a then [] else [(name, c.write a)]

/-- A field that must be there. -/
def required (name : String) (c : Codec α) : Fields (Option α) α :=
  one name c none [] fun _ => false

/-- A field that may be missing. -/
def optional (name : String) (c : Codec α) (absent : α) : Fields (Option α) α :=
  one name c (some absent) [] fun _ => false

/-- A field that is missing, or left out, when there is nothing to tell. -/
def maybe (name : String) (c : Codec α) : Fields (Option (Option α)) (Option α) :=
  one name c.option (some none) [] Option.isNone

/-- The fields of `a`, then those of `b`. -/
def and (a : Fields σ α) (b : Fields τ β) : Fields (σ × τ) (α × β) where
  start := (a.start, b.start)
  accept m depth key d met :=
    match a.accept m depth key d met.1 with
    | some s => some (s.map (·, met.2))
    | none => (b.accept m depth key d met.2).map fun t => t.map (met.1, ·)
  finish met := do
    let x ← a.finish met.1
    let y ← b.finish met.2
    return (x, y)
  ofItems m depth closed ds := do
    let (x, ds) ← a.ofItems m depth closed ds
    let (y, ds) ← b.ofItems m depth closed ds
    return ((x, y), ds)
  write v := a.write v.1 ++ b.write v.2

/-- Goes through the fields of a record in order. -/
def gather (fs : Fields σ α) (m : Mode) (depth : Nat) : List (Key × Doc) → σ → Except Fault σ
  | [], met => .ok met
  | (.name key, d) :: rest, met =>
    match fs.accept m depth key d met with
    | some s => do fs.gather m depth rest (← s)
    | none => if d.sound then fs.gather m depth rest met else .error .malformed
  | _ :: _, _ => .error .malformed

/-- All values from a list, which must end behind the last one. -/
def readList (fs : Fields σ α) (m : Mode) (depth : Nat) (ds : List Doc) (closed : Bool) :
    Except Fault α := do
  if depth = 0 then throw .malformed
  let (a, rest) ← fs.ofItems m (depth - 1) closed ds
  if rest.isEmpty && closed then return a else throw (Codec.overlong m)

/-- All values from a record. -/
def readRecord (fs : Fields σ α) (m : Mode) (depth : Nat) (entries : List (Key × Doc))
    (closed : Bool) : Except Fault α := do
  if depth = 0 then throw .malformed
  let met ← fs.gather m (depth - 1) entries fs.start
  if closed then fs.finish met else throw .malformed

end Fields

namespace Codec

variable {σ α β : Type}

/-- A type made of fields. -/
def record (fs : Fields σ β) (build : β → α) (parts : α → β) : Codec α where
  read m depth
    | .record entries closed => (fs.readRecord m depth entries closed).map build
    | .list ds closed => (fs.readList m depth ds closed).map build
    | d => .error d.mistyped
  write a := Doc.fields (fs.write (parts a))

/-- A type made of values without names, in a list of fixed length. -/
def tuple (fs : Fields σ β) (build : β → α) (parts : α → β) : Codec α where
  read m depth
    | .list ds closed => (fs.readList m depth ds closed).map build
    | d => .error d.mistyped
  write a := Doc.items ((fs.write (parts a)).map Prod.snd)

end Codec
end FrameGraph.Wire
