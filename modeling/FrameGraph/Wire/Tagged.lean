import FrameGraph.Wire.Codec

/-!
# Tagged unions

A value of a union is written with a tag that names its case. With `inner` tags
the tag is one more field among those of the case, with `beside` tags it is the
first of two fields, and the value of the case is the second.

Reading takes the fields in any order. What comes before the tag is set aside, as
long as it is whole, and read once the case is known. As a list, the tag comes
first.

A tag is a plain string. Only in the field beside a content may it take the other
form of a name, the only key of a record.
-/
namespace FrameGraph.Wire

open Json

/-- One case of a union: its tag, and how to get in and out of it. -/
structure Case (α : Type) where
  tag : String
  read : Mode → Nat → Doc → Except Fault α
  write : α → Option Doc

namespace Case

variable {α β : Type}

def of (tag : String) (c : Codec β) (inject : β → α) (project : α → Option β) : Case α where
  tag := tag
  read m depth d := (c.read m depth d).map inject
  write a := (project a).map c.write

/-- The cases under their tags. -/
def table (cases : List (Case α)) : List (String × Case α) := cases.map fun c => (c.tag, c)

/-- Tag and content of a value, by the first case it belongs to. -/
def content (cases : List (Case α)) (a : α) : Option (String × Doc) :=
  cases.findSome? fun c => (c.write a).map fun d => (c.tag, d)

end Case

namespace Codec

variable {α : Type}

/-- The name of the tag's field. -/
def tagField : String := "type"

/-- The name of the content's field beside a tag. -/
def contentField : String := "value"

/-- A tag as a plain string. -/
def readTag (cases : List (Case α)) : Doc → Except Fault (Case α)
  | .string (some s) => named (Case.table cases) s
  | d => .error d.mistyped

/-! ## A tag among the fields -/

/-- The case, and the other fields in their order. -/
def gatherInner (cases : List (Case α)) (depth : Nat) :
    List (Key × Doc) → Option (Case α) → Except Fault (Option (Case α) × List (Key × Doc))
  | [], tag => .ok (tag, [])
  | (.name key, d) :: rest, tag => do
    if key = tagField then
      if tag.isSome then throw (.duplicateField tagField)
      let c ← readTag cases d
      gatherInner cases depth rest (some c)
    else
      let d ← d.settle depth
      let (tag, others) ← gatherInner cases depth rest tag
      return (tag, (.name key, d) :: others)
  | _ :: _, _ => .error .malformed

/-- Every item is whole. -/
def settleItems (depth : Nat) (ds : List Doc) : Except Fault (List Doc) :=
  ds.mapM fun d => d.settle depth

def withTag (tag : String) : Doc → Doc
  | .record fs closed => .record ((.name tagField, Doc.text tag) :: fs) closed
  | d => d

/-- A union whose tag is one more field of the case. -/
def inner (cases : List (Case α)) : Codec α where
  read _ depth
    | .record entries closed => do
      if depth = 0 then throw .malformed
      let (tag, others) ← gatherInner cases (depth - 1) entries none
      if !closed then throw .malformed
      match tag with
      | some c => c.read .buffered depth (.record others true)
      | none => throw (.missingField tagField)
    | .list ds closed => do
      if depth = 0 then throw .malformed
      match ds with
      | [] => throw (if closed then .missingField tagField else .malformed)
      | d :: ds =>
        let c ← readTag cases d
        let ds ← settleItems (depth - 1) ds
        if !closed then throw .malformed
        c.read .buffered depth (.list ds true)
    | d => .error d.mistyped
  write a :=
    match Case.content cases a with
    | some (tag, d) => withTag tag d
    | none => .null

/-! ## A tag beside its content -/

/-- What has been met of tag and content. -/
inductive Beside (α : Type) where
  | nothing
  | tag (c : Case α)
  | content (d : Doc)
  | both (a : α)

namespace Beside

def hasTag : Beside α → Bool
  | tag _ | both _ => true
  | _ => false

def hasContent : Beside α → Bool
  | content _ | both _ => true
  | _ => false

/-- Takes the tag in. -/
def addTag (cases : List (Case α)) (m : Mode) (depth : Nat) (d : Doc) (met : Beside α) :
    Except Fault (Beside α) := do
  if met.hasTag then throw (.duplicateField tagField)
  let c ← readName (Case.table cases) m depth d
  match met with
  | content d => return both (← c.read .buffered depth d)
  | _ => return tag c

/-- Takes the content in; before the tag it is set aside. -/
def addContent (m : Mode) (depth : Nat) (d : Doc) (met : Beside α) : Except Fault (Beside α) := do
  if met.hasContent then throw (.duplicateField contentField)
  match met with
  | tag c => return both (← c.read m depth d)
  | _ => return content (← d.settle depth)

def finish : Beside α → Except Fault α
  | both a => .ok a
  | tag _ => .error (.missingField contentField)
  | _ => .error (.missingField tagField)

/-- Goes through the fields in order; unknown ones are skipped. -/
def gather (cases : List (Case α)) (m : Mode) (depth : Nat) :
    List (Key × Doc) → Beside α → Except Fault (Beside α)
  | [], met => .ok met
  | (.name key, d) :: rest, met => do
    if key = tagField then gather cases m depth rest (← met.addTag cases m depth d)
    else if key = contentField then gather cases m depth rest (← met.addContent m depth d)
    else if d.sound then gather cases m depth rest met
    else throw .malformed
  | _ :: _, _ => .error .malformed

end Beside

/-- A union whose tag and content are the two fields of a record. -/
def beside (cases : List (Case α)) : Codec α where
  read m depth
    | .record entries closed => do
      if depth = 0 then throw .malformed
      let met ← Beside.gather cases m (depth - 1) entries .nothing
      if closed then met.finish else throw .malformed
    | .list ds closed => do
      if depth = 0 then throw .malformed
      match ds with
      | [] => throw (tooShort closed)
      | d :: ds =>
        let c ← readTag cases d
        match ds with
        | [] => throw (tooShort closed)
        | d :: ds =>
          let a ← c.read m (depth - 1) d
          if ds.isEmpty && closed then return a else throw (overlong m)
    | d => .error d.mistyped
  write a :=
    match Case.content cases a with
    | some (tag, d) => Doc.fields [(tagField, Doc.text tag), (contentField, d)]
    | none => .null

end Codec
end FrameGraph.Wire
