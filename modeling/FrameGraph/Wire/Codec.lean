import FrameGraph.Json.Print
import FrameGraph.Json.Whole

/-!
# Codecs

A codec reads a type from a document and writes it as one. Reading follows the
document from front to back, so the first fault in the order of the text is the
one that is reported.

A document is read in one of three ways (`Mode`): straight from a text, from a
generic value, or from parts that had to be set aside until a tag told what they
are. The last two only see whole documents; the ways differ in how they take
names and in what they call a list that is too long.
-/
namespace FrameGraph.Wire

open Json

inductive Mode where
  /-- Straight from a text. -/
  | text
  /-- From a generic value. -/
  | value
  /-- From parts set aside earlier. -/
  | buffered
  deriving DecidableEq, Repr

/-- Reads and writes values of a type. Reading is told how many more lists and
records may be opened. -/
structure Codec (α : Type) where
  read : Mode → Nat → Doc → Except Fault α
  write : α → Doc

namespace Codec

variable {α : Type}

/-! ## Scalars -/

def text : Codec String where
  read _ _
    | .string (some s) => .ok s
    | d => .error d.mistyped
  write := Doc.text

def bool : Codec Bool where
  read _ _
    | .bool b => .ok b
    | d => .error d.mistyped
  write := Doc.bool

/-- A number, if `take?` has a place for it. -/
def readNumber (take? : Number → Option α) : Doc → Except Fault α
  | .number n =>
    match n.number? with
    | none => .error .malformed
    | some v =>
      match take? v with
      | some a => .ok a
      | none => .error .mistyped
  | d => .error d.mistyped

def uint32 : Codec UInt32 where
  read _ _ := readNumber Number.toUInt32?
  write n := Doc.natural n.toNat

def int32 : Codec Int32 where
  read _ _ := readNumber Number.toInt32?
  write i := Doc.integer i.toInt

def single : Codec Single where
  read _ _ := readNumber fun v => some v.toSingle
  write := Doc.single

/-! ## Options and lists -/

/-- Null or a value. -/
def option (c : Codec α) : Codec (Option α) where
  read m depth
    | .null => .ok none
    | d => (c.read m depth d).map some
  write
    | none => .null
    | some a => c.write a

def readItems (c : Codec α) (m : Mode) (depth : Nat) : List Doc → Except Fault (List α)
  | [] => .ok []
  | d :: ds => do
    let a ← c.read m depth d
    let as ← c.readItems m depth ds
    return a :: as

/-- Any number of values. -/
def list (c : Codec α) : Codec (List α) where
  read m depth
    | .list ds closed => do
      if depth = 0 then throw .malformed
      let as ← c.readItems m (depth - 1) ds
      if closed then return as else throw .malformed
    | d => .error d.mistyped
  write as := Doc.items (as.map c.write)

/-- What is wrong with a list that goes on, or breaks off, behind its last item. -/
def overlong : Mode → Fault
  | .text => .malformed
  | _ => .mistyped

/-- What is wrong with a list that ends too early. -/
def tooShort (closed : Bool) : Fault := if closed then .mistyped else .malformed

/-! ## Names -/

/-- The meaning of a name. -/
def named (table : List (String × α)) (name : String) : Except Fault α :=
  match table.lookup name with
  | some a => .ok a
  | none => .error (.unknownVariant name)

/-- A name that carries no data may be written as the only key of a record, over
null; among parts set aside an empty record does instead of null. -/
def isUnit (m : Mode) : Doc → Bool
  | .null => true
  | .record [] _ => m = .buffered
  | _ => false

/-- A name from a table. -/
def readName (table : List (String × α)) (m : Mode) (depth : Nat) : Doc → Except Fault α
  | .string (some s) => named table s
  | .record ((.name s, d) :: rest) closed => do
    if depth = 0 then throw .malformed
    if m ≠ .text ∧ rest ≠ [] then throw .mistyped
    let a ← named table s
    if !isUnit m d then throw d.mistyped
    if rest = [] ∧ closed then return a else throw .malformed
  | _ => .error (if m = .text then .malformed else .mistyped)

/-- One of finitely many names. -/
def names (table : List (String × α)) (name : α → String) : Codec α where
  read := readName table
  write a := Doc.text (name a)

/-! ## Whole texts -/

/-- Reads a text as it comes. -/
def parse (c : Codec α) (text : String) : Except Fault α := do
  let t := Reading.scan text
  let a ← c.read .text maxDepth t.doc
  if t.complete then return a else throw .malformed

/-- Reads a generic value. -/
def ofValue (c : Codec α) (d : Doc) : Except Fault α := c.read .value maxDepth d

/-- Reads a text by way of a generic value. -/
def parseValue (c : Codec α) (text : String) : Except Fault α := do
  c.ofValue (← (Reading.scan text).value)

def print (c : Codec α) (a : α) : String := (c.write a).compact

end Codec
end FrameGraph.Wire
