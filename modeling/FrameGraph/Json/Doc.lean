import FrameGraph.Json.Numeral

/-!
# JSON documents

A `Doc` is a text as far as the grammar of JSON goes: values in the order they
are written, and, where the text stops being JSON, a mark at that place. What
the grammar leaves open is decided by whoever reads a value: ranges of numbers
(`Numeral.number?`), halves of surrogate pairs, how deep values may be nested.

So a reader that goes through a document in order meets the faults of the text
and those of the data in the order in which they are written, and a value that
nobody reads is checked for its grammar alone (`Doc.sound`).
-/
namespace FrameGraph.Json

/-- A key is a string; at any other value the record breaks off. -/
inductive Key where
  | name (text : String)
  /-- A string with half of a surrogate pair in it. -/
  | halfPair
  deriving DecidableEq, Repr

inductive Doc where
  | null
  | bool (value : Bool)
  | number (numeral : Numeral)
  /-- A string, or `none` if half of a surrogate pair is in it. -/
  | string (text : Option String)
  /-- `closed` tells that the list ends as it should. -/
  | list (items : List Doc) (closed : Bool)
  | record (fields : List (Key × Doc)) (closed : Bool)
  /-- No JSON stands here. -/
  | broken
  deriving Repr

/-- How a text can fail to be what its reader expects. -/
inductive Fault where
  /-- The text is no JSON. -/
  | malformed
  | missingField (name : String)
  | duplicateField (name : String)
  | unknownVariant (name : String)
  /-- A value of another kind, out of range, or with the wrong number of items. -/
  | mistyped
  deriving DecidableEq, Repr

namespace Doc

mutual

/-- Grammar alone: nothing in the document is broken. -/
def sound : Doc → Bool
  | broken => false
  | list items closed => soundItems items && closed
  | record fields closed => soundFields fields && closed
  | _ => true

def soundItems : List Doc → Bool
  | [] => true
  | d :: ds => sound d && soundItems ds

def soundFields : List (Key × Doc) → Bool
  | [] => true
  | (_, d) :: fs => sound d && soundFields fs

end

/-- The fault of a value of another kind than expected: a list or a record is
refused where it starts, everything else is read first. -/
def mistyped : Doc → Fault
  | broken => .malformed
  | string none => .malformed
  | number n => if n.number?.isSome then .mistyped else .malformed
  | _ => .mistyped

end Doc

/-- How deep values may be nested. -/
def maxDepth : Nat := 127

end FrameGraph.Json
