import FrameGraph.Dict
import FrameGraph.Json.Scan

/-!
# Whole documents and generic values

A document is `whole` if it can be read whatever its shape: nothing broken, every
number in range, every string free of half pairs, and lists and records nested no
deeper than allowed. A generic value is a whole document in which the fields of
every record stand in key order and the last of several equal keys has won.
-/
namespace FrameGraph.Json.Doc

mutual

/-- Readable whatever its shape, with at most `depth` lists and records inside
one another. -/
def whole (depth : Nat) : Doc → Bool
  | broken => false
  | string s => s.isSome
  | number n => n.number?.isSome
  | list ds closed => decide (0 < depth) && wholeItems (depth - 1) ds && closed
  | record fs closed => decide (0 < depth) && wholeFields (depth - 1) fs && closed
  | _ => true

def wholeItems (depth : Nat) : List Doc → Bool
  | [] => true
  | d :: ds => whole depth d && wholeItems depth ds

def wholeFields (depth : Nat) : List (Key × Doc) → Bool
  | [] => true
  | (.name _, d) :: fs => whole depth d && wholeFields depth fs
  | _ :: _ => false

end

/-- Fields in key order; the last of several equal keys wins. -/
def sorted (fs : List (String × Doc)) : List (Key × Doc) :=
  (Dict.ofList fs).entries.map fun f => (.name f.1, f.2)

mutual

/-- Sorts the fields of every record. -/
def ordered : Doc → Doc
  | list ds closed => .list (orderedItems ds) closed
  | record fs closed => .record (sorted (orderedFields fs)) closed
  | d => d

def orderedItems : List Doc → List Doc
  | [] => []
  | d :: ds => ordered d :: orderedItems ds

def orderedFields : List (Key × Doc) → List (String × Doc)
  | [] => []
  | (.name k, d) :: fs => (k, ordered d) :: orderedFields fs
  | _ :: fs => orderedFields fs

end

/-- Passes a document on if it is whole. -/
def settle (depth : Nat) (d : Doc) : Except Fault Doc :=
  if d.whole depth then .ok d else .error .malformed

/-- The value stored under a name. -/
def field? (name : String) : Doc → Option Doc
  | record fs _ => Dict.find? (.name name) fs
  | _ => none

end FrameGraph.Json.Doc

namespace FrameGraph.Json

/-- The generic value a text denotes. -/
def Reading.value (t : Reading) : Except Fault Doc :=
  if t.complete then (t.doc.settle maxDepth).map Doc.ordered else .error .malformed

end FrameGraph.Json
