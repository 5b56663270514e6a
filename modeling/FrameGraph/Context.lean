import FrameGraph.Dict
import FrameGraph.Script.Frame

/-!
# Script variables

Every variable is a register with a typed value, which stays until it is written
again or the script asks for another type. A request declares a variable for the
current frame; the declarations are kept by type, each with its position, so the
owner of the values can show a control for each of them.

Numbers and switches are fed back to the script as inputs. Texts are declared,
but never fed back, and images are no variables.
-/
namespace FrameGraph

inductive ContextValue where
  | float (v : Single)
  | int (v : Int32)
  | bool (v : Bool)
  | text (v : String)
  deriving DecidableEq, Repr

/-- A request and its position among those of its frame. -/
structure Declared (ρ : Type) where
  request : ρ
  position : Nat
  deriving DecidableEq, Repr

structure ContextStore where
  values : Dict String ContextValue := .empty
  floats : List (Declared FloatRequest) := []
  ints : List (Declared IntRequest) := []
  bools : List (Declared BoolRequest) := []
  texts : List (Declared TextRequest) := []
  /-- Names of the variables fed back to the script. -/
  active : Dict String Unit := .empty
  nextPosition : Nat := 0
  deriving DecidableEq, Repr

namespace ContextValue

/-- Both of one type. -/
def sameType : ContextValue → ContextValue → Bool
  | float _, float _ => true
  | int _, int _ => true
  | bool _, bool _ => true
  | text _, text _ => true
  | _, _ => false

def cases : List (Wire.Case ContextValue) :=
  [ .of "float" .single float fun | float v => some v | _ => none,
    .of "int" .int32 int fun | int v => some v | _ => none,
    .of "bool" .bool bool fun | bool v => some v | _ => none,
    .of "text" .text text fun | text v => some v | _ => none ]

def codec : Wire.Codec ContextValue := .beside cases

end ContextValue

namespace Declared

/-- The fields of the request, then the position. -/
def doc {ρ : Type} (c : Wire.Codec ρ) (d : Declared ρ) : Json.Doc :=
  match c.write d.request with
  | .record fields closed => .record (fields ++ [(.name "sort_idx", .natural d.position)]) closed
  | other => other

end Declared

namespace ContextStore

def empty : ContextStore := {}

def set (s : ContextStore) (name : String) (value : ContextValue) : ContextStore :=
  { s with values := s.values.insert name value }

def value? (s : ContextStore) (name : String) : Option ContextValue := s.values.get? name

/-- Forgets the declarations; values stay. -/
def beginFrame (s : ContextStore) : ContextStore := { values := s.values }

/-- The value of a variable: the stored one if it has the type of `default`,
otherwise `default`, which is then stored. -/
def settle (s : ContextStore) (name : String) (default : ContextValue) :
    ContextValue × ContextStore :=
  match s.value? name with
  | some v => if v.sameType default then (v, s) else (default, s.set name default)
  | none => (default, s.set name default)

/-- Names a variable as one the script reads. -/
def activate (s : ContextStore) (name : String) : ContextStore :=
  { s with active := s.active.insert name () }

/-- Declares what is requested, and returns the input it gives. -/
def resolve (s : ContextStore) : ContextRequest → Option ContextInput × ContextStore
  | .cachedImage _ | .loadedImage _ => (none, s)
  | .float r =>
    let (v, s) := s.settle r.name (.float r.default)
    let value := match v with | .float x => x | _ => r.default
    (some (.float r.name value),
      { s.activate r.name with
        floats := s.floats ++ [⟨r, s.nextPosition⟩], nextPosition := s.nextPosition + 1 })
  | .int r =>
    let (v, s) := s.settle r.name (.int r.default)
    let value := match v with | .int i => i | _ => r.default
    (some (.int r.name value),
      { s.activate r.name with
        ints := s.ints ++ [⟨r, s.nextPosition⟩], nextPosition := s.nextPosition + 1 })
  | .bool r =>
    let (v, s) := s.settle r.name (.bool r.default)
    let value := match v with | .bool b => b | _ => r.default
    (some (.int r.name (if value then 1 else 0)),
      { s.activate r.name with
        bools := s.bools ++ [⟨r, s.nextPosition⟩], nextPosition := s.nextPosition + 1 })
  | .text r =>
    let (_, s) := s.settle r.name (.text r.default)
    (none, { s with
      texts := s.texts ++ [⟨r, s.nextPosition⟩], nextPosition := s.nextPosition + 1 })

end ContextStore
end FrameGraph
