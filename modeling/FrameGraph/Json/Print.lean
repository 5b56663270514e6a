import FrameGraph.Json.Doc
import FrameGraph.Number.Hex

/-!
# From documents to text

The compact form: no blanks, fields in their order. In strings the quote, the
backslash and the control characters are escaped, the common ones of these by a
letter, and nothing else is.
-/
namespace FrameGraph.Json

namespace Print

/-- A character inside a string. -/
def escape (c : Char) : List Char :=
  if c = '"' then ['\\', '"']
  else if c = '\\' then ['\\', '\\']
  else if c = '\x08' then ['\\', 'b']
  else if c = '\t' then ['\\', 't']
  else if c = '\n' then ['\\', 'n']
  else if c = '\x0c' then ['\\', 'f']
  else if c = '\r' then ['\\', 'r']
  else if c < ' ' then
    ['\\', 'u', '0', '0', Nat.digitChar (c.toNat / 16), Nat.digitChar (c.toNat % 16)]
  else [c]

def quoted (s : String) : List Char := '"' :: (s.toList.flatMap escape ++ ['"'])

/-- Only a name can stand at the place of a key. -/
def key : Key → List Char
  | .name s => quoted s
  | _ => []

mutual

/-- The text of a document; what is no JSON leaves no trace. -/
def value : Doc → List Char
  | .null => ['n', 'u', 'l', 'l']
  | .bool true => ['t', 'r', 'u', 'e']
  | .bool false => ['f', 'a', 'l', 's', 'e']
  | .number n => n.chars
  | .string (some s) => quoted s
  | .string none => []
  | .list ds _ => '[' :: (items ds ++ [']'])
  | .record fs _ => '\x7b' :: (fields fs ++ ['\x7d'])
  | .broken => []

def items : List Doc → List Char
  | [] => []
  | [d] => value d
  | d :: d' :: ds => value d ++ ',' :: items (d' :: ds)

def fields : List (Key × Doc) → List Char
  | [] => []
  | [(k, d)] => key k ++ ':' :: value d
  | (k, d) :: f :: fs => key k ++ ':' :: value d ++ ',' :: fields (f :: fs)

end

end Print

/-- The document as compact text. -/
def Doc.compact (d : Doc) : String := String.ofList (Print.value d)

namespace Doc

/-! ## Building documents -/

def text (s : String) : Doc := .string (some s)

def items (ds : List Doc) : Doc := .list ds true

def fields (fs : List (String × Doc)) : Doc := .record (fs.map fun f => (.name f.1, f.2)) true

def natural (n : Nat) : Doc := .number (.ofNat n)

def integer (i : Int) : Doc := .number (.ofInt i)

/-- A finite single; there is no numeral for the others. -/
def single (x : Single) : Doc := if x.isFinite then .number (.ofSingle x) else .null

end Doc
end FrameGraph.Json
