import FrameGraph.Json.Doc
import FrameGraph.Text.Affix

/-!
# From text to documents

`Doc.scan` goes as far as the grammar of JSON allows and marks the place where it
ends. A scanning function returns what it found and the rest of the text, or no
rest if nothing can follow any more.

Strings are scanned in two steps: `codes` undoes the escapes, where `\u` gives a
16-bit unit, and `joinPairs` puts surrogate pairs together. A character that is
not escaped is never half of a pair.
-/
namespace FrameGraph.Json

namespace Scan

def isBlank (c : Char) : Bool := c = ' ' || c = '\t' || c = '\n' || c = '\r'

def skipBlanks (cs : List Char) : List Char := cs.dropWhile isBlank

/-! ## Numerals -/

/-- The digits at the front of the text. -/
def leadingDigits : List Char → List Digit × List Char
  | [] => ([], [])
  | c :: cs =>
    match Decimal.ofChar? c with
    | some d => let (ds, rest) := leadingDigits cs; (d :: ds, rest)
    | none => ([], c :: cs)

/-- At least one digit. -/
def digits? (cs : List Char) : Option (List Digit × List Char) :=
  match leadingDigits cs with
  | ([], _) => none
  | found => some found

/-- The integer part: a zero stands alone. -/
def whole? (cs : List Char) : Option (List Digit × List Char) :=
  match digits? cs with
  | some (0 :: _ :: _, _) => none
  | found => found

/-- Nothing, or a point and digits. -/
def fraction? : List Char → Option (List Digit × List Char)
  | '.' :: cs => digits? cs
  | cs => some ([], cs)

def exponentDigits? (negative : Bool) (cs : List Char) :
    Option (Option (Bool × List Digit) × List Char) :=
  (digits? cs).map fun (ds, rest) => (some (negative, ds), rest)

/-- The sign of an exponent may be missing. -/
def signedExponent? : List Char → Option (Option (Bool × List Digit) × List Char)
  | '+' :: cs => exponentDigits? false cs
  | '-' :: cs => exponentDigits? true cs
  | cs => exponentDigits? false cs

/-- Nothing, or the letter and an exponent. -/
def exponent? : List Char → Option (Option (Bool × List Digit) × List Char)
  | 'e' :: cs => signedExponent? cs
  | 'E' :: cs => signedExponent? cs
  | cs => some (none, cs)

def unsigned? (negative : Bool) (cs : List Char) : Option (Numeral × List Char) := do
  let (whole, cs) ← whole? cs
  let (fraction, cs) ← fraction? cs
  let (exponent, cs) ← exponent? cs
  return (⟨negative, whole, fraction, exponent⟩, cs)

def numeral? : List Char → Option (Numeral × List Char)
  | '-' :: cs => unsigned? true cs
  | cs => unsigned? false cs

/-! ## Strings -/

def hexDigit? (c : Char) : Option Nat :=
  if '0' ≤ c ∧ c ≤ '9' then some (c.toNat - '0'.toNat)
  else if 'a' ≤ c ∧ c ≤ 'f' then some (c.toNat - 'a'.toNat + 10)
  else if 'A' ≤ c ∧ c ≤ 'F' then some (c.toNat - 'A'.toNat + 10)
  else none

def hexUnit? (a b c d : Char) : Option Nat := do
  let a ← hexDigit? a
  let b ← hexDigit? b
  let c ← hexDigit? c
  let d ← hexDigit? d
  return ((a * 16 + b) * 16 + c) * 16 + d

/-- The character a letter stands for behind a backslash. -/
def escaped? : Char → Option Char
  | '"' => some '"'
  | '\\' => some '\\'
  | '/' => some '/'
  | 'b' => some '\x08'
  | 'f' => some '\x0c'
  | 'n' => some '\n'
  | 'r' => some '\r'
  | 't' => some '\t'
  | _ => none

/-- The codes of a string up to its closing quote, and the rest of the text. -/
def codes? : List Char → Option (List Nat × List Char)
  | [] => none
  | '"' :: cs => some ([], cs)
  | '\\' :: 'u' :: a :: b :: c :: d :: cs => do
    let unit ← hexUnit? a b c d
    let (found, rest) ← codes? cs
    return (unit :: found, rest)
  | '\\' :: e :: cs => do
    let c ← escaped? e
    let (found, rest) ← codes? cs
    return (c.toNat :: found, rest)
  | c :: cs =>
    if c < ' ' then none
    else do
      let (found, rest) ← codes? cs
      return (c.toNat :: found, rest)

def isHighHalf (n : Nat) : Bool := 0xd800 ≤ n ∧ n < 0xdc00

def isLowHalf (n : Nat) : Bool := 0xdc00 ≤ n ∧ n < 0xe000

/-- Joins surrogate pairs; `none` if a half stands alone. -/
def joinPairs : List Nat → Option (List Char)
  | [] => some []
  | [n] => if isHighHalf n || isLowHalf n then none else some [Char.ofNat n]
  | high :: low :: ns =>
    if isHighHalf high then
      if isLowHalf low then
        (joinPairs ns).map (Char.ofNat (0x10000 + (high - 0xd800) * 0x400 + (low - 0xdc00)) :: ·)
      else none
    else if isLowHalf high then none
    else (joinPairs (low :: ns)).map (Char.ofNat high :: ·)

/-- A string behind its opening quote. -/
def string? (cs : List Char) : Option (Option String × List Char) :=
  (codes? cs).map fun (found, rest) => ((joinPairs found).map String.ofList, rest)

/-! ## Values -/

/-- A fixed word or nothing. -/
def wordOr (doc : Doc) (found : Option (List Char)) : Doc × Option (List Char) :=
  match found with
  | some rest => (doc, some rest)
  | none => (.broken, none)

mutual

/-- A value at the front of the text, which starts with no blank. -/
def value : Nat → List Char → Doc × Option (List Char)
  | 0, _ => (.broken, none)
  | fuel + 1, cs =>
    match cs with
    | [] => (.broken, none)
    | '"' :: cs =>
      match string? cs with
      | some (s, rest) => (.string s, some rest)
      | none => (.broken, none)
    | '[' :: cs =>
      match skipBlanks cs with
      | ']' :: rest => (.list [] true, some rest)
      | cs => let (items, rest) := items fuel cs; (.list items rest.isSome, rest)
    | '\x7b' :: cs =>
      match skipBlanks cs with
      | '\x7d' :: rest => (.record [] true, some rest)
      | cs => let (fields, rest) := fields fuel cs; (.record fields rest.isSome, rest)
    | 'n' :: cs => wordOr .null (Text.behind? ['u', 'l', 'l'] cs)
    | 't' :: cs => wordOr (.bool true) (Text.behind? ['r', 'u', 'e'] cs)
    | 'f' :: cs => wordOr (.bool false) (Text.behind? ['a', 'l', 's', 'e'] cs)
    | cs =>
      match numeral? cs with
      | some (n, rest) => (.number n, some rest)
      | none => (.broken, none)

/-- The items of a list up to its closing bracket. -/
def items : Nat → List Char → List Doc × Option (List Char)
  | 0, _ => ([], none)
  | fuel + 1, cs =>
    match value fuel cs with
    | (doc, none) => ([doc], none)
    | (doc, some rest) =>
      match skipBlanks rest with
      | ',' :: cs => let (docs, rest) := items fuel (skipBlanks cs); (doc :: docs, rest)
      | ']' :: rest => ([doc], some rest)
      | _ => ([doc], none)

/-- The fields of a record up to its closing brace. -/
def fields : Nat → List Char → List (Key × Doc) × Option (List Char)
  | 0, _ => ([], none)
  | fuel + 1, cs =>
    match cs with
    | '"' :: cs =>
      match string? cs with
      | none => ([], none)
      | some (s, rest) =>
        let key : Key := match s with | some name => .name name | none => .halfPair
        match skipBlanks rest with
        | ':' :: cs =>
          match value fuel (skipBlanks cs) with
          | (doc, none) => ([(key, doc)], none)
          | (doc, some rest) =>
            match skipBlanks rest with
            | ',' :: cs =>
              let (found, rest) := fields fuel (skipBlanks cs)
              ((key, doc) :: found, rest)
            | '\x7d' :: rest => ([(key, doc)], some rest)
            | _ => ([(key, doc)], none)
        | _ => ([(key, .broken)], none)
    | _ => ([], none)

end

end Scan

/-- A whole text: a document, and whether only blanks follow it. -/
structure Reading where
  doc : Doc
  complete : Bool

/-- Every value takes at least one character, every list and record two steps. -/
def Reading.scan (text : String) : Reading :=
  let cs := text.toList
  match Scan.value (2 * cs.length + 2) (Scan.skipBlanks cs) with
  | (doc, some rest) => ⟨doc, Scan.skipBlanks rest = []⟩
  | (doc, none) => ⟨doc, false⟩

end FrameGraph.Json
