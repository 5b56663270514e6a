import FrameGraph.Image.Extent
import FrameGraph.Number.Decimal
import FrameGraph.Text.Blank

/-!
# Arguments

Arguments come in pairs of a flag and its value, which is taken as it is even if
it looks like a flag. They are read from left to right: the last value of a flag
counts, and the first pair that is wrong is reported.

A number is an optional plus sign and decimal digits, at most a 32-bit word. A
size is two of them around the first `x` or `X`, each with blanks around it.
-/
namespace FrameGraph.CommandLine

inductive NumberError where
  | empty
  | invalidDigit
  | tooLarge
  deriving DecidableEq, Repr

inductive ArgumentError where
  | unknown (argument : String)
  | missingValue (flag : String)
  | invalidFrames (value : String) (cause : NumberError)
  /-- There is no `x` in it. -/
  | invalidSize (value : String)
  | invalidWidth (value : String) (cause : NumberError)
  | invalidHeight (value : String) (cause : NumberError)
  deriving DecidableEq, Repr

@[ext]
structure Arguments where
  bundle : Option String := none
  frames : UInt32 := 1
  size : Extent := ⟨256, 256⟩
  output : String := "out.png"
  config : Option String := none
  deriving DecidableEq, Repr

inductive Flag where
  | bundle
  | frames
  | size
  | output
  | config
  deriving DecidableEq, Repr

namespace NumberError

def message : NumberError → String
  | empty => "cannot parse integer from empty string"
  | invalidDigit => "invalid digit found in string"
  | tooLarge => "number too large to fit in target type"

end NumberError

namespace ArgumentError

def message : ArgumentError → String
  | unknown argument =>
    s!"unknown argument: {argument}. supported: --bundle <path> [--frames N] [--size WxH]"
      ++ " [--output out.png] [--config cfg.json]"
  | missingValue flag => s!"missing value for {flag}"
  | invalidFrames value cause => s!"invalid --frames '{value}': {cause.message}"
  | invalidSize value => s!"invalid --size '{value}', expected WxH"
  | invalidWidth value cause => s!"invalid width in '{value}': {cause.message}"
  | invalidHeight value cause => s!"invalid height in '{value}': {cause.message}"

end ArgumentError

namespace Flag

def name : Flag → String
  | bundle => "--bundle"
  | frames => "--frames"
  | size => "--size"
  | output => "--output"
  | config => "--config"

/-- The output has a short flag, too. -/
def ofString? (argument : String) : Option Flag :=
  if argument = "-o" then some output
  else [bundle, frames, size, output, config].find? fun f => f.name = argument

end Flag

/-! ## Values -/

/-- Takes digits into a word; what stands first in the text is reported first. -/
def digitsFrom (n : Nat) : List Char → Except NumberError Nat
  | [] => .ok n
  | c :: cs =>
    match Decimal.ofChar? c with
    | none => .error .invalidDigit
    | some d =>
      if 10 * n + d.val < Nat.pow 2 32 then digitsFrom (10 * n + d.val) cs else .error .tooLarge

/-- Digits behind an optional plus sign, which cannot stand alone. -/
def parseNumber (cs : List Char) : Except NumberError UInt32 :=
  match cs with
  | [] => .error .empty
  | ['+'] => .error .invalidDigit
  | '+' :: cs => (digitsFrom 0 cs).map UInt32.ofNat
  | cs => (digitsFrom 0 cs).map UInt32.ofNat

/-- The texts before and behind the first `x` or `X`. -/
def splitSize : List Char → Option (List Char × List Char)
  | [] => none
  | c :: cs =>
    if c = 'x' || c = 'X' then some ([], cs)
    else (splitSize cs).map fun (w, h) => (c :: w, h)

def parseSize (value : String) : Except ArgumentError Extent :=
  match splitSize value.toList with
  | none => .error (.invalidSize value)
  | some (w, h) => do
    let width ← (parseNumber (Text.trim w)).mapError (.invalidWidth value)
    let height ← (parseNumber (Text.trim h)).mapError (.invalidHeight value)
    return ⟨width, height⟩

/-! ## Pairs -/

/-- What the arguments are once a flag has a value. -/
def Arguments.set (a : Arguments) (flag : Flag) (value : String) : Except ArgumentError Arguments :=
  match flag with
  | .bundle => .ok { a with bundle := some value }
  | .frames => do
    let frames ← (parseNumber value.toList).mapError (.invalidFrames value)
    return { a with frames }
  | .size => do
    let size ← parseSize value
    return { a with size }
  | .output => .ok { a with output := value }
  | .config => .ok { a with config := some value }

/-- Reads pairs on top of what is known already. -/
def parseFrom (a : Arguments) : List String → Except ArgumentError Arguments
  | [] => .ok a
  | [argument] =>
    match Flag.ofString? argument with
    | none => .error (.unknown argument)
    | some flag => .error (.missingValue flag.name)
  | argument :: value :: rest =>
    match Flag.ofString? argument with
    | none => .error (.unknown argument)
    | some flag => do parseFrom (← a.set flag value) rest

def parse (arguments : List String) : Except ArgumentError Arguments := parseFrom {} arguments

end FrameGraph.CommandLine
