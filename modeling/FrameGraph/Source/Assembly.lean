import FrameGraph.Number.Overflow
import FrameGraph.Text.Lines

/-!
# Program text with its origins

A program is put together from fragments: text of the script, which knows the line
it starts on, and text that is made up. Every fragment is ended by a newline, its
own or an added one, so fragments never share a line and a line of the program
belongs to one line of one fragment.

For every fragment a block notes which lines of the program it takes up. Blocks are
in the order of their lines, so the block of a line is found by bisection. Lines are
numbered from 1, and all counting is arithmetic of 32-bit words: a line behind the last
word wraps around to 0, and a player that checks its arithmetic stops there.
-/
namespace FrameGraph

/-! ## Bisection -/

section
variable {α : Type}

/-- The last of the `size` places from `base` on that satisfies `p`, or `base`; to be
right, all places with `p` must come before all others. -/
def bisect (p : α → Bool) (xs : List α) (base size : Nat) : Nat :=
  if size ≤ 1 then base
  else
    let half := size / 2
    bisect p xs (if xs[base + half]?.any p then base + half else base) (size - half)
termination_by size
decreasing_by omega

/-- How many entries satisfy `p`, if those that do come first. -/
def partitionPoint (p : α → Bool) (xs : List α) : Nat :=
  let last := bisect p xs 0 xs.length
  if xs[last]?.any p then last + 1 else last

end

/-! ## Fragments and blocks -/

/-- A piece of text and, if it is from the script, the line it starts on. -/
structure Fragment where
  text : String
  origin : Option UInt32
  deriving DecidableEq, Repr

/-- The lines that a fragment takes up, and the script's line for the first of them. -/
structure Block where
  firstLine : UInt32
  lineCount : UInt32
  origin : Option UInt32
  deriving DecidableEq, Repr

structure Assembly where
  text : String := ""
  blocks : List Block := []
  /-- The line that the next fragment starts on. -/
  nextLine : UInt32 := 1
  deriving DecidableEq, Repr

namespace Block

/-- The sum that makes the line behind the block. -/
def endOp (b : Block) : WordOp := .sum b.firstLine b.lineCount

/-- The whole block stands above a line. -/
def above (line : UInt32) (b : Block) : Bool := b.firstLine + b.lineCount ≤ line

/-- The script's line for a line of the program that is not above the block. If it is no
word, this wraps around, and a checked step stops at `lineOp?`. -/
def line? (b : Block) (line : UInt32) : Option UInt32 :=
  if line < b.firstLine then none else b.origin.map (· + (line - b.firstLine))

/-- The sum that makes the script's line. -/
def lineOp? (b : Block) (line : UInt32) : Option WordOp :=
  if line < b.firstLine then none else b.origin.map fun origin => .sum origin (line - b.firstLine)

end Block

namespace Assembly

def empty : Assembly := {}

/-- Appends a fragment; an empty one leaves no line behind. The line behind it wraps around
if it is no word. -/
def add (a : Assembly) (f : Fragment) : Assembly :=
  if f.text = "" then a
  else
    let count := UInt32.ofNat (max (Text.lineCount f.text) 1)
    { text := a.text ++ Text.withNewline f.text
      blocks := a.blocks ++ [⟨a.nextLine, count, f.origin⟩]
      nextLine := a.nextLine + count }

/-- Appends text of the script that starts on the line `start`. -/
def addSource (a : Assembly) (text : String) (start : UInt32) : Assembly := a.add ⟨text, some start⟩

/-- Appends text that is made up. -/
def addMade (a : Assembly) (text : String) : Assembly := a.add ⟨text, none⟩

/-- The sums that are made while the blocks are put together. -/
def ops (a : Assembly) : List WordOp := a.blocks.map Block.endOp

def lineCount (a : Assembly) : Nat := a.nextLine.toNat - 1

/-- The script's line for a line of the program; `none` for made up text, line 0
and lines behind the end. -/
def sourceLine (a : Assembly) (line : UInt32) : Option UInt32 :=
  a.blocks[partitionPoint (Block.above line) a.blocks]?.bind fun b => b.line? line

/-- The sum that makes the script's line. The bisection makes only sums that were made
before, while the blocks were put together. -/
def lineOp? (a : Assembly) (line : UInt32) : Option WordOp :=
  a.blocks[partitionPoint (Block.above line) a.blocks]?.bind fun b => b.lineOp? line

end Assembly
end FrameGraph
