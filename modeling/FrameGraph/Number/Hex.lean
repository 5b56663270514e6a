/-!
# Hexadecimal text of words
-/
namespace FrameGraph

/-- The last `width` hexadecimal digits of `n`, in lower case. -/
def hex (width n : Nat) : String :=
  String.ofList ((List.range width).map fun i =>
    Nat.digitChar (n / Nat.pow 16 (width - 1 - i) % 16))

/-- The eight digits of a word. -/
def hexWord (w : UInt32) : String := hex 8 w.toNat

end FrameGraph
