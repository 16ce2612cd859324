/-!
Sets of code points, given as blocks.
-/
set_option autoImplicit false

namespace Befunge.Text

-- Whether a code point lies in one of the blocks, each given by its first and last one.
def inBlocks (blocks : Array (Nat × Nat)) (n : Nat) : Bool :=
  blocks.any fun block => block.1 ≤ n && n ≤ block.2

end Befunge.Text
