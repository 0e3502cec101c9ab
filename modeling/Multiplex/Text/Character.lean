import Multiplex.Text.Character.Extending
import Multiplex.Text.Character.Unprintable

/-! Classes of characters. A set of characters is a list of inclusive ranges of code points. -/

namespace Multiplex
namespace Character

def within (ranges : List (Nat × Nat)) (c : Char) : Bool :=
  ranges.any fun (low, high) => low ≤ c.toNat && c.toNat ≤ high

/-- Such a character is shown as a part of the one before it. -/
def isExtending (c : Char) : Bool := within extendingRanges c

def isPrintable (c : Char) : Bool := !within unprintableRanges c

end Character
end Multiplex
