/-!
# Sets of characters given by ranges

A property of characters is a list of ranges of code points. Upper and lower case letters often
take turns, so a set may also hold ranges of which every second code point belongs to it.
-/

namespace Reckon

/-- A set of characters: all of `ranges`, and every second character of `alternating`. -/
structure CharSet where
  ranges : List (Nat × Nat)
  alternating : List (Nat × Nat) := []

namespace CharSet

def containsCode (s : CharSet) (n : Nat) : Bool :=
  s.ranges.any (fun r => r.1 ≤ n && n ≤ r.2)
    || s.alternating.any (fun r => r.1 ≤ n && n ≤ r.2 && (n - r.1) % 2 == 0)

def contains (s : CharSet) (c : Char) : Bool := s.containsCode c.toNat

end CharSet

end Reckon
