/-!
# The parts of a text

A text is cut at some of its characters, which belong to no part. So the number of parts is one more
than the number of cuts, and a part may be empty.
-/

namespace Reckon

/-- The parts of a text with `part` before it, in reverse. -/
def partsAfter (cut : Char → Bool) (part : List Char) : List Char → List (List Char)
  | [] => [part.reverse]
  | c :: rest =>
    if cut c then part.reverse :: partsAfter cut [] rest else partsAfter cut (c :: part) rest

def parts (cut : Char → Bool) (cs : List Char) : List (List Char) := partsAfter cut [] cs

end Reckon
