import Reckon.Text.Location

/-!
# Match failures

A text that does not match fails at a place, where something else was expected.
-/

namespace Reckon

/-- The items in a row: `a`, `a or b`, `a, b, or c`. -/
def describeExpected : List String → String
  | [] => "nothing"
  | [a] => a
  | [a, b] => a ++ " or " ++ b
  | items => ", ".intercalate items.dropLast ++ ", or " ++ items.getLastD ""

/-- Where and why a text does not match. Line and column may be unknown. -/
structure MatchFailure where
  position : Int
  expected : String
  line : Option Int := none
  column : Option Int := none
  context : String := ""
  deriving Repr, DecidableEq

namespace MatchFailure

/-- Line and column if the line is known, and else the place in the text. -/
def place (f : MatchFailure) : String :=
  let plain := "Position " ++ toString f.position
  match f.line with
  | none => plain
  | some l =>
    if l = 0 then plain
    else
      let column :=
        match f.column with
        | some c => toString c
        | none => "None"
      "Line " ++ toString l ++ ", col " ++ column

def message (f : MatchFailure) : String :=
  let text := f.place ++ ": Expected " ++ f.expected
  if f.context.isEmpty then text else text ++ "\n" ++ f.context

/-- The failure at a place of a text. -/
def atPosition (cs : List Char) (p : Nat) (expected : List String) : MatchFailure :=
  let l := Location.ofPosition cs p
  ⟨p, describeExpected expected, some l.line, some l.column, l.excerpt⟩

end MatchFailure

end Reckon
