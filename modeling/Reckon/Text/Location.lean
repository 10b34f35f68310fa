/-!
# Places in a text

A place is a number of characters from the start of the text. Lines end at a line feed and at
nothing else; line and column count from one. The excerpt shows the line of the place with a caret
under it.
-/

namespace Reckon

/-- A place in a text as its reader sees it. -/
structure Location where
  line : Nat
  column : Nat
  excerpt : String
  deriving Repr, DecidableEq

namespace Location

/-- The part of the line of place `p` that lies before it. -/
def lineBefore (cs : List Char) (p : Nat) : List Char :=
  ((cs.take p).reverse.takeWhile (· != '\n')).reverse

/-- The part of the line of place `p` that starts at it. -/
def lineAfter (cs : List Char) (p : Nat) : List Char :=
  (cs.drop p).takeWhile (· != '\n')

/-- The line after `> `, and below it a caret in the given column. -/
def caret (text : List Char) (column : Nat) : List Char :=
  '>' :: ' ' :: text ++ '\n' :: ' ' :: ' ' :: List.replicate (column - 1) ' ' ++ ['^']

def ofPosition (cs : List Char) (p : Nat) : Location :=
  let before := lineBefore cs p
  { line := (cs.take p).count '\n' + 1
    column := before.length + 1
    excerpt := String.ofList (caret (before ++ lineAfter cs p) (before.length + 1)) }

end Location

end Reckon
