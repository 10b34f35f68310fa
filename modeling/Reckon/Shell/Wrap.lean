import Reckon.Text.Blank
import Reckon.Text.Cluster
import Reckon.Shell.StyledText

/-!
# Lines that fit a width

A line that is too long for the console is broken before a word. A word that does not fit on any
line starts a new one and is cut to pieces that fill whole lines. Blanks belong to the word before
them, and those that do not fit are left out. At last, what is still too long is cut off.
-/

namespace Reckon.Wrap

/-! ## Words -/

/-- The words of a line with the blanks after them. The reverse of the first word so far is `word`;
it is `begun` when it holds more than blanks, and `ended` when blanks follow. -/
def wordsAfter (word : List Char) (begun ended : Bool) : List Char → List (List Char)
  | [] => if begun then [word.reverse] else []
  | c :: rest =>
    if isBlank c then wordsAfter (c :: word) begun begun rest
    else if ended then word.reverse :: wordsAfter [c] true false rest
    else wordsAfter (c :: word) true false rest

/-- The words of a line; blanks before the first belong to it. -/
def words (cs : List Char) : List (List Char) := wordsAfter [] false false cs

/-! ## Breaks -/

/-- A line on the way: the places where it is broken, the last one first, the place of the next
word, and the column where it starts. -/
structure Filling where
  breaks : List Nat := []
  place : Nat := 0
  column : Nat := 0

namespace Filling

/-- Starts a new line with a text, unless there is nothing before it. -/
def startLine (f : Filling) (cs : List Char) : Filling where
  breaks := if f.place = 0 then f.breaks else f.place :: f.breaks
  place := f.place + cs.length
  column := textColumns cs

/-- Adds a word. -/
def add (width : Nat) (f : Filling) (word : List Char) : Filling :=
  let needed := textColumns (trimEnd word)
  if f.column + needed ≤ width then
    { f with place := f.place + word.length, column := f.column + textColumns word }
  else if width < needed then
    { (Cluster.pieces width (Cluster.ofChars word)).foldl startLine f with
      place := f.place + word.length }
  else f.startLine word

end Filling

/-- The places where a line is broken. One of blanks only is not broken. -/
def breaks (width : Nat) (cs : List Char) : List Nat :=
  ((words cs).foldl (Filling.add width) {}).breaks.reverse

/-! ## Cuts -/

/-- Why a text that is too long cannot be cut: its clusters take no columns, or fewer than there
are. -/
inductive Error where
  | noColumns
  | fewColumns
  deriving Repr, DecidableEq

namespace Error

def message : Error → String
  | noColumns => "division by zero"
  | fewColumns => "list index out of range"

end Error

/-- Cuts off what takes more columns than the width. -/
def cut (width : Nat) (cs : List Char) : Except Error (List Char) :=
  if textColumns cs ≤ width then .ok cs
  else
    let ks := Cluster.ofChars cs
    let total := Cluster.totalColumns ks
    if total = 0 then .error .noColumns
    else if total < width then .error .fewColumns
    else .ok (Cluster.crop width ks)

/-- Leaves out blanks at the end of a line that make it longer than the width. -/
def dropBlanks (width : Nat) (cs : List Char) : List Char :=
  let blanks := cs.length - (trimEnd cs).length
  cs.take (cs.length - min blanks (cs.length - width))

/-! ## Lines -/

/-- The lines that a line is broken into. -/
def wrap (width : Nat) (t : StyledText) : Except Error (List StyledText) :=
  (t.divide (breaks width t.chars)).mapM fun line => do
    let line := line.replace (dropBlanks width line.chars)
    return line.replace (← cut width line.chars)

/-- The start of a line in segments that fits into `room` columns. -/
def cropSegments (room : Nat) : List (List Char) → Except Error (List Char)
  | [] => .ok []
  | cs :: rest =>
    let taken := textColumns cs
    if taken < room then (cropSegments (room - taken) rest).map (cs ++ ·)
    else cut room cs

/-- A line as it is printed. Its columns are counted segment by segment. -/
def row (width : Nat) (t : StyledText) : Except Error (List Char) :=
  let total := (t.segments.map textColumns).foldr (· + ·) 0
  if width < total then cropSegments width t.segments else .ok t.chars

end Reckon.Wrap
