import Reckon.Text.Parts

/-!
# Styled text

A text has stretches in some style. The style is not seen, but a text is printed in segments that
end wherever a stretch starts or stops. A text is divided together with its stretches.
-/

namespace Reckon

/-- A stretch of a text, from one place to another, and the words of its style. -/
structure Span where
  start : Nat
  stop : Nat
  style : List (List Char) := []
  deriving Repr, DecidableEq

structure StyledText where
  chars : List Char
  spans : List Span := []
  deriving Repr, DecidableEq

namespace StyledText

/-- The text from one place to another, with the stretches that have characters there. -/
def slice (t : StyledText) (first last : Nat) : StyledText where
  chars := (t.chars.drop first).take (last - first)
  spans := t.spans.filterMap fun s =>
    let start := s.start - first
    let stop := min s.stop last - first
    if start < stop then some { s with start, stop } else none

def slicesAfter (t : StyledText) (first : Nat) : List Nat → List StyledText
  | [] => [t.slice first t.chars.length]
  | cut :: cuts => t.slice first cut :: t.slicesAfter cut cuts

/-- The parts between the cuts. Without any cut the text stays as it is. -/
def divide (t : StyledText) (cuts : List Nat) : List StyledText :=
  if cuts.isEmpty then [t] else t.slicesAfter 0 cuts

/-- The slices with the characters of `lines`, between which a line ends. -/
def linesAfter (t : StyledText) (first : Nat) : List (List Char) → List StyledText
  | [] => []
  | line :: lines =>
    let last := first + line.length
    t.slice first last :: t.linesAfter (last + 1) lines

def lines (t : StyledText) : List StyledText :=
  match parts (· == '\n') t.chars with
  | [_] => [t]
  | lines => t.linesAfter 0 lines

/-- Puts other characters into the place of the text. If there are fewer of them, the stretches end
with them. -/
def replace (t : StyledText) (cs : List Char) : StyledText where
  chars := cs
  spans :=
    if cs.length < t.chars.length then
      (t.spans.filter (·.start < cs.length)).map fun s => { s with stop := min s.stop cs.length }
    else t.spans

/-- The segments of a text that is at `index`. The reverse of the first so far is `read`. -/
def segmentsAfter (marks : List Nat) (index : Nat) (read : List Char) :
    List Char → List (List Char)
  | [] => [read.reverse]
  | c :: rest =>
    if marks.contains index && !read.isEmpty then
      read.reverse :: segmentsAfter marks (index + 1) [c] rest
    else segmentsAfter marks (index + 1) (c :: read) rest

/-- The text in segments. -/
def segments (t : StyledText) : List (List Char) :=
  segmentsAfter (t.spans.flatMap fun s => [s.start, s.stop]) 0 [] t.chars

end StyledText

end Reckon
