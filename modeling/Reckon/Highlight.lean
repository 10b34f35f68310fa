import Reckon.Text.Word
import Reckon.Text.Digit
import Reckon.Text.Blank

/-!
# Highlighting

A text is cut into coloured pieces as it is typed, whether it is a program or not. At each place the
first of these that fits is taken: a number, an operator, a mark of punctuation, a name, a run of
blanks; any other character is an error. A name before an opening parenthesis is that of a function.
-/

namespace Reckon.Highlight

inductive Kind where
  | number
  | operator
  | punctuation
  | functionName
  | variableName
  | blank
  | error
  deriving Repr, DecidableEq

namespace Kind

def name : Kind → String
  | number => "Token.Literal.Number"
  | operator => "Token.Operator"
  | punctuation => "Token.Punctuation"
  | functionName => "Token.Name.Function"
  | variableName => "Token.Name.Variable"
  | blank => "Token.Text"
  | error => "Token.Error"

end Kind

/-- A piece of the text and the place where it starts. -/
structure Piece where
  start : Nat
  kind : Kind
  text : String
  deriving Repr, DecidableEq

def countWhile (p : Char → Bool) (cs : List Char) : Nat := (cs.takeWhile p).length

/-- The length of the number at the start: digits, or a point and digits after any digits. -/
def numberLength? (cs : List Char) : Option Nat :=
  let whole := countWhile isDecimalDigit cs
  let fraction :=
    match cs.drop whole with
    | '.' :: rest => countWhile isDecimalDigit rest
    | _ => 0
  if fraction ≠ 0 then some (whole + 1 + fraction)
  else if whole ≠ 0 then some whole
  else none

/-- The length of the name at the start: a letter, then letters and numerals. -/
def nameLength? : List Char → Option Nat
  | [] => none
  | c :: rest => if isWord c && !isDecimalDigit c then some (1 + countWhile isWord rest) else none

/-- Is the next character after blanks an opening parenthesis? -/
def opensCall (cs : List Char) : Bool := (cs.dropWhile isBlank).head? = some '('

/-- The kind and the length of the piece at the start of a text that begins with `c`. -/
def next (c : Char) (rest : List Char) : Kind × Nat :=
  match numberLength? (c :: rest) with
  | some n => (.number, n)
  | none =>
    if "+-*/^=".toList.contains c then (.operator, 1)
    else if "(),;".toList.contains c then (.punctuation, 1)
    else
      match nameLength? (c :: rest) with
      | some n =>
        (if opensCall ((c :: rest).drop n) then .functionName else .variableName, n)
      | none => if isBlank c then (.blank, countWhile isBlank (c :: rest)) else (.error, 1)

/-- The pieces from place `pos` on, the first `skip` characters belonging to the last piece. -/
def piecesFrom : List Char → (pos skip : Nat) → List Piece
  | [], _, _ => []
  | _ :: rest, pos, skip + 1 => piecesFrom rest (pos + 1) skip
  | c :: rest, pos, 0 =>
    let (kind, n) := next c rest
    ⟨pos, kind, String.ofList ((c :: rest).take n)⟩ :: piecesFrom rest (pos + 1) (n - 1)

def pieces (text : String) : List Piece := piecesFrom text.toList 0 0

end Reckon.Highlight
