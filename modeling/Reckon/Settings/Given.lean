import Reckon.Decimal.Layout
import Reckon.Text.Blank
import Reckon.Text.Digit
import Reckon.Text.Quoted

/-!
# Given values

A setting is given a value of any kind. It counts by its text, or by the integer that it is or that
its text denotes.
-/

namespace Reckon

/-- A value that a setting is given. -/
inductive Given where
  | nothing
  | flag (b : Bool)
  | integer (n : Int)
  | decimal (x : Float)
  | text (s : String)
  | list (xs : List Given)
  | record (fields : List (String × Given))
  deriving Repr, Inhabited

namespace Given

/-! ## Text -/

mutual

/-- The value as it is shown inside another one, texts between quotes. -/
def shown : Given → String
  | nothing => "None"
  | flag b => if b then "True" else "False"
  | integer n => toString n
  | decimal x => Decimal.write x
  | text s => quoted s
  | list xs => "[" ++ ", ".intercalate (shownItems xs) ++ "]"
  | record fields => "\x7b" ++ ", ".intercalate (shownFields fields) ++ "\x7d"

def shownItems : List Given → List String
  | [] => []
  | x :: rest => x.shown :: shownItems rest

def shownFields : List (String × Given) → List String
  | [] => []
  | (name, x) :: rest => (quoted name ++ ": " ++ x.shown) :: shownFields rest

end

/-- The value as text. -/
def toText : Given → String
  | text s => s
  | v => v.shown

/-! ## Integers -/

/-- The blanks that may stand around an integer: all but the four ASCII separators. -/
def isPadding (c : Char) : Bool := isBlank c && !(0x1c ≤ c.toNat && c.toNat ≤ 0x1f)

/-- The value of digits, of which two may be divided by one underscore; `fresh` tells that a digit
has to come next. -/
def digits? (fresh : Bool) (count value : Nat) : List Char → Option (Nat × Nat)
  | [] => if fresh then none else some (count, value)
  | c :: rest =>
    match digitValue? c with
    | some d => digits? false (count + 1) (10 * value + d) rest
    | none => if c == '_' && !fresh then digits? true count value rest else none

/-- Reads an integer with an optional sign. -/
def integerOfText? (s : String) : Option Int :=
  let cs := s.toList.dropWhile isPadding
  let cs := (cs.reverse.dropWhile isPadding).reverse
  let (negative, cs) : Bool × List Char :=
    match cs with
    | '-' :: rest => (true, rest)
    | '+' :: rest => (false, rest)
    | rest => (false, rest)
  match digits? true 0 0 cs with
  | some (count, n) =>
    if mostDigits < count then none else some (if negative then -(n : Int) else n)
  | none => none

/-- A finite number without its fraction. -/
def truncated (x : Float) : Int :=
  let b := Decimal.Binary.ofBits x.toBits
  let n := b.mantissa * Nat.pow 2 b.exponent.toNat / Nat.pow 2 (-b.exponent).toNat
  if x < 0.0 then -(n : Int) else n

def toInt? : Given → Option Int
  | text s => integerOfText? s
  | flag b => some (if b then 1 else 0)
  | integer n => some n
  | decimal x => some (truncated x)
  | _ => none

end Given

end Reckon
