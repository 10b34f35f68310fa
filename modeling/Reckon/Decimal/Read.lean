import Reckon.Text.Digit

/-!
# Numbers from decimal text

The digits may be of any script. The number is the double nearest to the decimal.
-/

namespace Reckon.Decimal

/-- The number that digits stand for, most significant first. -/
def ofDigits (ds : List Nat) : Nat := ds.foldl (fun n d => 10 * n + d) 0

/-- The value of digits before and after the point, times `10^exponent`. -/
def value (whole fraction : List Nat) (exponent : Int) : Float :=
  let scale := exponent - (fraction.length : Int)
  let mantissa := ofDigits (whole ++ fraction)
  if scale < 0 then Float.ofScientific mantissa true scale.natAbs
  else Float.ofScientific mantissa false scale.toNat

/-- The digits at the start of a text and what follows them. -/
def spanDigits : List Char → List Nat × List Char
  | [] => ([], [])
  | c :: rest =>
    match digitValue? c with
    | none => ([], c :: rest)
    | some d =>
      let (ds, tail) := spanDigits rest
      (d :: ds, tail)

/-- The sign at the start of a text: is it a minus? -/
def spanSign : List Char → Bool × List Char
  | '-' :: rest => (true, rest)
  | '+' :: rest => (false, rest)
  | rest => (false, rest)

/-- The digits after a point, if there is one. -/
def spanFraction : List Char → List Nat × List Char
  | '.' :: rest => spanDigits rest
  | rest => ([], rest)

/-- An exponent that ends the text. -/
def exponent? : List Char → Option Int
  | [] => some 0
  | c :: rest =>
    if c == 'e' || c == 'E' then
      let (negative, rest) := spanSign rest
      match spanDigits rest with
      | (d :: ds, []) => some (if negative then -(ofDigits (d :: ds) : Int) else ofDigits (d :: ds))
      | _ => none
    else none

/-- Reads digits with an optional point and exponent. -/
def unsigned? (cs : List Char) : Option Float :=
  let (whole, rest) := spanDigits cs
  let (fraction, rest) := spanFraction rest
  if whole.isEmpty && fraction.isEmpty then none
  else (exponent? rest).map (value whole fraction)

/-- Reads a number with an optional sign, `inf` or `nan`. -/
def read? (cs : List Char) : Option Float :=
  let (negative, rest) := spanSign cs
  let magnitude :=
    if rest = ['i', 'n', 'f'] then some (1.0 / 0.0)
    else if rest = ['n', 'a', 'n'] then some (0.0 / 0.0)
    else unsigned? rest
  magnitude.map fun x => if negative then -x else x

end Reckon.Decimal
