import Reckon.Decimal.Shortest

/-!
# Decimal text of numbers

A number is written with the fewest digits that read back. Numbers of middle size are written
positionally with at least one digit after the point, the others with an exponent, whose sign is
always written. Integers of moderate size can also be written without a point.
-/

namespace Reckon.Decimal

/-- Where positional notation ends, and how an exponent is written. -/
structure Layout where
  /-- The least exponent of a first digit that is written positionally. -/
  least : Int
  /-- The first exponent beyond positional notation. -/
  bound : Int
  exponentDigits : Nat

/-- Positional from `0.0001` to below `10^16`, exponents with at least two digits. -/
def plain : Layout := ⟨-4, 16, 2⟩

def zeros (n : Nat) : String := String.ofList (List.replicate n '0')

namespace Layout

def exponent (l : Layout) (e : Int) : String :=
  let ds := toString e.natAbs
  "e" ++ (if e < 0 then "-" else "+") ++ zeros (l.exponentDigits - ds.length) ++ ds

/-- The digits of `s`, its first digit having the exponent `s.exponent` plus the number of digits
that follow it. -/
def render (l : Layout) (s : Scaled) : String :=
  let ds := toString s.digits
  let n := ds.length
  let e := s.exponent + (n : Int) - 1
  if l.least ≤ e ∧ e < l.bound then
    if e < 0 then "0." ++ zeros ((-e).toNat - 1) ++ ds
    else if 0 ≤ s.exponent then ds ++ zeros s.exponent.toNat ++ ".0"
    else
      let whole := ds.toList.take (e.toNat + 1)
      let rest := ds.toList.drop (e.toNat + 1)
      String.ofList (whole ++ '.' :: rest)
  else
    match ds.toList with
    | [] => l.exponent e
    | [d] => String.ofList [d] ++ l.exponent e
    | d :: rest => String.ofList (d :: '.' :: rest) ++ l.exponent e

end Layout

def isNegative (bits : UInt64) : Bool := Nat.pow 2 63 ≤ bits.toNat

/-- The text of a number: the shortest that reads back, `inf`, `-inf` or `nan`. -/
def write (x : Float) : String :=
  if x.isNaN then "nan"
  else
    let bits := x.toBits
    let sign := if isNegative bits then "-" else ""
    if x.isInf then sign ++ "inf"
    else
      let b := Binary.ofBits bits
      if b.mantissa = 0 then sign ++ "0.0" else sign ++ plain.render b.shortest

/-- The integer `m · 2^q`, if it is one. -/
def Binary.toNat? (b : Binary) : Option Nat :=
  if 0 ≤ b.exponent then some (b.mantissa * Nat.pow 2 b.exponent.toNat)
  else
    let d := Nat.pow 2 (-b.exponent).toNat
    if b.mantissa % d = 0 then some (b.mantissa / d) else none

/-- The text of a number for a reader: an integer below `10^16` without a point, and any other
number as `write` has it. -/
def display (x : Float) : String :=
  if x.isNaN || x.isInf then write x
  else
    match (Binary.ofBits x.toBits).toNat? with
    | some n =>
      if n < Nat.pow 10 16 then
        (if isNegative x.toBits && n ≠ 0 then "-" else "") ++ toString n
      else write x
    | none => write x

end Reckon.Decimal
