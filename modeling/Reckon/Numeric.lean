import Reckon.Decimal.Shortest

/-!
# Functions on numbers

Functions on doubles that are exact or rounded once: rounding to integers, remainders, the length
of a hypotenuse, and the choice of the smaller or larger number.
-/

namespace Reckon.Numeric

open Decimal (Binary)

def nan : Float := 0.0 / 0.0

def infinity : Float := 1.0 / 0.0

def isNegative (x : Float) : Bool := Nat.pow 2 63 ≤ x.toBits.toNat

/-- The magnitude of `x` with the sign of `s`. -/
def withSign (x s : Float) : Float := if isNegative s then -x.abs else x.abs

/-- The nearest integer, the even one of two. Adding `2^52` leaves no room for a fraction. -/
def roundEven (x : Float) : Float :=
  let m := x.abs
  if m < 4503599627370496.0 then withSign (m + 4503599627370496.0 - 4503599627370496.0) x else x

/-- One, minus one or zero; undefined for no number. -/
def sign (x : Float) : Float :=
  if x > 0.0 then 1.0 else if x < 0.0 then -1.0 else if x == 0.0 then 0.0 else x

/-- The smaller number; an undefined one is ignored. -/
def minimum (x y : Float) : Float := if x ≤ y || y.isNaN then x else y

/-- The larger number; an undefined one is ignored. -/
def maximum (x y : Float) : Float := if x ≥ y || y.isNaN then x else y

/-- `m · 2^e` for `m < 2^53`. -/
def ofBinary (m : Nat) (e : Int) : Float := Float.scaleB m.toFloat e

/-- The remainder of the division of `x` by `y` towards zero; it has the sign of `x`. -/
def remainder (x y : Float) : Float :=
  if x.isNaN || y.isNaN || x.isInf || y == 0.0 then nan
  else if y.isInf then x
  else
    let a := Binary.ofBits x.toBits
    let b := Binary.ofBits y.toBits
    let e := min a.exponent b.exponent
    let m := a.mantissa * Nat.pow 2 (a.exponent - e).toNat
    let n := b.mantissa * Nat.pow 2 (b.exponent - e).toNat
    withSign (ofBinary (m % n) e) x

/-- The integer part of the square root of `n`, by bisection of `lo ≤ √n < hi`. -/
def sqrtBetween (n : Nat) : Nat → Nat → Nat → Nat
  | 0, lo, _ => lo
  | fuel + 1, lo, hi =>
    let mid := (lo + hi) / 2
    if hi ≤ lo + 1 then lo
    else if mid * mid ≤ n then sqrtBetween n fuel mid hi
    else sqrtBetween n fuel lo mid

def sqrt (n : Nat) : Nat :=
  let bits := n.log2 / 2 + 1
  sqrtBetween n (bits + 1) 0 (Nat.pow 2 bits)

/-- `√(n · 2^(2e))`, rounded once. The root is taken with sixty bits; if it is not exact its last
bit is set, which decides the ties. -/
def rootOfScaled (n : Nat) (e : Int) : Float :=
  if n = 0 then 0.0
  else
    let up := 60 - n.log2 / 2
    let down := n.log2 / 2 - 60
    let scaled := n * Nat.pow 4 up / Nat.pow 4 down
    let exact := scaled * Nat.pow 4 down == n * Nat.pow 4 up
    let r := sqrt scaled
    let r := if exact && r * r == scaled then r else r ||| 1
    Float.scaleB r.toUInt64.toFloat (e + (down : Int) - (up : Int))

/-- The length of the hypotenuse. -/
def hypotenuse (x y : Float) : Float :=
  if x.isInf || y.isInf then infinity
  else if x.isNaN || y.isNaN then nan
  else
    let a := Binary.ofBits x.toBits
    let b := Binary.ofBits y.toBits
    let e := min a.exponent b.exponent
    let m := a.mantissa * Nat.pow 2 (a.exponent - e).toNat
    let n := b.mantissa * Nat.pow 2 (b.exponent - e).toNat
    rootOfScaled (m * m + n * n) e

/-- The power of a number. The exponents minus one, zero, one half, one and two give the reciprocal,
one, the square root, the number and its square, each rounded once. -/
def power (x y : Float) : Float :=
  if y == -1.0 then 1.0 / x
  else if y == 0.0 then 1.0
  else if y == 0.5 then x.sqrt
  else if y == 1.0 then x
  else if y == 2.0 then x * x
  else x.pow y

/-- The logarithm of `x` to a base. -/
def logarithm (base x : Float) : Float := x.log / base.log

end Reckon.Numeric
