import Reckon.Numeric

/-!
# Numbers

A number is a double. Numerals, powers, constants that are defined and what functions give are
doubles of IEEE 754, which are divided by zero like by any other number. A number that is bound as
it was given may be a plain one: plain numbers among themselves give plain numbers again, and they
have no quotient by zero.
-/

namespace Reckon

inductive Number where
  | ieee (x : Float)
  | plain (x : Float)

namespace Number

def toFloat : Number → Float
  | ieee x => x
  | plain x => x

def isPlain : Number → Bool
  | ieee _ => false
  | plain _ => true

/-- The same double, to be computed with by IEEE 754. -/
def toIeee (a : Number) : Number := ieee a.toFloat

def neg : Number → Number
  | ieee x => ieee (-x)
  | plain x => plain (-x)

/-- The result of an operation, a plain one if both operands are. -/
def combine (f : Float → Float → Float) : Number → Number → Number
  | plain x, plain y => plain (f x y)
  | a, b => ieee (f a.toFloat b.toFloat)

def add : Number → Number → Number := combine (· + ·)

def subtract : Number → Number → Number := combine (· - ·)

def multiply : Number → Number → Number := combine (· * ·)

/-- The quotient, of which there is none by a plain zero if the dividend is plain too. -/
def divide? (a b : Number) : Option Number :=
  if a.isPlain && b.isPlain && b.toFloat == 0.0 then none else some (combine (· / ·) a b)

/-- The power, which is no plain number. -/
def power (a b : Number) : Number := ieee (Numeric.power a.toFloat b.toFloat)

end Number

end Reckon
