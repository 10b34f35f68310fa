/-!
# The fewest decimal digits that read back

A positive binary number `m · 2^q` stands for all reals that round to it, an interval around it
whose ends belong to it if `m` is even. For one digit, two digits and so on the two neighbours of
the number on that decimal grid are tried; the first grid with a neighbour in the interval gives
the digits, the nearer neighbour if both lie in it.
-/

namespace Reckon.Decimal

/-- The number `mantissa · 2^exponent`. -/
structure Binary where
  mantissa : Nat
  exponent : Int
  deriving Repr, DecidableEq

/-- The number `digits · 10^exponent`. -/
structure Scaled where
  digits : Nat
  exponent : Int
  deriving Repr, DecidableEq

/-- The least exponent of a double. -/
def minExponent : Int := -1074

/-- The finite number that the bits of a double stand for, without its sign. -/
def Binary.ofBits (bits : UInt64) : Binary :=
  let fraction : Nat := bits.toNat % Nat.pow 2 52
  let biased : Nat := bits.toNat / Nat.pow 2 52 % Nat.pow 2 11
  if biased = 0 then ⟨fraction, minExponent⟩ else ⟨fraction + Nat.pow 2 52, (biased : Int) - 1075⟩

/-- The number, the ends of its interval, and a common denominator of the three. -/
structure Interval where
  value : Nat
  low : Nat
  high : Nat
  den : Nat
  closed : Bool

/-- Half a unit on both sides, or a quarter below where the spacing of the numbers changes. -/
def Binary.interval (b : Binary) : Interval :=
  let below := if b.mantissa = Nat.pow 2 52 ∧ minExponent < b.exponent then 1 else 2
  let up := Nat.pow 2 (b.exponent - 2).toNat
  { value := 4 * b.mantissa * up
    low := (4 * b.mantissa - below) * up
    high := (4 * b.mantissa + 2) * up
    den := Nat.pow 2 (2 - b.exponent).toNat
    closed := b.mantissa % 2 = 0 }

namespace Interval

/-- The two sides of the comparison of `d · 10^u` with `x / den`, over one denominator. -/
def sides (i : Interval) (u : Int) (d x : Nat) : Nat × Nat :=
  (d * Nat.pow 10 u.toNat * i.den, x * Nat.pow 10 (-u).toNat)

/-- Does `d · 10^u` round to the number? -/
def holds (i : Interval) (u : Int) (d : Nat) : Bool :=
  let (a, low) := i.sides u d i.low
  let (_, high) := i.sides u d i.high
  if i.closed then low ≤ a && a ≤ high else low < a && a < high

/-- The digits below the number on the grid of `10^u`. -/
def floor (i : Interval) (u : Int) : Nat :=
  i.value * Nat.pow 10 (-u).toNat / (Nat.pow 10 u.toNat * i.den)

/-- The neighbour on the grid of `10^u` that rounds to the number, the nearer of two; of two
equally near the even one. -/
def pick (i : Interval) (u : Int) : Option Nat :=
  let d := i.floor u
  match i.holds u d, i.holds u (d + 1) with
  | false, false => none
  | true, false => some d
  | false, true => some (d + 1)
  | true, true =>
    let (a, x) := i.sides u d i.value
    let (b, _) := i.sides u (d + 1) i.value
    if x - a < b - x then some d
    else if b - x < x - a then some (d + 1)
    else if d % 2 = 0 then some d else some (d + 1)

/-- Tries the grids `10^u`, `10^(u-1)`, … -/
def search (i : Interval) : Nat → Int → Scaled
  | 0, u => ⟨i.floor u, u⟩
  | n + 1, u =>
    match i.pick u with
    | some d => ⟨d, u⟩
    | none => i.search n (u - 1)

/-- The exponent of the first digit of the number. -/
def leading (i : Interval) : Int :=
  let bits : Int := (i.value.log2 : Int) - (i.den.log2 : Int)
  let guess := bits * 30103 / 100000
  let (a, x) := i.sides (guess + 1) 1 i.value
  if a ≤ x then guess + 1 else guess

end Interval

/-- Drops the zeros at the end of the digits. -/
def Scaled.normalize : Nat → Scaled → Scaled
  | 0, s => s
  | n + 1, s =>
    if s.digits ≠ 0 ∧ s.digits % 10 = 0 then normalize n ⟨s.digits / 10, s.exponent + 1⟩ else s

/-- The shortest decimal that rounds to a positive number. -/
def Binary.shortest (b : Binary) : Scaled :=
  let i := b.interval
  (i.search 17 i.leading).normalize 20

end Reckon.Decimal
