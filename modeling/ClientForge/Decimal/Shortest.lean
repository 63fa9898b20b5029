import ClientForge.Decimal.Double

/-!
The shortest decimal that reads back: of all decimals nearer to a finite number than to any other,
one with the fewest digits, and of those the nearest.

For `n = 1, 2, …` digits the two neighbours of the number on the grid of `n`-digit decimals are
tried; the first grid with a hit wins. Seventeen digits always do.
-/

namespace ClientForge.Decimal

/-- A decimal `digits · 10 ^ exponent`. -/
structure Scaled where
  digits : Nat
  exponent : Int
deriving DecidableEq, Repr

/-- A binary number `units · 2 ^ scale`, with the ends of the interval of reals that round to it
in the same unit. The ends belong to the interval iff `closed`. -/
structure Interval where
  low : Nat
  units : Nat
  high : Nat
  scale : Int
  closed : Bool

/-- The interval of a finite positive number. Below a power of two the gap is half as wide. -/
def Interval.of (x : Double) : Interval :=
  let m := x.significand
  let narrow := x.exponentField > 1 && x.fraction == 0
  { low := if narrow then 4 * m - 1 else 4 * m - 2
    units := 4 * m
    high := 4 * m + 2
    scale := x.exponent - 2
    closed := m % 2 == 0 }

/-- `d · 10 ^ e` and `u · 2 ^ s` as whole multiples of one common unit. -/
def onCommonUnit (d : Nat) (e : Int) (u : Nat) (s : Int) : Nat × Nat :=
  (d * Nat.pow 10 e.toNat * Nat.pow 2 (-s).toNat, u * Nat.pow 2 s.toNat * Nat.pow 10 (-e).toNat)

/-- Does the decimal round to the number? -/
def Interval.holds (i : Interval) (d : Nat) (e : Int) : Bool :=
  let (l, low) := onCommonUnit d e i.low i.scale
  let (h, high) := onCommonUnit d e i.high i.scale
  if i.closed then low ≤ l && h ≤ high else low < l && h < high

/-- How far the decimal is from the number, in a unit that depends on `e` alone. -/
def Interval.distance (i : Interval) (d : Nat) (e : Int) : Nat :=
  let (x, y) := onCommonUnit d e i.units i.scale
  if x ≤ y then y - x else x - y

/-- The greatest multiple of `10 ^ e` that is no greater than the number, in multiples. -/
def Interval.floor (i : Interval) (e : Int) : Nat :=
  i.units * Nat.pow 2 i.scale.toNat * Nat.pow 10 (-e).toNat /
    (Nat.pow 10 e.toNat * Nat.pow 2 (-i.scale).toNat)

/-- The hit on the grid of multiples of `10 ^ e`, if it has one; of two the nearer, of two
equally near ones the even one. -/
def Interval.pick? (i : Interval) (e : Int) : Option Scaled :=
  let a := i.floor e
  let b := a + 1
  match i.holds a e, i.holds b e with
  | true, true =>
    let da := i.distance a e
    let db := i.distance b e
    some ⟨if da < db || (da == db && a % 2 == 0) then a else b, e⟩
  | true, false => some ⟨a, e⟩
  | false, true => some ⟨b, e⟩
  | false, false => none

/-- The exponent of the number's leading decimal digit, searched downwards from `e`. -/
def Interval.leading (i : Interval) (e : Int) : Nat → Int
  | 0 => e
  | fuel + 1 => if 0 < i.floor e then e else i.leading (e - 1) fuel

/-- The first hit on the grids at `e`, `e - 1`, …. -/
def Interval.firstHit (i : Interval) (e : Int) : Nat → Scaled
  | 0 => ⟨i.floor e, e⟩
  | fuel + 1 => (i.pick? e).getD (i.firstHit (e - 1) fuel)

/-- No zeros at the end of the digits. -/
def Scaled.normal (s : Scaled) : Nat → Scaled
  | 0 => s
  | fuel + 1 =>
    if s.digits % 10 = 0 && 0 < s.digits then Scaled.normal ⟨s.digits / 10, s.exponent + 1⟩ fuel else s

/-- The shortest decimal of a finite number, without its sign. -/
def shortest (x : Double) : Scaled :=
  if x.significand = 0 then ⟨0, 0⟩
  else
    let i := Interval.of x
    let upper : Int := max (x.exponent / 3) (x.exponent * 3 / 10) + 18
    let e := i.leading upper (upper + 345).toNat
    (i.firstHit e 17).normal 20

end ClientForge.Decimal
